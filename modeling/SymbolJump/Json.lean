/-
JSON values, the form of everything a language server sends and receives.

A whole number of 64 bits is told apart from every other number: a number
written with a fraction or an exponent is never taken for an integer.
-/

namespace SymbolJump

inductive Json where
  | null
  | bool (value : Bool)
  | int (value : Int)
  /-- The number `mantissa * 10 ^ exponent`. -/
  | decimal (mantissa exponent : Int)
  | string (value : String)
  | array (items : List Json)
  | object (members : List (String × Json))
  deriving Repr

namespace Json

instance : Inhabited Json := ⟨null⟩

def nat (value : Nat) : Json :=
  int value

/-- The value a list of members gives a key. -/
def member? (members : List (String × Json)) (key : String) : Option Json :=
  members.lookup key

/-- The value under a key of an object. -/
def get? (value : Json) (key : String) : Option Json :=
  match value with
  | object members => member? members key
  | _ => none

/-- An unsigned integer below a limit. -/
def natBelow? (limit : Nat) : Json → Option Nat
  | int (Int.ofNat value) => if value < limit then some value else none
  | _ => none

/-- A signed integer of 64 bits. -/
def int64? : Json → Option Int64
  | int value =>
      if -0x8000000000000000 ≤ value ∧ value < 0x8000000000000000 then some (.ofInt value) else none
  | _ => none

def string? : Json → Option String
  | string value => some value
  | _ => none

/-- The fields of a record, in the order of their names. An object gives each field by its
key and may have others; an array gives all of them in order. -/
def fields? (names : List String) : Json → Option (List (Option Json))
  | object members => some (names.map (member? members))
  | array items => if items.length = names.length then some (items.map some) else none
  | _ => none

/-- A field that may be left out; null is the same as absent. -/
def optional : Option Json → Option Json
  | some null => none
  | field => field

/-! ### What is read -/

theorem string?_eq_some_iff {json : Json} {value : String} :
    json.string? = some value ↔ json = .string value := by
  cases json <;> simp [string?]

theorem natBelow?_eq_some_iff {json : Json} {limit value : Nat} :
    json.natBelow? limit = some value ↔ json = nat value ∧ value < limit := by
  unfold natBelow?
  split
  · next written =>
      rw [Option.ite_none_right_eq_some, Option.some.injEq]
      constructor
      · rintro ⟨below, rfl⟩
        exact ⟨rfl, below⟩
      · rintro ⟨same, below⟩
        cases same
        exact ⟨below, rfl⟩
  · next other =>
      constructor
      · intro impossible
        cases impossible
      · rintro ⟨rfl, _⟩
        exact absurd rfl (other value)

theorem int64?_toInt (value : Int64) : int64? (int value.toInt) = some value := by
  have inRange : -0x8000000000000000 ≤ value.toInt ∧ value.toInt < 0x8000000000000000 :=
    ⟨value.le_toInt, value.toInt_lt⟩
  rw [int64?, if_pos inRange, Int64.ofInt_toInt]

theorem optional_of_ne {field : Option Json} (present : field ≠ some null) :
    optional field = field := by
  unfold optional
  split
  · exact absurd rfl present
  · rfl

theorem optional_ne_null (field : Option Json) : optional field ≠ some null := by
  unfold optional
  split
  · simp
  · assumption

end Json

end SymbolJump
