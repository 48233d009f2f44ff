/-
The search through a notebook, cell by cell.

Joining the cells, searching once and translating the offset back amounts to
searching the cell of the token before the token and then every cell above it
from its end, nearest first. The induction runs over the cells: what a search
finds in a joined text is found behind the first joining line feed, or else in
the first cell.
-/

import SymbolJump.Definition.Cells
import SymbolJump.Proofs.Definition.Search

namespace SymbolJump.Definition.Cells

open Text

variable (set : RuleSet)

/-! ### The search of one cell after the other -/

/-- The last definition in one cell before an offset, with the number of the cell. -/
def inCell? (cells : Cells) (token : Token) (cell : Nat) (start : List Char → Nat) :
    Option (Nat × Token) := do
  let text ← cells[cell]?
  let found ← Definition.lastDefinition? set text token (start text)
  return (cell, found)

/-- The cell of the token is searched before the token. Only if it has no definition, the
cells above are searched from their ends, from the nearest one up. -/
def cellByCell? (cells : Cells) (cell : Nat) (token : Token) : Option (Nat × Token) :=
  (cells.inCell? set token cell fun _ => token.offset).or
    ((List.range cell).reverse.findSome? fun above => cells.inCell? set token above List.length)

def shift (place : Nat × Token) : Nat × Token :=
  (place.1 + 1, place.2)

theorem inCell?_succ (text : List Char) (rest : Cells) (token : Token) (cell : Nat)
    (start : List Char → Nat) :
    inCell? set (text :: rest) token (cell + 1) start =
      (inCell? set rest token cell start).map shift := by
  unfold inCell?
  rw [List.getElem?_cons_succ]
  cases rest[cell]? with
  | none => rfl
  | some own =>
      cases found : Definition.lastDefinition? set own token (start own) with
      | none => simp [found]
      | some place => simp [found, shift]

theorem cellByCell?_succ (text : List Char) (rest : Cells) (cell : Nat) (token : Token) :
    cellByCell? set (text :: rest) (cell + 1) token =
      ((cellByCell? set rest cell token).map shift).or
        (inCell? set (text :: rest) token 0 List.length) := by
  have shifted : ((fun above => inCell? set (text :: rest) token above List.length) ∘ Nat.succ) =
      Option.map shift ∘ (fun above => inCell? set rest token above List.length) := by
    funext above
    exact inCell?_succ set text rest token above List.length
  unfold cellByCell?
  rw [List.range_succ_eq_map, List.reverse_cons, List.findSome?_append, ← List.map_reverse,
    List.findSome?_map, shifted, ← List.map_findSome?, inCell?_succ, Option.map_or,
    Option.or_assoc, List.findSome?_singleton]

/-! ### The joined text -/

theorem joined_cons (text next : List Char) (rest : Cells) :
    joined (text :: next :: rest) = text ++ '\n' :: joined (next :: rest) := by
  simp [joined, List.intercalate]

theorem toGlobal?_zero (text : List Char) (rest : Cells) (offset : Nat) :
    toGlobal? (text :: rest) 0 offset = some (min offset text.length) := by
  simp [toGlobal?, base]

theorem base_succ (text : List Char) (rest : Cells) (cell : Nat) :
    base (text :: rest) (cell + 1) = text.length + 1 + base rest cell := by
  simp only [base, List.take_succ_cons, List.flatten_cons, List.length_append, List.length_cons]
  omega

theorem toGlobal?_succ (text : List Char) (rest : Cells) (cell offset : Nat) :
    toGlobal? (text :: rest) (cell + 1) offset =
      (toGlobal? rest cell offset).map (text.length + 1 + ·) := by
  unfold toGlobal?
  rw [List.getElem?_cons_succ, base_succ]
  cases rest[cell]? with
  | none => rfl
  | some own => simp [Nat.add_assoc]

theorem toLocal_inside (text : List Char) (rest : Cells) {offset : Nat}
    (inside : offset ≤ text.length) : toLocal (text :: rest) offset = (0, offset) := by
  cases rest with
  | nil => rfl
  | cons next rest => exact if_pos inside

theorem toLocal_behind (text next : List Char) (rest : Cells) (offset : Nat) :
    toLocal (text :: next :: rest) (text.length + 1 + offset) =
      ((toLocal (next :: rest) offset).1 + 1, (toLocal (next :: rest) offset).2) := by
  have behind : ¬text.length + 1 + offset ≤ text.length := by omega
  rw [toLocal, if_neg behind, Nat.add_sub_cancel_left]
  intro impossible
  cases impossible

/-! ### The joined search, one cell at a time -/

theorem lastDefinition?_zero (text : List Char) (rest : Cells) (token : Token) :
    lastDefinition? set (text :: rest) 0 token =
      inCell? set (text :: rest) token 0 fun _ => token.offset := by
  -- The feed and all behind it lie past the start, so only the first cell counts.
  have ownCell : Definition.lastDefinition? set (joined (text :: rest)) token
        (min token.offset text.length) =
      Definition.lastDefinition? set text token token.offset := by
    have sameStart : Definition.lastDefinition? set text token (min token.offset text.length) =
        Definition.lastDefinition? set text token token.offset := by
      unfold Definition.lastDefinition?
      rw [Nat.min_assoc, Nat.min_self]
    cases rest with
    | nil => rw [joined, List.intercalate_singleton, sameStart]
    | cons next rest =>
        have nothing : min token.offset text.length - (text.length + 1) = 0 := by omega
        rw [joined_cons, lastDefinition?_append_feed, nothing, Definition.lastDefinition?_zero,
          sameStart]
        rfl
  unfold lastDefinition? inCell?
  rw [toGlobal?_zero]
  simp only [Option.bind_eq_bind, Option.bind_some, ownCell, List.getElem?_cons_zero]
  cases found : Definition.lastDefinition? set text token token.offset with
  | none => rfl
  | some place =>
      obtain ⟨_, below, _⟩ := lastDefinition?_eq_some set found
      simp [toLocal_inside text rest (by omega : place.offset ≤ text.length)]

theorem lastDefinition?_succ (text : List Char) {rest : Cells} {cell : Nat}
    (inRange : cell < rest.length) (token : Token) :
    lastDefinition? set (text :: rest) (cell + 1) token =
      ((lastDefinition? set rest cell token).map shift).or
        (inCell? set (text :: rest) token 0 List.length) := by
  obtain ⟨next, others, rfl⟩ := List.exists_cons_of_length_pos (by omega : 0 < rest.length)
  obtain ⟨start, isStart⟩ : ∃ start, toGlobal? (next :: others) cell token.offset = some start := by
    unfold toGlobal?
    rw [List.getElem?_eq_getElem inRange]
    exact ⟨_, rfl⟩
  have parted : Definition.lastDefinition? set (joined (text :: next :: others)) token
        (text.length + 1 + start) =
      ((Definition.lastDefinition? set (joined (next :: others)) token start).map
        (advance (text.length + 1))).or
        (Definition.lastDefinition? set text token text.length) := by
    rw [joined_cons, lastDefinition?_append_feed, Nat.add_sub_cancel_left,
      lastDefinition?_of_length_le set token (by omega : text.length ≤ text.length + 1 + start)]
  unfold lastDefinition? inCell?
  rw [toGlobal?_succ, isStart]
  simp only [Option.map_some, Option.bind_eq_bind, Option.bind_some, parted,
    List.getElem?_cons_zero]
  cases Definition.lastDefinition? set (joined (next :: others)) token start with
  | some found => simp [advance, toLocal_behind, shift]
  | none =>
      cases found : Definition.lastDefinition? set text token text.length with
      | none => rfl
      | some place =>
          obtain ⟨_, below, _⟩ := lastDefinition?_eq_some set found
          simp [toLocal_inside text (next :: others) (by omega : place.offset ≤ text.length)]

theorem lastDefinition?_eq_cellByCell? {cells : Cells} {cell : Nat} (inRange : cell < cells.length)
    (token : Token) : lastDefinition? set cells cell token = cellByCell? set cells cell token := by
  induction cells generalizing cell with
  | nil => exact absurd inRange (Nat.not_lt_zero cell)
  | cons text rest ih =>
      cases cell with
      | zero =>
          rw [lastDefinition?_zero]
          exact (Option.or_none).symm
      | succ cell =>
          have restInRange : cell < rest.length := Nat.lt_of_succ_lt_succ inRange
          rw [lastDefinition?_succ set text restInRange, ih restInRange, cellByCell?_succ]

/-! ### What the search depends on and where it ends -/

theorem inCell?_eq_some {cells : Cells} {token found : Token} {cell owner : Nat}
    {start : List Char → Nat} (isFound : inCell? set cells token cell start = some (owner, found)) :
    owner = cell ∧ ∃ text, cells[cell]? = some text ∧
      Definition.lastDefinition? set text token (start text) = some found := by
  unfold inCell? at isFound
  simp only [Option.bind_eq_bind, Option.bind_eq_some_iff] at isFound
  obtain ⟨text, isText, place, isPlace, same⟩ := isFound
  cases same
  exact ⟨rfl, text, isText, isPlace⟩

theorem cellByCell?_eq_some {cells : Cells} {token found : Token} {cell owner : Nat}
    (isFound : cellByCell? set cells cell token = some (owner, found)) :
    owner ≤ cell ∧ ∃ text start, cells[owner]? = some text ∧
      Definition.lastDefinition? set text token start = some found := by
  unfold cellByCell? at isFound
  rcases Option.or_eq_some_iff.mp isFound with own | ⟨_, above⟩
  · obtain ⟨rfl, text, isText, isPlace⟩ := inCell?_eq_some set own
    exact ⟨Nat.le_refl _, text, _, isText, isPlace⟩
  · obtain ⟨number, member, place⟩ := List.exists_of_findSome?_eq_some above
    obtain ⟨rfl, text, isText, isPlace⟩ := inCell?_eq_some set place
    have isAbove : owner < cell := by simpa using member
    exact ⟨Nat.le_of_lt isAbove, text, _, isText, isPlace⟩

/-- What is found lies before the token, in its cell or in one above. -/
theorem cellByCell?_before {cells : Cells} {token found : Token} {cell owner : Nat}
    (isFound : cellByCell? set cells cell token = some (owner, found)) :
    owner < cell ∨ owner = cell ∧ found.offset < token.offset := by
  unfold cellByCell? at isFound
  rcases Option.or_eq_some_iff.mp isFound with own | ⟨_, above⟩
  · obtain ⟨sameCell, text, _, isPlace⟩ := inCell?_eq_some set own
    obtain ⟨_, below, _⟩ := lastDefinition?_eq_some set isPlace
    exact .inr ⟨sameCell, by omega⟩
  · obtain ⟨number, member, place⟩ := List.exists_of_findSome?_eq_some above
    obtain ⟨rfl, _⟩ := inCell?_eq_some set place
    exact .inl (by simpa using member)

/-- Cells below that of the token do not count. -/
theorem cellByCell?_take (cells : Cells) (cell : Nat) (token : Token) :
    cellByCell? set (cells.take (cell + 1)) cell token = cellByCell? set cells cell token := by
  induction cells generalizing cell with
  | nil => rfl
  | cons text rest ih =>
      cases cell with
      | zero => rfl
      | succ cell =>
          rw [List.take_succ_cons, cellByCell?_succ, cellByCell?_succ, ih]
          rfl

/-- Searching the joined text of a notebook is searching its cells one by one: that of the
token before the token, then those above it from their ends, the nearest first. The offset
reported is one of the cell it is reported for, where the name can be read, and cells below
that of the token make no difference. -/
theorem joinedSearch_is_cellByCell (cells : Cells) (cell : Nat) (token : Token)
    (inRange : cell < cells.length) :
    lastDefinition? set cells cell token = cellByCell? set cells cell token ∧
      (∀ owner found, lastDefinition? set cells cell token = some (owner, found) →
        owner ≤ cell ∧ ∃ text, cells[owner]? = some text ∧ found.value = token.value ∧
          found.offset < text.length ∧ token.value <+: text.drop found.offset) ∧
      ∀ others : Cells, others.take (cell + 1) = cells.take (cell + 1) →
        lastDefinition? set others cell token = lastDefinition? set cells cell token := by
  refine ⟨lastDefinition?_eq_cellByCell? set inRange token, ?_, ?_⟩
  · intro owner found isFound
    rw [lastDefinition?_eq_cellByCell? set inRange token] at isFound
    obtain ⟨upTo, text, start, isText, isPlace⟩ := cellByCell?_eq_some set isFound
    obtain ⟨sameName, below, place⟩ := lastDefinition?_eq_some set isPlace
    have readable := place.name_prefix
    rw [flatten_lines] at readable
    exact ⟨upTo, text, isText, sameName, by omega, readable⟩
  · intro others same
    have othersInRange : cell < others.length := by
      have lengths := congrArg List.length same
      rw [List.length_take, List.length_take] at lengths
      omega
    rw [lastDefinition?_eq_cellByCell? set inRange token,
      lastDefinition?_eq_cellByCell? set othersInRange token,
      ← cellByCell?_take set others, same, cellByCell?_take]

/-- The first cell ends with CR, so that its last line and the joining feed share one break;
the second begins with LF. -/
theorem joinedSearch_over_return :
    1 < ["x\r".toList, "\n x".toList, "x".toList].length ∧
      cellByCell? ⟨"", none, [{ name := "any" }]⟩ ["x\r".toList, "\n x".toList, "x".toList] 1
        ⟨['x'], 2⟩ = some (0, ⟨['x'], 0⟩) ∧
      lastDefinition? ⟨"", none, [{ name := "any" }]⟩ ["x\r".toList, "\n x".toList, "x".toList] 1
        ⟨['x'], 2⟩ = some (0, ⟨['x'], 0⟩) := by
  have inRange : 1 < ["x\r".toList, "\n x".toList, "x".toList].length := by decide
  have found : cellByCell? ⟨"", none, [{ name := "any" }]⟩
      ["x\r".toList, "\n x".toList, "x".toList] 1 ⟨['x'], 2⟩ = some (0, ⟨['x'], 0⟩) := by
    decide
  refine ⟨inRange, found, ?_⟩
  rw [(joinedSearch_is_cellByCell _ _ 1 _ inRange).1, found]

end SymbolJump.Definition.Cells
