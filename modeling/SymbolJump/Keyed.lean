/-
Finite maps kept as lists of entries, each key at most once.

A new key goes to the end and a known key keeps its place, so the order of the
entries is the order in which their keys came in.
-/

namespace SymbolJump

/-- A finite map from keys to values. -/
structure Keyed (κ α : Type) where
  entries : List (κ × α)
  deriving Repr

namespace Keyed

variable {κ α : Type} [DecidableEq κ]

def empty : Keyed κ α := ⟨[]⟩

instance : Inhabited (Keyed κ α) := ⟨empty⟩

def get? (map : Keyed κ α) (key : κ) : Option α :=
  map.entries.lookup key

def contains (map : Keyed κ α) (key : κ) : Bool :=
  (map.get? key).isSome

def keys (map : Keyed κ α) : List κ :=
  map.entries.map Prod.fst

def values (map : Keyed κ α) : List α :=
  map.entries.map Prod.snd

def size (map : Keyed κ α) : Nat :=
  map.entries.length

/-- Gives a key in a list of entries a value. -/
def insertEntry (key : κ) (value : α) : List (κ × α) → List (κ × α)
  | [] => [(key, value)]
  | (other, held) :: rest =>
      if other = key then (key, value) :: rest else (other, held) :: insertEntry key value rest

def insert (map : Keyed κ α) (key : κ) (value : α) : Keyed κ α :=
  ⟨insertEntry key value map.entries⟩

def erase (map : Keyed κ α) (key : κ) : Keyed κ α :=
  ⟨map.entries.filter fun entry => entry.1 ≠ key⟩

/-! ### What a key leads to -/

theorem lookup_insertEntry_self (key : κ) (value : α) (entries : List (κ × α)) :
    (insertEntry key value entries).lookup key = some value := by
  induction entries with
  | nil => simp [insertEntry]
  | cons entry rest ih =>
      obtain ⟨held, other⟩ := entry
      by_cases same : held = key
      · simp [insertEntry, same]
      · have apart : (key == held) = false := beq_eq_false_iff_ne.mpr (Ne.symm same)
        simp [insertEntry, same, List.lookup_cons, apart, ih]

theorem lookup_insertEntry_of_ne {key other : κ} (different : other ≠ key) (value : α)
    (entries : List (κ × α)) :
    (insertEntry key value entries).lookup other = entries.lookup other := by
  have apart : (other == key) = false := beq_eq_false_iff_ne.mpr different
  induction entries with
  | nil => simp [insertEntry, List.lookup_cons, apart]
  | cons entry rest ih =>
      obtain ⟨held, stored⟩ := entry
      by_cases same : held = key
      · simp [insertEntry, same, List.lookup_cons, apart]
      · simp [insertEntry, same, List.lookup_cons, ih]

theorem lookup_filter_of_ne {key other : κ} (different : other ≠ key) (entries : List (κ × α)) :
    (entries.filter fun entry => entry.1 ≠ key).lookup other = entries.lookup other := by
  have apart : (other == key) = false := beq_eq_false_iff_ne.mpr different
  induction entries with
  | nil => rfl
  | cons entry rest ih =>
      obtain ⟨held, stored⟩ := entry
      by_cases same : held = key
      · rw [List.filter_cons_of_neg (by simp [same]), ih, same, List.lookup_cons, apart]
      · rw [List.filter_cons_of_pos (by simp [same]), List.lookup_cons, List.lookup_cons, ih]

theorem lookup_filter_self (key : κ) (entries : List (κ × α)) :
    (entries.filter fun entry => entry.1 ≠ key).lookup key = none := by
  induction entries with
  | nil => rfl
  | cons entry rest ih =>
      obtain ⟨held, stored⟩ := entry
      by_cases same : held = key
      · rw [List.filter_cons_of_neg (by simp [same]), ih]
      · have apart : (key == held) = false := beq_eq_false_iff_ne.mpr (Ne.symm same)
        rw [List.filter_cons_of_pos (by simp [same]), List.lookup_cons, apart, ih]

@[simp] theorem get?_empty (key : κ) : (empty : Keyed κ α).get? key = none := rfl

@[simp] theorem get?_insert_self (map : Keyed κ α) (key : κ) (value : α) :
    (map.insert key value).get? key = some value :=
  lookup_insertEntry_self key value map.entries

theorem get?_insert_of_ne (map : Keyed κ α) {key other : κ} (different : other ≠ key)
    (value : α) : (map.insert key value).get? other = map.get? other :=
  lookup_insertEntry_of_ne different value map.entries

@[simp] theorem get?_erase_self (map : Keyed κ α) (key : κ) : (map.erase key).get? key = none :=
  lookup_filter_self key map.entries

theorem get?_erase_of_ne (map : Keyed κ α) {key other : κ} (different : other ≠ key) :
    (map.erase key).get? other = map.get? other :=
  lookup_filter_of_ne different map.entries

theorem get?_insert (map : Keyed κ α) (key other : κ) (value : α) :
    (map.insert key value).get? other = if other = key then some value else map.get? other := by
  by_cases same : other = key
  · rw [if_pos same, same, get?_insert_self]
  · rw [if_neg same, get?_insert_of_ne map same]

theorem get?_erase (map : Keyed κ α) (key other : κ) :
    (map.erase key).get? other = if other = key then none else map.get? other := by
  by_cases same : other = key
  · rw [if_pos same, same, get?_erase_self]
  · rw [if_neg same, get?_erase_of_ne map same]

theorem contains_insert (map : Keyed κ α) (key other : κ) (value : α) :
    (map.insert key value).contains other = (decide (other = key) || map.contains other) := by
  unfold contains
  rw [get?_insert]
  by_cases same : other = key <;> simp [same]

theorem contains_insert_of_known {map : Keyed κ α} {key : κ} (known : map.contains key = true)
    (value : α) (other : κ) : (map.insert key value).contains other = map.contains other := by
  rw [contains_insert]
  by_cases same : other = key
  · rw [same, known, Bool.or_true]
  · rw [decide_eq_false same, Bool.false_or]

theorem contains_erase (map : Keyed κ α) (key other : κ) :
    (map.erase key).contains other = (!decide (other = key) && map.contains other) := by
  unfold contains
  rw [get?_erase]
  by_cases same : other = key <;> simp [same]

theorem get?_foldl_erase (map : Keyed κ α) (keys : List κ) (other : κ) :
    (keys.foldl erase map).get? other = if other ∈ keys then none else map.get? other := by
  induction keys generalizing map with
  | nil => simp
  | cons key rest ih =>
      rw [List.foldl_cons, ih, get?_erase]
      by_cases same : other = key <;> simp [same]

theorem mem_entries_of_get? {map : Keyed κ α} {key : κ} {value : α}
    (found : map.get? key = some value) : (key, value) ∈ map.entries := by
  obtain ⟨before, after, isEntries, _⟩ := List.lookup_eq_some_iff.mp found
  rw [isEntries]
  simp

theorem mem_keys_of_get? {map : Keyed κ α} {key : κ} {value : α}
    (found : map.get? key = some value) : key ∈ map.keys :=
  List.mem_map.mpr ⟨_, mem_entries_of_get? found, rfl⟩

theorem contains_iff_mem {map : Keyed κ α} {key : κ} :
    map.contains key = true ↔ ∃ value, (key, value) ∈ map.entries := by
  constructor
  · intro known
    obtain ⟨value, found⟩ := Option.isSome_iff_exists.mp known
    exact ⟨value, mem_entries_of_get? found⟩
  · rintro ⟨value, member⟩
    exact List.lookup_isSome_iff.mpr ⟨(key, value), member, beq_self_eq_true key⟩

/-! ### Each key at most once -/

def Distinct (map : Keyed κ α) : Prop :=
  map.keys.Nodup

theorem keys_insertEntry (key : κ) (value : α) (entries : List (κ × α)) :
    (insertEntry key value entries).map Prod.fst =
      if key ∈ entries.map Prod.fst then entries.map Prod.fst
      else entries.map Prod.fst ++ [key] := by
  induction entries with
  | nil => simp [insertEntry]
  | cons entry rest ih =>
      obtain ⟨held, other⟩ := entry
      by_cases same : held = key
      · simp [insertEntry, same]
      · simp only [insertEntry, if_neg same, List.map_cons, ih, List.mem_cons, Ne.symm same,
          false_or]
        split <;> rfl

theorem Distinct.insert {map : Keyed κ α} (distinct : map.Distinct) (key : κ) (value : α) :
    (map.insert key value).Distinct := by
  change ((insertEntry key value map.entries).map Prod.fst).Nodup
  rw [keys_insertEntry]
  split
  · exact distinct
  · next absent =>
      refine List.pairwise_append.mpr ⟨distinct, List.pairwise_singleton _ _, ?_⟩
      intro held isHeld other isKey same
      rw [same, List.mem_singleton.mp isKey] at isHeld
      exact absent isHeld

theorem Distinct.erase {map : Keyed κ α} (distinct : map.Distinct) (key : κ) :
    (map.erase key).Distinct :=
  distinct.sublist (List.filter_sublist.map Prod.fst)

theorem Distinct.foldl_erase {map : Keyed κ α} (distinct : map.Distinct) (keys : List κ) :
    (keys.foldl Keyed.erase map).Distinct := by
  induction keys generalizing map with
  | nil => exact distinct
  | cons key rest ih => exact ih (distinct.erase key)

theorem lookup_eq_some_of_mem {entries : List (κ × α)} (distinct : (entries.map Prod.fst).Nodup)
    {key : κ} {value : α} (member : (key, value) ∈ entries) :
    entries.lookup key = some value := by
  induction entries with
  | nil => cases member
  | cons entry rest ih =>
      obtain ⟨held, other⟩ := entry
      obtain ⟨absent, restDistinct⟩ := List.nodup_cons.mp distinct
      rcases List.mem_cons.mp member with same | later
      · cases same
        rw [List.lookup_cons, beq_self_eq_true]
      · have different : key ≠ held := by
          rintro rfl
          exact absent (List.mem_map.mpr ⟨_, later, rfl⟩)
        rw [List.lookup_cons, beq_eq_false_iff_ne.mpr different]
        exact ih restDistinct later

theorem Distinct.get?_of_mem {map : Keyed κ α} (distinct : map.Distinct) {key : κ} {value : α}
    (member : (key, value) ∈ map.entries) : map.get? key = some value :=
  lookup_eq_some_of_mem distinct member

theorem Distinct.get?_eq_some_iff {map : Keyed κ α} (distinct : map.Distinct) {key : κ}
    {value : α} : map.get? key = some value ↔ (key, value) ∈ map.entries :=
  ⟨mem_entries_of_get?, distinct.get?_of_mem⟩

end Keyed

/-! ### Maps with other values -/

namespace Keyed

variable {κ α β : Type}

def mapValues (f : α → β) (map : Keyed κ α) : Keyed κ β :=
  ⟨map.entries.map fun entry => (entry.1, f entry.2)⟩

theorem mapValues_congr {f g : α → β} {map : Keyed κ α}
    (alike : ∀ entry ∈ map.entries, f entry.2 = g entry.2) :
    map.mapValues f = map.mapValues g :=
  congrArg Keyed.mk (List.map_congr_left fun entry member => Prod.ext rfl (alike entry member))

theorem mapValues_mapValues {γ : Type} (f : α → β) (g : β → γ) (map : Keyed κ α) :
    (map.mapValues f).mapValues g = map.mapValues (g ∘ f) := by
  refine congrArg Keyed.mk ?_
  unfold mapValues
  rw [List.map_map]
  rfl

theorem values_mapValues (f : α → β) (map : Keyed κ α) :
    (map.mapValues f).values = map.values.map f := by
  unfold mapValues values
  rw [List.map_map, List.map_map]
  rfl

variable [DecidableEq κ]

theorem get?_mapValues (f : α → β) (map : Keyed κ α) (key : κ) :
    (map.mapValues f).get? key = (map.get? key).map f := by
  unfold mapValues get?
  induction map.entries with
  | nil => rfl
  | cons entry rest ih =>
      rw [List.map_cons, List.lookup_cons, List.lookup_cons, ih]
      cases key == entry.1 <;> rfl

theorem mapValues_insert (f : α → β) (map : Keyed κ α) (key : κ) (value : α) :
    (map.insert key value).mapValues f = (map.mapValues f).insert key (f value) := by
  refine congrArg Keyed.mk ?_
  unfold mapValues insert
  dsimp only
  induction map.entries with
  | nil => rfl
  | cons entry rest ih =>
      simp only [insertEntry, List.map_cons]
      split
      · rfl
      · rw [List.map_cons, ih]

theorem mapValues_erase (f : α → β) (map : Keyed κ α) (key : κ) :
    (map.erase key).mapValues f = (map.mapValues f).erase key := by
  refine congrArg Keyed.mk ?_
  unfold mapValues erase
  rw [List.filter_map]
  rfl

/-- A value that looks like the old one makes no difference. -/
theorem mapValues_insert_of_get? {f : α → β} {map : Keyed κ α} {key : κ} {held value : α}
    (isHeld : map.get? key = some held) (alike : f value = f held) :
    (map.insert key value).mapValues f = map.mapValues f := by
  obtain ⟨entries⟩ := map
  unfold get? at isHeld
  refine congrArg Keyed.mk ?_
  change (insertEntry key value entries).map _ = entries.map _
  dsimp only at isHeld
  induction entries with
  | nil => cases isHeld
  | cons entry rest ih =>
      obtain ⟨other, stored⟩ := entry
      unfold insertEntry
      rw [List.lookup_cons] at isHeld
      by_cases same : other = key
      · rw [if_pos same, same]
        rw [same, beq_self_eq_true] at isHeld
        cases isHeld
        rw [List.map_cons, List.map_cons, alike]
      · rw [beq_eq_false_iff_ne.mpr (Ne.symm same)] at isHeld
        rw [if_neg same, List.map_cons, List.map_cons, ih isHeld]

end Keyed

end SymbolJump
