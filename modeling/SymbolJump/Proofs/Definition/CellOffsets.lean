/-
Places of cells in the joined text.

A place of the joined text is a place of exactly one cell, the last one that
begins at or before it, and the place of a joining line feed is the end of the
cell before the feed. Going from a cell into the joined text and back moves no
offset, apart from those past the end of the cell, and going the other way round
moves none.
-/

import SymbolJump.Proofs.Definition.Cells

namespace SymbolJump.Definition.Cells

variable {cells : Cells} {text : List Char} {cell offset place : Nat}

/-! ### Where cells begin -/

theorem base_zero (cells : Cells) : base cells 0 = 0 := by
  rw [base, List.take_zero]
  rfl

theorem base_mono (cells : Cells) {later : Nat} (ordered : cell ≤ later) :
    base cells cell ≤ base cells later := by
  induction ordered with
  | refl => exact Nat.le_refl _
  | step _ ih =>
      refine Nat.le_trans ih ?_
      unfold base
      rw [List.take_add_one, List.flatten_append, List.length_append, List.length_append]
      omega

/-- Between the beginnings of neighbours there is the first cell and a line feed. -/
theorem base_next (isCell : cells[cell]? = some text) :
    base cells (cell + 1) = base cells cell + text.length + 1 := by
  unfold base
  rw [List.take_add_one, isCell, List.flatten_append, List.length_append, List.length_append,
    Option.toList_some, List.flatten_singleton, List.length_singleton]
  omega

/-- The cells that begin at or before a place of a cell are that cell and those before it. The
last cell takes all places that are left. -/
theorem base_le_iff (isCell : cells[cell]? = some text)
    (upTo : offset ≤ text.length ∨ cell + 1 = cells.length) {other : Nat}
    (inRange : other < cells.length) :
    base cells other ≤ base cells cell + offset ↔ other ≤ cell := by
  constructor
  · intro begun
    refine Nat.le_of_not_lt fun later => ?_
    have nextBegun := base_mono cells (Nat.succ_le_of_lt later)
    rw [base_next isCell] at nextBegun
    omega
  · intro upToCell
    exact Nat.le_trans (base_mono cells upToCell) (Nat.le_add_right _ _)

/-! ### Out of a cell -/

theorem toGlobal?_of_cell (isCell : cells[cell]? = some text) (offset : Nat) :
    toGlobal? cells cell offset = some (base cells cell + min offset text.length) := by
  rw [toGlobal?, isCell, Option.map_some]

theorem toGlobal?_eq_none_iff : toGlobal? cells cell offset = none ↔ cells.length ≤ cell := by
  rw [toGlobal?, Option.map_eq_none_iff, List.getElem?_eq_none_iff]

theorem toLocal_base_add (isCell : cells[cell]? = some text) (inside : offset ≤ text.length) :
    toLocal cells (base cells cell + offset) = (cell, offset) := by
  -- A cell put in front moves every beginning by its text and a feed; the look-up takes both off.
  induction cells generalizing cell with
  | nil => cases isCell
  | cons first rest ih =>
      cases cell with
      | zero =>
          cases isCell
          rw [base_zero, Nat.zero_add, toLocal_inside _ _ inside]
      | succ cell =>
          rw [List.getElem?_cons_succ] at isCell
          cases rest with
          | nil => cases isCell
          | cons next rest =>
              rw [base_succ, Nat.add_assoc, toLocal_behind, ih isCell]

/-! ### The text of a cell -/

theorem length_joined_cons (text next : List Char) (rest : Cells) :
    (joined (text :: next :: rest)).length =
      text.length + 1 + (joined (next :: rest)).length := by
  rw [joined_cons, List.length_append, List.length_cons]
  omega

theorem getElem?_joined_inside (text : List Char) (rest : Cells) (inside : offset < text.length) :
    (joined (text :: rest))[offset]? = text[offset]? := by
  cases rest with
  | nil => rw [joined, List.intercalate_singleton]
  | cons next rest => rw [joined_cons, List.getElem?_append_left inside]

theorem getElem?_joined_behind (text next : List Char) (rest : Cells) (offset : Nat) :
    (joined (text :: next :: rest))[text.length + 1 + offset]? =
      (joined (next :: rest))[offset]? := by
  have behind : text.length + 1 + offset - text.length = offset + 1 := by omega
  rw [joined_cons, List.getElem?_append_right (by omega), behind, List.getElem?_cons_succ]

theorem getElem?_joined (isCell : cells[cell]? = some text) (inside : offset < text.length) :
    (joined cells)[base cells cell + offset]? = text[offset]? := by
  induction cells generalizing cell with
  | nil => cases isCell
  | cons first rest ih =>
      cases cell with
      | zero =>
          cases isCell
          rw [base_zero, Nat.zero_add, getElem?_joined_inside _ _ inside]
      | succ cell =>
          rw [List.getElem?_cons_succ] at isCell
          cases rest with
          | nil => cases isCell
          | cons next rest =>
              rw [base_succ, Nat.add_assoc, getElem?_joined_behind, ih isCell]

theorem base_add_le (isCell : cells[cell]? = some text) (inside : offset ≤ text.length) :
    base cells cell + offset ≤ (joined cells).length := by
  induction cells generalizing cell with
  | nil => cases isCell
  | cons first rest ih =>
      cases cell with
      | zero =>
          cases isCell
          cases rest with
          | nil =>
              rw [base_zero, joined, List.intercalate_singleton]
              omega
          | cons next rest =>
              rw [base_zero, length_joined_cons]
              omega
      | succ cell =>
          rw [List.getElem?_cons_succ] at isCell
          cases rest with
          | nil => cases isCell
          | cons next rest =>
              have fits := ih isCell
              rw [base_succ, length_joined_cons]
              omega

/-! ### Into a cell -/

/-- Every place is one of the cell it is looked up in, and only the last cell takes places past
its end. -/
theorem exists_cell_of_place (nonempty : cells ≠ []) (place : Nat) :
    ∃ cell text offset, toLocal cells place = (cell, offset) ∧ cells[cell]? = some text ∧
      base cells cell + offset = place ∧
        (offset ≤ text.length ∨ cell + 1 = cells.length ∧ (joined cells).length < place) := by
  induction cells generalizing place with
  | nil => exact absurd rfl nonempty
  | cons text rest ih =>
      by_cases inside : place ≤ text.length
      · refine ⟨0, text, place, toLocal_inside text rest inside, rfl, ?_, .inl inside⟩
        rw [base_zero, Nat.zero_add]
      · cases rest with
        | nil =>
            refine ⟨0, text, place, rfl, rfl, by rw [base_zero, Nat.zero_add], .inr ⟨rfl, ?_⟩⟩
            rw [joined, List.intercalate_singleton]
            exact Nat.lt_of_not_le inside
        | cons next rest =>
            obtain ⟨further, rfl⟩ : ∃ further, place = text.length + 1 + further :=
              ⟨place - (text.length + 1), by omega⟩
            obtain ⟨cell, own, offset, isPlace, isCell, isSum, upTo⟩ :=
              ih (List.cons_ne_nil next rest) further
            refine ⟨cell + 1, own, offset, ?_, isCell, ?_, ?_⟩
            · rw [toLocal_behind, isPlace]
            · rw [base_succ, Nat.add_assoc, isSum]
            · rw [length_joined_cons]
              rcases upTo with insideOwn | ⟨isLast, past⟩
              · exact .inl insideOwn
              · exact .inr ⟨congrArg (· + 1) isLast, by omega⟩

/-- The place of a cell's offset leads back to the cell and the offset, an offset past its end
to its end, and shows the character of the cell. A place of the joined text is looked up in the
last cell that begins at or before it, and the offset there, which is what the cell's beginning
leaves of the place, leads back to the place. Only cells out of range have no places. -/
theorem cell_offsets_and_places_are_inverse (cells : Cells) (nonempty : cells ≠ []) :
    (∀ cell offset, toGlobal? cells cell offset = none ↔ cells.length ≤ cell) ∧
      (∀ cell text offset, cells[cell]? = some text →
        ∃ place, toGlobal? cells cell offset = some place ∧ place ≤ (joined cells).length ∧
          toLocal cells place = (cell, min offset text.length) ∧
          (offset < text.length → (joined cells)[place]? = text[offset]?)) ∧
      ∀ place, ∃ cell offset, toLocal cells place = (cell, offset) ∧ cell < cells.length ∧
        base cells cell + offset = place ∧
        (∀ other < cells.length, base cells other ≤ place ↔ other ≤ cell) ∧
        (place ≤ (joined cells).length → toGlobal? cells cell offset = some place) := by
  refine ⟨fun cell offset => toGlobal?_eq_none_iff, ?_, ?_⟩
  · intro cell text offset isCell
    have clamped : min offset text.length ≤ text.length := Nat.min_le_right _ _
    refine ⟨_, toGlobal?_of_cell isCell offset, base_add_le isCell clamped,
      toLocal_base_add isCell clamped, ?_⟩
    intro inside
    rw [Nat.min_eq_left (Nat.le_of_lt inside), getElem?_joined isCell inside]
  · intro place
    obtain ⟨cell, text, offset, isPlace, isCell, isSum, upTo⟩ := exists_cell_of_place nonempty place
    have inRange := (List.getElem?_eq_some_iff.mp isCell).1
    refine ⟨cell, offset, isPlace, inRange, isSum, ?_, ?_⟩
    · intro other otherInRange
      rw [← isSum, base_le_iff isCell (upTo.imp_right And.left) otherInRange]
    · intro inText
      have inside : offset ≤ text.length := by
        rcases upTo with inside | ⟨_, past⟩
        · exact inside
        · omega
      rw [toGlobal?_of_cell isCell, Nat.min_eq_left inside, isSum]

/-- An empty cell has one place, which is a joining line feed, and the end of the cell before is
the line feed in front of it. -/
theorem cell_offsets_and_places_are_inverse_around_empty_cell :
    [['a', '\r'], [], ['b']] ≠ [] ∧
      toGlobal? [['a', '\r'], [], ['b']] 1 7 = some 3 ∧
      toLocal [['a', '\r'], [], ['b']] 3 = (1, 0) ∧
      toLocal [['a', '\r'], [], ['b']] 2 = (0, 2) ∧
      (joined [['a', '\r'], [], ['b']])[4]? = some 'b' := by
  have nonempty : [['a', '\r'], [], ['b']] ≠ [] := List.cons_ne_nil _ _
  obtain ⟨_, outOf, _⟩ := cell_offsets_and_places_are_inverse _ nonempty
  obtain ⟨place, isPlace, _, backToEmpty, _⟩ := outOf 1 [] 7 rfl
  obtain ⟨feed, isFeed, _, backToEnd, _⟩ := outOf 0 ['a', '\r'] 2 rfl
  obtain ⟨last, isLast, _, _, shows⟩ := outOf 2 ['b'] 0 rfl
  cases isPlace
  cases isFeed
  cases isLast
  exact ⟨nonempty, rfl, backToEmpty, backToEnd, shows (by decide)⟩

end SymbolJump.Definition.Cells
