/-
What becomes of the cells of a notebook.

Moving a caret, adding, removing and jumping all leave a list of cells whose
ids and texts were there before or came with an added cell. A list of this
kind descends from the earlier one: it keeps ids distinct, texts with their
ids, and carets at rest. An id therefore leads to one cell at most, whose
number may change from step to step.
-/

import Mathlib.Data.List.Nodup
import SymbolJump.Proofs.Jumper.Moves

namespace SymbolJump

open Text

/-- What a cell keeps while carets move. -/
def Editor.content (cell : Editor) : String × List Char :=
  (cell.id, cell.text)

structure Descends (cells after : List Editor) : Prop where
  kept : ∃ left : List Editor,
    left.Sublist cells ∧ (after.map Editor.content).Perm (left.map Editor.content)
  settled : ∀ cell ∈ after, cell ∈ cells ∨ Rests cell.text cell.cursor

namespace Descends

variable {cells after : List Editor}

theorem of_sublist (part : after.Sublist cells) : Descends cells after where
  kept := ⟨after, part, .refl _⟩
  settled := fun _ member => .inl (part.subset member)

theorem refl (cells : List Editor) : Descends cells cells :=
  of_sublist (.refl cells)

theorem of_perm (reordered : after.Perm cells) : Descends cells after where
  kept := ⟨cells, .refl cells, reordered.map _⟩
  settled := fun _ member => .inl (reordered.subset member)

theorem set {index : Nat} {cell changed : Editor} (isCell : cells[index]? = some cell)
    (sameContent : changed.content = cell.content) (rests : Rests changed.text changed.cursor) :
    Descends cells (cells.set index changed) where
  kept := by
    obtain ⟨inRange, rfl⟩ := List.getElem?_eq_some_iff.mp isCell
    have unchanged : (cells.set index changed).map Editor.content = cells.map Editor.content := by
      rw [List.map_set, sameContent, ← List.getElem_map Editor.content, List.set_getElem_self]
      rw [List.length_map]
      exact inRange
    exact ⟨cells, .refl cells, by rw [unchanged]⟩
  settled := by
    intro other member
    rcases List.mem_or_eq_of_mem_set member with before | rfl
    · exact .inl before
    · exact .inr rests

theorem append_nil (descends : Descends cells after) : Descends (cells ++ []) after := by
  rw [List.append_nil]
  exact descends

theorem append (descends : Descends cells after) (others : List Editor) :
    Descends (cells ++ others) (after ++ others) where
  kept := by
    obtain ⟨left, part, same⟩ := descends.kept
    refine ⟨left ++ others, part.append_right others, ?_⟩
    rw [List.map_append, List.map_append]
    exact same.append_right _
  settled := by
    intro cell member
    rcases List.mem_append.mp member with inAfter | inOthers
    · rcases descends.settled cell inAfter with before | rests
      · exact .inl (List.mem_append_left others before)
      · exact .inr rests
    · exact .inl (List.mem_append_right cells inOthers)

theorem exists_content (descends : Descends cells after) {cell : Editor} (member : cell ∈ after) :
    ∃ source ∈ cells, source.content = cell.content := by
  obtain ⟨left, part, same⟩ := descends.kept
  have inLeft := same.subset (List.mem_map_of_mem member)
  obtain ⟨source, sourceLeft, sameContent⟩ := List.mem_map.mp inLeft
  exact ⟨source, part.subset sourceLeft, sameContent⟩

theorem distinct (descends : Descends cells after) (distinct : (cells.map (·.id)).Nodup) :
    (after.map (·.id)).Nodup := by
  obtain ⟨left, part, same⟩ := descends.kept
  have leftDistinct : (left.map (·.id)).Nodup := (part.map _).nodup distinct
  have sameIds : (after.map (·.id)).Perm (left.map (·.id)) := by
    have projected := same.map Prod.fst
    rw [List.map_map, List.map_map] at projected
    exact projected
  exact sameIds.nodup_iff.mpr leftDistinct

theorem rests (descends : Descends cells after)
    (atRest : ∀ cell ∈ cells, Rests cell.text cell.cursor) :
    ∀ cell ∈ after, Rests cell.text cell.cursor := by
  intro cell member
  rcases descends.settled cell member with before | rests
  · exact atRest cell before
  · exact rests

end Descends

/-! ### Cells and their ids -/

theorem Editor.eq_of_id {cells : List Editor} (distinct : (cells.map (·.id)).Nodup)
    {cell other : Editor} (member : cell ∈ cells) (otherMember : other ∈ cells)
    (sameId : cell.id = other.id) : cell = other :=
  List.inj_on_of_nodup_map distinct member otherMember sameId

namespace NotebookJumper

theorem cellIndex?_of_cell {jumper : NotebookJumper} {index : Nat} {cell : Editor}
    (distinct : (jumper.cells.map (·.id)).Nodup) (isCell : jumper.cells[index]? = some cell) :
    jumper.cellIndex? cell.id = some index := by
  obtain ⟨inRange, rfl⟩ := List.getElem?_eq_some_iff.mp isCell
  refine List.findIdx?_eq_some_iff_getElem.mpr ⟨inRange, by simp, ?_⟩
  intro earlier before sameId
  have inIds (number : Nat) (isNumber : number < jumper.cells.length) :
      number < (jumper.cells.map (·.id)).length := by
    rw [List.length_map]
    exact isNumber
  have apart := List.pairwise_iff_getElem.mp distinct earlier index (inIds earlier (by omega))
    (inIds index inRange) before
  rw [List.getElem_map, List.getElem_map] at apart
  exact apart (eq_of_beq sameId)

theorem cellIndex?_of_missing {jumper : NotebookJumper} {editor : String}
    (missing : ∀ cell ∈ jumper.cells, cell.id ≠ editor) : jumper.cellIndex? editor = none := by
  refine List.findIdx?_eq_none_iff.mpr ?_
  intro cell member
  exact beq_eq_false_iff_ne.mpr (missing cell member)

/-! ### Single operations -/

theorem jump_getD_surface (jumper : NotebookJumper) (destination : Destination) :
    ((jumper.jump destination).getD jumper).surface = jumper.surface := by
  cases jumped : jumper.jump destination with
  | none => rfl
  | some arrived =>
      obtain ⟨index, cell, _, rfl⟩ := jump_eq_some jumped
      rfl

theorem descends_jump (jumper : NotebookJumper) (destination : Destination) :
    Descends jumper.cells ((jumper.jump destination).getD jumper).cells := by
  cases jumped : jumper.jump destination with
  | none => exact .refl _
  | some arrived =>
      obtain ⟨index, cell, isCell, rfl⟩ := jump_eq_some jumped
      exact .set isCell rfl (rests_clamp _ _)

theorem descends_setCursor (jumper : NotebookJumper) (index : Nat) (position : Position) :
    Descends jumper.cells (jumper.modifyCell index (·.setCursor position)).cells := by
  change Descends jumper.cells (jumper.cells.modify index _)
  rw [List.modify_eq_set_getElem?]
  cases isCell : jumper.cells[index]? with
  | none => exact .refl _
  | some cell => exact .set isCell rfl (rests_clamp _ _)

theorem cells_insertCell (jumper : NotebookJumper) (index : Nat) (added : Editor) :
    (jumper.insertCell index added).2.cells =
      jumper.cells.take index ++ added :: jumper.cells.drop index := by
  rcases Nat.le_total index jumper.cells.length with within | beyond
  · simp only [insertCell, Nat.min_eq_left within]
  · simp only [insertCell, Nat.min_eq_right beyond, List.take_of_length_le beyond,
      List.drop_of_length_le beyond, List.take_length, List.drop_length]

theorem active_insertCell (jumper : NotebookJumper) (index : Nat) (added : Editor) :
    (jumper.insertCell index added).2.active =
      if min index jumper.cells.length ≤ jumper.active ∧ 0 < jumper.cells.length then
        jumper.active + 1
      else jumper.active := by
  simp only [insertCell, Bool.and_eq_true, decide_eq_true_eq]

theorem descends_insertCell (jumper : NotebookJumper) (index : Nat) (cell : Editor) :
    Descends (jumper.cells ++ [cell]) (jumper.insertCell index cell).2.cells := by
  apply Descends.of_perm
  rw [cells_insertCell]
  refine List.perm_middle.trans ?_
  rw [List.take_append_drop]
  exact (List.perm_append_singleton cell jumper.cells).symm

theorem removeCell_eq_some {jumper after : NotebookJumper} {index : Nat} {removed : Editor}
    (isRemoved : jumper.removeCell index = some (removed, after)) :
    jumper.cells[index]? = some removed ∧
      after = { jumper with
        cells := jumper.cells.eraseIdx index
        active :=
          if index < jumper.active ∨ jumper.cells.length ≤ jumper.active + 1 then
            jumper.active - 1
          else jumper.active } := by
  obtain ⟨_, isCell, isPair⟩ := Option.map_eq_some_iff.mp isRemoved
  cases isPair
  have inRange := (List.getElem?_eq_some_iff.mp isCell).1
  have shorter : (jumper.cells.eraseIdx index).length ≤ jumper.active ↔
      jumper.cells.length ≤ jumper.active + 1 := by
    rw [List.length_eraseIdx_of_lt inRange]
    omega
  refine ⟨isCell, ?_⟩
  simp only [Bool.or_eq_true, decide_eq_true_eq, shorter]

theorem exists_removeCell {jumper : NotebookJumper} {index : Nat}
    (inRange : index < jumper.cells.length) :
    ∃ removed after, jumper.removeCell index = some (removed, after) := by
  unfold removeCell
  rw [List.getElem?_eq_getElem inRange]
  exact ⟨_, _, rfl⟩

theorem removeCell_getD_surface (jumper : NotebookJumper) (index : Nat) :
    (((jumper.removeCell index).map Prod.snd).getD jumper).surface = jumper.surface := by
  unfold removeCell
  cases jumper.cells[index]? with
  | none => rfl
  | some removed => rfl

theorem descends_removeCell (jumper : NotebookJumper) (index : Nat) :
    Descends jumper.cells (((jumper.removeCell index).map Prod.snd).getD jumper).cells := by
  unfold removeCell
  cases jumper.cells[index]? with
  | none => exact .refl _
  | some removed => exact .of_sublist (List.eraseIdx_sublist _ _)

theorem setActive_getD_surface (jumper : NotebookJumper) (index : Nat) :
    ((jumper.setActive index).getD jumper).surface = jumper.surface := by
  unfold setActive
  split <;> rfl

theorem descends_setActive (jumper : NotebookJumper) (index : Nat) :
    Descends jumper.cells ((jumper.setActive index).getD jumper).cells := by
  unfold setActive
  split <;> exact .refl _

end NotebookJumper

end SymbolJump
