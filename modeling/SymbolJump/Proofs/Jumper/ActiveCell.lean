/-
The active cell of a notebook.

The active cell is a number kept beside the list of cells, and each change of
the list has to move it along. That it still means the same cell is said by
what stands around it: a cell is identified by the cells before it and the
cells behind it, so that two cells alike in every field are told apart.
Insertions and removals change one of the two sides and never what lies
between them.
-/

import SymbolJump.Proofs.Jumper.NotebookReturn

namespace SymbolJump

namespace NotebookJumper

/-- The notebooks that can be met in use. Others share the history, so a jump may find it in
any state; an operation that fails leaves the notebook as it was. -/
inductive Reachable : NotebookJumper → Prop where
  | opened (id : String) (path : Path) (language : String) (registry : Definition.Registry) :
      Reachable { id := id, path := path, language := language, registry := registry }
  | setLanguage {jumper : NotebookJumper} (language : String) :
      Reachable jumper → Reachable (jumper.setLanguage language)
  | modifyCell {jumper : NotebookJumper} (index : Nat) (change : Editor → Editor) :
      Reachable jumper → Reachable (jumper.modifyCell index change)
  | pushCell {jumper : NotebookJumper} (cell : Editor) :
      Reachable jumper → Reachable (jumper.pushCell cell)
  | insertCell {jumper : NotebookJumper} (index : Nat) (cell : Editor) :
      Reachable jumper → Reachable (jumper.insertCell index cell).2
  | removeCell {jumper after : NotebookJumper} {index : Nat} {removed : Editor}
      (isRemoved : jumper.removeCell index = some (removed, after)) :
      Reachable jumper → Reachable after
  | setActive {jumper after : NotebookJumper} {index : Nat}
      (isSet : jumper.setActive index = some after) :
      Reachable jumper → Reachable after
  | jump {jumper arrived : NotebookJumper} {destination : Destination}
      (jumped : jumper.jump destination = some arrived) :
      Reachable jumper → Reachable arrived
  | jumpToDefinition {jumper : NotebookJumper} (history : History) (usage : Usage) :
      Reachable jumper → Reachable (jumper.jumpToDefinition history usage).2.1
  | jumpBack {jumper : NotebookJumper} (history : History) :
      Reachable jumper → Reachable (jumper.jumpBack history).2.1

/-- The cells before the active one, the active cell, and the cells behind it. -/
structure ActiveAt (jumper : NotebookJumper) (before : List Editor) (cell : Editor)
    (behind : List Editor) : Prop where
  cells : jumper.cells = before ++ cell :: behind
  active : jumper.active = before.length

def ActiveInRange (jumper : NotebookJumper) : Prop :=
  jumper.active < jumper.cells.length ∨ jumper.cells.length = 0 ∧ jumper.active = 0

/-- Cells that come or go join or leave one side of the active cell. -/
structure KeepsActive (jumper : NotebookJumper) (before : List Editor) (cell : Editor)
    (behind : List Editor) : Prop where
  pushed : ∀ added, (jumper.pushCell added).ActiveAt before cell (behind ++ [added])
  insertedBefore : ∀ index added, index ≤ jumper.active →
    (jumper.insertCell index added).2.ActiveAt (before.take index ++ added :: before.drop index)
      cell behind
  insertedBehind : ∀ index added, jumper.active < index →
    (jumper.insertCell index added).2.ActiveAt before cell
      (behind.take (index - jumper.active - 1) ++
        added :: behind.drop (index - jumper.active - 1))
  removedBefore : ∀ index, index < jumper.active → ∃ removed after,
    jumper.removeCell index = some (removed, after) ∧ before[index]? = some removed ∧
      after.ActiveAt (before.eraseIdx index) cell behind
  removedBehind : ∀ index, jumper.active < index → index < jumper.cells.length →
    ∃ removed after, jumper.removeCell index = some (removed, after) ∧
      behind[index - jumper.active - 1]? = some removed ∧
      after.ActiveAt before cell (behind.eraseIdx (index - jumper.active - 1))

variable {jumper after : NotebookJumper} {index : Nat} {cell removed : Editor}
  {before behind : List Editor}

/-! ### The index -/

theorem activeInRange_arrive (isCell : jumper.cells[index]? = some cell) (changed : Editor) :
    ActiveInRange { jumper with cells := jumper.cells.set index changed, active := index } := by
  obtain ⟨inRange, _⟩ := List.getElem?_eq_some_iff.mp isCell
  left
  change index < (jumper.cells.set index changed).length
  rw [List.length_set]
  exact inRange

theorem activeInRange_insertCell (inRange : jumper.ActiveInRange) (index : Nat)
    (added : Editor) : (jumper.insertCell index added).2.ActiveInRange := by
  left
  have length : (jumper.insertCell index added).2.cells.length = jumper.cells.length + 1 := by
    rw [cells_insertCell, List.length_append, List.length_cons, List.length_take,
      List.length_drop]
    omega
  rw [length, active_insertCell]
  unfold ActiveInRange at inRange
  split <;> omega

theorem activeInRange_removeCell (inRange : jumper.ActiveInRange)
    (isRemoved : jumper.removeCell index = some (removed, after)) : after.ActiveInRange := by
  obtain ⟨isCell, rfl⟩ := removeCell_eq_some isRemoved
  obtain ⟨isIndex, _⟩ := List.getElem?_eq_some_iff.mp isCell
  unfold ActiveInRange at inRange ⊢
  rw [List.length_eraseIdx_of_lt isIndex]
  dsimp only
  split <;> omega

theorem activeInRange_jump {destination : Destination}
    (jumped : jumper.jump destination = some after) : after.ActiveInRange := by
  obtain ⟨index, cell, isCell, rfl⟩ := jump_eq_some jumped
  exact activeInRange_arrive isCell _

theorem activeInRange_jumpToDefinition (inRange : jumper.ActiveInRange) (history : History)
    (usage : Usage) : (jumper.jumpToDefinition history usage).2.1.ActiveInRange := by
  cases found : jumper.definition? usage with
  | none =>
      rw [jumpToDefinition_of_none found]
      exact inRange
  | some place =>
      obtain ⟨owner, token⟩ := place
      obtain ⟨_, target, _, _, isTarget, _, jumped⟩ := jumpToDefinition_of_some found history
      rw [jumped]
      exact activeInRange_arrive isTarget _

theorem activeInRange_jumpBack (inRange : jumper.ActiveInRange) (history : History) :
    (jumper.jumpBack history).2.1.ActiveInRange := by
  cases stacked : history.stack jumper.surface with
  | nil =>
      rw [jumpBack_of_nil stacked]
      exact inRange
  | cons latest earlier =>
      rw [jumpBack_of_cons stacked]
      cases jumped : jumper.jump latest with
      | none => exact inRange
      | some arrived => exact activeInRange_jump jumped

theorem Reachable.activeInRange (reachable : jumper.Reachable) : jumper.ActiveInRange := by
  induction reachable with
  | opened id path language registry => exact .inr ⟨rfl, rfl⟩
  | setLanguage language _ ih => exact ih
  | @modifyCell jumper index change _ ih =>
      unfold ActiveInRange at ih ⊢
      change jumper.active < (jumper.cells.modify index change).length ∨
        (jumper.cells.modify index change).length = 0 ∧ jumper.active = 0
      rw [List.length_modify]
      exact ih
  | @pushCell jumper cell _ ih =>
      left
      change jumper.active < (jumper.cells ++ [cell]).length
      rw [List.length_append, List.length_singleton]
      unfold ActiveInRange at ih
      omega
  | insertCell index cell _ ih => exact activeInRange_insertCell ih index cell
  | removeCell isRemoved _ ih => exact activeInRange_removeCell ih isRemoved
  | setActive isSet _ ih =>
      unfold NotebookJumper.setActive at isSet
      split at isSet
      · next inRange =>
          cases isSet
          exact .inl inRange
      · cases isSet
  | jump jumped _ _ => exact activeInRange_jump jumped
  | jumpToDefinition history usage _ ih => exact activeInRange_jumpToDefinition ih history usage
  | jumpBack history _ ih => exact activeInRange_jumpBack ih history

/-! ### The cell -/

theorem activeAt_of_lt (inRange : jumper.active < jumper.cells.length) :
    jumper.ActiveAt (jumper.cells.take jumper.active) jumper.cells[jumper.active]
      (jumper.cells.drop (jumper.active + 1)) where
  cells := by rw [List.getElem_cons_drop, List.take_append_drop]
  active := by rw [List.length_take, Nat.min_eq_left (Nat.le_of_lt inRange)]

namespace ActiveAt

theorem length (place : jumper.ActiveAt before cell behind) :
    jumper.cells.length = jumper.active + behind.length + 1 := by
  rw [place.cells, place.active, List.length_append, List.length_cons]
  omega

theorem activeCell? (place : jumper.ActiveAt before cell behind) :
    jumper.activeCell? = some cell := by
  unfold NotebookJumper.activeCell?
  rw [place.cells, place.active, List.getElem?_append_right (Nat.le_refl _), Nat.sub_self,
    List.getElem?_cons_zero]

theorem getElem?_before (place : jumper.ActiveAt before cell behind)
    (inFront : index < jumper.active) : jumper.cells[index]? = before[index]? := by
  rw [place.active] at inFront
  rw [place.cells, List.getElem?_append_left inFront]

theorem getElem?_behind (place : jumper.ActiveAt before cell behind) (steps : Nat) :
    jumper.cells[jumper.active + (steps + 1)]? = behind[steps]? := by
  rw [place.cells, place.active, List.getElem?_append_right (Nat.le_add_right _ _),
    Nat.add_sub_cancel_left, List.getElem?_cons_succ]

theorem insertCell_before (place : jumper.ActiveAt before cell behind)
    (inFront : index ≤ jumper.active) (added : Editor) :
    (jumper.insertCell index added).2.ActiveAt
      (before.take index ++ added :: before.drop index) cell behind where
  cells := by
    rw [place.active] at inFront
    rw [cells_insertCell, place.cells, List.take_append_of_le_length inFront,
      List.drop_append_of_le_length inFront, List.append_assoc, List.cons_append]
  active := by
    have length := place.length
    have active := place.active
    rw [active_insertCell, if_pos (by omega), List.length_append, List.length_cons,
      List.length_take, List.length_drop]
    omega

theorem insertCell_behind (place : jumper.ActiveAt before cell behind) (steps : Nat)
    (added : Editor) :
    (jumper.insertCell (jumper.active + (steps + 1)) added).2.ActiveAt before cell
      (behind.take steps ++ added :: behind.drop steps) where
  cells := by
    rw [cells_insertCell, place.cells, place.active, List.take_length_add_append,
      List.drop_length_add_append, List.take_succ_cons, List.drop_succ_cons, List.append_assoc,
      List.cons_append]
  active := by
    have length := place.length
    rw [active_insertCell, if_neg (by omega), place.active]

theorem removeCell_before (place : jumper.ActiveAt before cell behind)
    (inFront : index < jumper.active)
    (isRemoved : jumper.removeCell index = some (removed, after)) :
    after.ActiveAt (before.eraseIdx index) cell behind := by
  obtain ⟨_, rfl⟩ := removeCell_eq_some isRemoved
  have inBefore : index < before.length := by
    rw [← place.active]
    exact inFront
  constructor
  · change jumper.cells.eraseIdx index = _
    rw [place.cells, List.eraseIdx_append_of_lt_length inBefore]
  · rw [List.length_eraseIdx_of_lt inBefore, if_pos (.inl inFront), place.active]

theorem removeCell_behind (place : jumper.ActiveAt before cell behind) {steps : Nat}
    (isRemoved : jumper.removeCell (jumper.active + (steps + 1)) = some (removed, after)) :
    after.ActiveAt before cell (behind.eraseIdx steps) := by
  obtain ⟨isCell, rfl⟩ := removeCell_eq_some isRemoved
  obtain ⟨inRange, _⟩ := List.getElem?_eq_some_iff.mp isCell
  constructor
  · change jumper.cells.eraseIdx _ = _
    rw [place.cells, place.active, List.eraseIdx_append_of_length_le (Nat.le_add_right _ _),
      Nat.add_sub_cancel_left, List.eraseIdx_cons_succ]
  · dsimp only
    rw [if_neg (by omega), place.active]

theorem keepsActive (place : jumper.ActiveAt before cell behind) :
    jumper.KeepsActive before cell behind where
  pushed added := by
    refine ⟨?_, place.active⟩
    change jumper.cells ++ [added] = _
    rw [place.cells, List.append_assoc, List.cons_append]
  insertedBefore index added inFront := place.insertCell_before inFront added
  insertedBehind index added later := by
    obtain ⟨steps, rfl⟩ := Nat.exists_eq_add_of_lt later
    rw [Nat.add_assoc, Nat.add_sub_cancel_left, Nat.add_sub_cancel]
    exact place.insertCell_behind steps added
  removedBefore index inFront := by
    have length := place.length
    have inRange : index < jumper.cells.length := by omega
    obtain ⟨removed, after, isRemoved⟩ := exists_removeCell inRange
    refine ⟨removed, after, isRemoved, ?_, place.removeCell_before inFront isRemoved⟩
    rw [← place.getElem?_before inFront]
    exact (removeCell_eq_some isRemoved).1
  removedBehind index later inRange := by
    obtain ⟨removed, after, isRemoved⟩ := exists_removeCell inRange
    obtain ⟨steps, rfl⟩ := Nat.exists_eq_add_of_lt later
    rw [Nat.add_assoc] at isRemoved ⊢
    rw [Nat.add_sub_cancel_left, Nat.add_sub_cancel]
    refine ⟨removed, after, isRemoved, ?_, place.removeCell_behind isRemoved⟩
    rw [← place.getElem?_behind steps]
    exact (removeCell_eq_some isRemoved).1

end ActiveAt

end NotebookJumper

/-! ### Every notebook in use -/

namespace NotebookSession

theorem reachable_run {session : NotebookSession} (reachable : session.jumper.Reachable)
    (actions : List NotebookAction) : (session.run actions).jumper.Reachable := by
  induction actions generalizing session with
  | nil => exact reachable
  | cons action actions ih =>
      refine ih ?_
      cases action with
      | define usage => exact .jumpToDefinition session.history usage reachable
      | back => exact .jumpBack session.history reachable
      | jump destination =>
          change ((session.jumper.jump destination).getD session.jumper).Reachable
          cases jumped : session.jumper.jump destination with
          | none => exact reachable
          | some arrived => exact .jump jumped reachable
      | setCursor index position => exact .modifyCell index _ reachable
      | insert index cell => exact .insertCell index cell reachable
      | push cell => exact .pushCell cell reachable
      | remove index =>
          change (((session.jumper.removeCell index).map Prod.snd).getD session.jumper).Reachable
          cases isRemoved : session.jumper.removeCell index with
          | none => exact reachable
          | some pair => exact .removeCell isRemoved reachable
      | activate index =>
          change ((session.jumper.setActive index).getD session.jumper).Reachable
          cases isSet : session.jumper.setActive index with
          | none => exact reachable
          | some after => exact .setActive isSet reachable

end NotebookSession

namespace NotebookJumper

open NotebookSession (exampleCell)

/-- The active index of a notebook in use is that of one of its cells, or there are none and
the index is zero. The first cell that is added to it becomes the active one. From then on the
active cell stays the one it is whenever another is pushed, inserted or removed. -/
theorem active_cell_stays_the_same (jumper : NotebookJumper) (reachable : jumper.Reachable) :
    jumper.ActiveInRange ∧
      (jumper.cells = [] → ∀ added,
        (jumper.pushCell added).ActiveAt [] added [] ∧
          ∀ index, (jumper.insertCell index added).2.ActiveAt [] added []) ∧
      (jumper.cells ≠ [] → ∃ before cell behind,
        jumper.ActiveAt before cell behind ∧ jumper.KeepsActive before cell behind) := by
  have inRange := reachable.activeInRange
  refine ⟨inRange, ?_, ?_⟩
  · intro empty added
    have noCells : jumper.cells.length = 0 := List.length_eq_zero_iff.mpr empty
    have isZero : jumper.active = 0 := by
      unfold ActiveInRange at inRange
      omega
    constructor
    · refine ⟨?_, isZero⟩
      change jumper.cells ++ [added] = [] ++ [added]
      rw [empty]
    · intro index
      constructor
      · rw [cells_insertCell, empty, List.take_nil, List.drop_nil]
      · rw [active_insertCell, if_neg (by omega)]
        exact isZero
  · intro nonempty
    have someCells : 0 < jumper.cells.length := List.length_pos_iff.mpr nonempty
    have isCell : jumper.active < jumper.cells.length := by
      unfold ActiveInRange at inRange
      omega
    have place := activeAt_of_lt isCell
    exact ⟨_, _, _, place, place.keepsActive⟩

/-- Three cells, the last one inserted far beyond the end, and the second one active. -/
def threeCells : NotebookJumper :=
  (NotebookSession.run
    { jumper := { id := "n", path := [], language := "any", registry := ⟨[]⟩ }
      history := .empty }
    [.push (exampleCell "a" ['x']), .push (exampleCell "b" ['x']),
     .insert 7 (exampleCell "c" ['x']), .activate 1]).jumper

theorem active_cell_stays_the_same_of_three_cells :
    threeCells.Reachable ∧ threeCells.cells.map (·.id) = ["a", "b", "c"] ∧
      ((threeCells.insertCell 1 (exampleCell "d" [])).2.activeCell?).map (·.id) = some "b" ∧
      ((threeCells.removeCell 0).bind (·.2.activeCell?)).map (·.id) = some "b" := by
  have inUse : threeCells.Reachable := NotebookSession.reachable_run (.opened ..) _
  obtain ⟨before, cell, behind, place, keeps⟩ :=
    (active_cell_stays_the_same threeCells inUse).2.2 (by decide)
  have isSecond : cell.id = "b" := by
    have active : threeCells.activeCell?.map (·.id) = some "b" := by decide
    rw [place.activeCell?] at active
    exact Option.some.inj active
  have inserted := keeps.insertedBefore 1 (exampleCell "d" []) (by decide)
  obtain ⟨removed, after, isRemoved, _, kept⟩ := keeps.removedBefore 0 (by decide)
  refine ⟨inUse, by decide, ?_, ?_⟩
  · rw [inserted.activeCell?, Option.map_some, isSecond]
  · rw [isRemoved, Option.bind_some, kept.activeCell?, Option.map_some, isSecond]

end NotebookJumper

end SymbolJump
