/-
Sweeps over the notebooks of a navigator.

A sweep only hooks editors, so what is hooked by several sweeps depends on the
order of the notebooks alone. Ticking at an earlier time first brings the same
notebooks in the same order, and changes nothing. While open editors have
different ids, no sweep takes a cell away from the notebook of another one.
-/

import Mathlib.Data.List.Pairwise
import SymbolJump.Proofs.Navigator.ActiveCell
import SymbolJump.Proofs.Navigator.Deadlines

namespace SymbolJump.Navigator

open Server Text

variable {navigator : Navigator}

/-! ### Sweeps apart from their deadlines -/

def withSweeps (navigator : Navigator) (sweeps : Sweeps) : Navigator :=
  { navigator with sweeps := sweeps }

section

variable (change : Navigator → Navigator)
  (sameHook : ∀ navigator editorId owner, (change navigator).hook editorId owner =
    ((navigator.hook editorId owner).1, change (navigator.hook editorId owner).2))

include sameHook

theorem hookAll_commutes (navigator : Navigator) (owner : Surface) (editorIds : List String) :
    (change navigator).hookAll owner editorIds =
      ((navigator.hookAll owner editorIds).1, change (navigator.hookAll owner editorIds).2) := by
  induction editorIds generalizing navigator with
  | nil => rfl
  | cons editorId rest ih =>
      have later := ih (navigator.hook editorId owner).2
      simp only [hookAll, sameHook, later]

theorem sweep_commutes
    (sameNotebooks : ∀ navigator, (change navigator).notebooks = navigator.notebooks)
    (navigator : Navigator) (notebooks : List String) :
    (change navigator).sweep notebooks =
      ((navigator.sweep notebooks).1, change (navigator.sweep notebooks).2) := by
  induction notebooks generalizing navigator with
  | nil => rfl
  | cons notebook rest ih =>
      unfold sweep
      rw [sameNotebooks]
      cases navigator.notebooks.get? notebook with
      | none => exact ih navigator
      | some jumper => simp only [hookAll_commutes change sameHook, ih]

end

theorem sweep_withSweeps (navigator : Navigator) (sweeps : Sweeps) (notebooks : List String) :
    (navigator.withSweeps sweeps).sweep notebooks =
      ((navigator.sweep notebooks).1, (navigator.sweep notebooks).2.withSweeps sweeps) :=
  sweep_commutes (·.withSweeps sweeps) (fun _ _ _ => rfl) (fun _ => rfl) navigator notebooks

theorem sweep_append (navigator : Navigator) (first second : List String) :
    navigator.sweep (first ++ second) =
      ((navigator.sweep first).1 + ((navigator.sweep first).2.sweep second).1,
        ((navigator.sweep first).2.sweep second).2) := by
  induction first generalizing navigator with
  | nil => simp only [List.nil_append, sweep, Nat.zero_add]
  | cons notebook rest ih =>
      simp only [List.cons_append, sweep]
      cases navigator.notebooks.get? notebook with
      | none => exact ih navigator
      | some jumper => simp only [ih, Nat.add_assoc]

theorem tick_eq (navigator : Navigator) (now : Nat) :
    navigator.tick now =
      ((navigator.sweep (navigator.sweeps.due now).1).1,
        (navigator.sweep (navigator.sweeps.due now).1).2.withSweeps
          (navigator.sweeps.due now).2) :=
  navigator.sweep_withSweeps (navigator.sweeps.due now).2 (navigator.sweeps.due now).1

theorem tick_tick (navigator : Navigator) {earlier later : Nat} (ordered : earlier ≤ later) :
    ((navigator.tick earlier).1 + ((navigator.tick earlier).2.tick later).1,
      ((navigator.tick earlier).2.tick later).2) = navigator.tick later := by
  obtain ⟨sameOrder, sameLeft⟩ := navigator.sweeps.due_due ordered
  have second := (navigator.tick earlier).2.tick_eq later
  rw [navigator.tick_eq earlier] at second ⊢
  rw [second, navigator.tick_eq later, ← sameOrder, ← sameLeft, sweep_append, sweep_withSweeps]
  rfl

/-! ### Deadlines of notebooks -/

/-- What an action means for the sweeps. -/
def Action.occurrence? : Action → Option Sweeps.Action
  | .notebookAdded id _ _ now => some (.schedule id now)
  | .closed (.notebook id) => some (.cancel id)
  | .tick now => some (.due now)
  | _ => none

theorem cancel_of_unscheduled {sweeps : Sweeps} {notebook : String}
    (unscheduled : sweeps.isScheduled notebook = false) : (sweeps.cancel notebook).2 = sweeps := by
  have kept : (sweeps.deadlines.entries.filter fun entry => entry.1 ≠ notebook) =
      sweeps.deadlines.entries := by
    refine List.filter_eq_self.mpr fun entry member => decide_eq_true fun same => ?_
    have scheduled : sweeps.isScheduled notebook = true :=
      Keyed.contains_iff_mem.mpr ⟨entry.2, same ▸ member⟩
    rw [unscheduled] at scheduled
    cases scheduled
  exact congrArg (fun entries => Sweeps.mk ⟨entries⟩) kept

theorem Consistent.sweeps_closed (consistent : navigator.Consistent) (surface : Surface) :
    (navigator.closed surface).2.sweeps =
      match surface with
      | .file _ => navigator.sweeps
      | .notebook id => (navigator.sweeps.cancel id).2 := by
  cases isOpen : navigator.isOpen surface with
  | false =>
      rw [closed_of_not_open isOpen]
      cases surface with
      | file id => rfl
      | notebook id =>
          have unscheduled : navigator.sweeps.isScheduled id = false := by
            rw [Bool.eq_false_iff]
            intro scheduled
            cases isOpen.symm.trans (consistent.sweepOpen id scheduled)
          exact (cancel_of_unscheduled unscheduled).symm
  | true =>
      obtain ⟨removed, isRemoved⟩ := exists_removeWidget? isOpen
      rw [consistent.closed_of_removeWidget? isRemoved isOpen]
      change removed.sweeps = _
      cases surface with
      | file id =>
          obtain ⟨entry, _, rfl⟩ := Option.map_eq_some_iff.mp isRemoved
          rw [retire_eq]
      | notebook id =>
          obtain ⟨jumper, _, rfl⟩ := Option.map_eq_some_iff.mp isRemoved
          rfl

theorem Consistent.sweeps_act (consistent : navigator.Consistent)
    {chronicle : Sweeps.Chronicle} (same : navigator.sweeps = chronicle.sweeps)
    (action : Action) :
    (navigator.act action).sweeps = (chronicle.run action.occurrence?.toList).sweeps := by
  cases action with
  | setRegistry registry => exact same
  | setConnector connector => exact same
  | fileAdded editor path =>
      obtain ⟨bridge, connected, retired, isAfter⟩ := navigator.fileAdded_eq editor path
      simp only [act, isAfter]
      exact same
  | notebookAdded id path language now =>
      change (navigator.sweeps.schedule id now).2 = (chronicle.sweeps.schedule id now).2
      rw [same]
  | cellAdded notebook index cell =>
      refine Eq.trans ?_ same
      refine getD_preserves (motive := fun after => after.sweeps = navigator.sweeps) rfl ?_
      intro place after added
      obtain ⟨jumper, _, isAfter⟩ := Option.map_eq_some_iff.mp added
      cases isAfter
      rfl
  | cellRemoved notebook index =>
      refine Eq.trans ?_ same
      simp only [act, Navigator.cellRemoved]
      split <;> rfl
  | activeCellChanged notebook index =>
      refine Eq.trans ?_ same
      simp only [act, Navigator.activeCellChanged]
      split
      · split <;> rfl
      · rfl
  | tick now =>
      change (navigator.tick now).2.sweeps = (chronicle.sweeps.due now).2
      rw [navigator.tick_eq now, ← same]
      rfl
  | typeChanged editorId contentType =>
      refine Eq.trans ?_ same
      simp only [act, Navigator.typeChanged]
      split
      · exact (navigator.quiet_setJumper _ _).sweeps
      · rfl
  | focusChanged surface =>
      refine Eq.trans ?_ same
      simp only [act, Navigator.focusChanged]
      split
      · cases surface <;> rfl
      · rfl
  | closed surface =>
      refine (consistent.sweeps_closed surface).trans ?_
      cases surface with
      | file id => exact same
      | notebook id =>
          change (navigator.sweeps.cancel id).2 = (chronicle.sweeps.cancel id).2
          rw [same]
  | gesture trigger editorId gesture =>
      exact (navigator.quiet_gesture trigger editorId gesture).sweeps.trans same
  | execute command => exact (navigator.quiet_execute command).sweeps.trans same
  | jump surface destination =>
      exact getD_preserves (motive := fun after => after.sweeps = chronicle.sweeps) same
        fun _ _ made => (quiet_withJumper made).sweeps.trans same
  | jumpOutside surface target linked =>
      exact getD_preserves (motive := fun after => after.sweeps = chronicle.sweeps) same
        fun _ _ made => (quiet_jumpOutside made).sweeps.trans same
  | ask command point => exact (navigator.quiet_ask command point).sweeps.trans same
  | pump => exact navigator.quiet_pump.sweeps.trans same
  | setCursor surface cell position =>
      exact getD_preserves (motive := fun after => after.sweeps = chronicle.sweeps) same
        fun _ _ made => (quiet_withJumper made).sweeps.trans same
  | setText surface cell text =>
      exact getD_preserves (motive := fun after => after.sweeps = chronicle.sweeps) same
        fun _ _ made => (quiet_withJumper made).sweeps.trans same
  | serve number action =>
      exact getD_preserves (motive := fun after => after.sweeps = chronicle.sweeps) same
        fun _ _ made => (consistent.quiet_serve made).sweeps.trans same

theorem Consistent.sweeps_run (consistent : navigator.Consistent)
    {chronicle : Sweeps.Chronicle} (same : navigator.sweeps = chronicle.sweeps)
    (actions : List Action) :
    (navigator.run actions).sweeps =
      (chronicle.run (actions.filterMap Action.occurrence?)).sweeps := by
  induction actions generalizing navigator chronicle with
  | nil => exact same
  | cons action rest ih =>
      have first := consistent.sweeps_act same action
      have later := ih (consistent_act navigator action consistent) first
      refine later.trans ?_
      cases happens : action.occurrence? with
      | none => rw [List.filterMap_cons_none happens]; rfl
      | some occurrence => rw [List.filterMap_cons_some happens]; rfl

/-! ### Cells under their notebooks -/

theorem owner_hookAll (navigator : Navigator) (owner : Surface) (editorIds : List String)
    (id : String) :
    (navigator.hookAll owner editorIds).2.owners.get? id =
      if id ∈ editorIds then some owner else navigator.owners.get? id := by
  induction editorIds generalizing navigator with
  | nil => rfl
  | cons editorId rest ih =>
      refine (ih (navigator.hook editorId owner).2).trans ?_
      change (if id ∈ rest then some owner else
        (navigator.owners.insert editorId owner).get? id) = _
      rw [Keyed.get?_insert]
      by_cases later : id ∈ rest
      · rw [if_pos later, if_pos (List.mem_cons_of_mem _ later)]
      · by_cases first : id = editorId <;> simp [later, first]

theorem notebooks_sweep (navigator : Navigator) (notebooks : List String) :
    (navigator.sweep notebooks).2.notebooks = navigator.notebooks := by
  induction notebooks generalizing navigator with
  | nil => rfl
  | cons notebook rest ih =>
      unfold sweep
      split
      · exact ih navigator
      · next jumper isJumper =>
          exact (ih _).trans (navigator.frame_hookAll _ _).2.1

/-- No cell of another open notebook has this id. -/
def SoleCell (navigator : Navigator) (notebook id : String) : Prop :=
  ∀ other jumper, navigator.notebooks.get? other = some jumper →
    id ∈ jumper.cells.map (·.id) → other = notebook

theorem soleCell_of_distinct (distinct : navigator.editorIds.Nodup) {notebook id : String}
    {jumper : NotebookJumper} (isJumper : navigator.notebooks.get? notebook = some jumper)
    (isCell : id ∈ jumper.cells.map (·.id)) : navigator.SoleCell notebook id := by
  intro other otherJumper isOther isOtherCell
  by_contra apart
  have ofCells := (List.nodup_append.mp distinct).2.1
  unfold Keyed.values at ofCells
  rw [List.flatMap_map] at ofCells
  have disjoint := (List.nodup_flatMap.mp ofCells).2
  have differs : (other, otherJumper) ≠ (notebook, jumper) :=
    fun same => apart (congrArg Prod.fst same)
  have symmetric : Std.Symm (Function.onFun List.Disjoint
      fun entry : String × NotebookJumper => entry.2.cells.map (·.id)) :=
    ⟨fun _ _ apart _ isRight isLeft => apart isLeft isRight⟩
  exact disjoint.forall (Keyed.mem_entries_of_get? isOther) (Keyed.mem_entries_of_get? isJumper)
    differs isOtherCell isCell

theorem SoleCell.hookAll {notebook id : String} (sole : navigator.SoleCell notebook id)
    (owner : Surface) (editorIds : List String) :
    (navigator.hookAll owner editorIds).2.SoleCell notebook id := by
  unfold SoleCell
  rw [(navigator.frame_hookAll owner editorIds).2.1]
  exact sole

theorem owner_sweep_of_owned {notebook id : String} (sole : navigator.SoleCell notebook id)
    (owned : navigator.owners.get? id = some (.notebook notebook)) (notebooks : List String) :
    (navigator.sweep notebooks).2.owners.get? id = some (.notebook notebook) := by
  induction notebooks generalizing navigator with
  | nil => exact owned
  | cons other rest ih =>
      unfold sweep
      split
      · exact ih sole owned
      · next jumper isJumper =>
          refine ih (sole.hookAll _ _) ?_
          rw [owner_hookAll]
          split
          · next isCell => rw [sole other jumper isJumper isCell]
          · exact owned

theorem owner_sweep {notebook id : String} {jumper : NotebookJumper}
    (sole : navigator.SoleCell notebook id)
    (isJumper : navigator.notebooks.get? notebook = some jumper)
    (isCell : id ∈ jumper.cells.map (·.id)) {notebooks : List String}
    (isSwept : notebook ∈ notebooks) :
    (navigator.sweep notebooks).2.owners.get? id = some (.notebook notebook) := by
  induction notebooks generalizing navigator with
  | nil => cases isSwept
  | cons other rest ih =>
      rcases List.mem_cons.mp isSwept with rfl | later
      · unfold sweep
        rw [isJumper]
        refine owner_sweep_of_owned (sole.hookAll _ _) ?_ rest
        rw [owner_hookAll, if_pos isCell]
      · unfold sweep
        split
        · exact ih sole isJumper later
        · refine ih (sole.hookAll _ _) ?_ later
          rw [(navigator.frame_hookAll _ _).2.1]
          exact isJumper

theorem Consistent.hookedFor_tick (consistent : navigator.Consistent)
    (distinct : navigator.editorIds.Nodup) {now deadline : Nat} {notebook : String}
    {jumper : NotebookJumper} {cell : Editor}
    (scheduled : navigator.sweeps.deadlines.get? notebook = some deadline)
    (hasCome : deadline ≤ now)
    (isJumper : (navigator.tick now).2.notebooks.get? notebook = some jumper)
    (isCell : cell ∈ jumper.cells) :
    (navigator.tick now).2.HookedFor (.notebook notebook) cell.id := by
  have stillConsistent := consistent.tick now
  have owned : (navigator.tick now).2.owners.get? cell.id = some (.notebook notebook) := by
    rw [navigator.tick_eq now] at isJumper ⊢
    change (navigator.sweep _).2.notebooks.get? notebook = some jumper at isJumper
    rw [notebooks_sweep] at isJumper
    have member := List.mem_map_of_mem (f := Editor.id) isCell
    have isReady := Sweeps.mem_ready_iff.mpr ⟨Keyed.mem_entries_of_get? scheduled, hasCome⟩
    exact owner_sweep (soleCell_of_distinct distinct isJumper member) isJumper member
      (List.mem_map_of_mem isReady)
  refine ⟨?_, owned⟩
  rw [stillConsistent.hooks.registered, Keyed.contains, owned]
  rfl

/-! ### Sweeps on time -/

/-- Whatever was scheduled, cancelled and looked for, the sweeps found due are exactly those
whose deadline has come, each once and in order, and looking at two times finds what looking at
the later one finds. The deadlines in a navigator follow from what happens to its notebooks;
ticking at two times does what ticking at the later one does, with the counts adding up; and
while no two open editors have the same id, a tick leaves every cell of a notebook whose
deadline has come hooked for that notebook. -/
theorem sweeps_run_on_time (occurrences : List Sweeps.Action) (registry : Definition.Registry)
    (connector : Option Connector) (host : Host) (actions : List Action) (now earlier later : Nat)
    (ordered : earlier ≤ later) :
    let chronicle := Sweeps.Chronicle.empty.run occurrences
    let navigator := (fresh registry connector host).run actions
    Sweeps.Punctual (Sweeps.standing? chronicle.log) now (chronicle.sweeps.due now) ∧
      ((chronicle.sweeps.due earlier).1 ++ ((chronicle.sweeps.due earlier).2.due later).1 =
        (chronicle.sweeps.due later).1 ∧
        ((chronicle.sweeps.due earlier).2.due later).2 = (chronicle.sweeps.due later).2) ∧
      (∀ notebook, navigator.sweeps.deadlines.get? notebook =
        Sweeps.standing? (Sweeps.Chronicle.empty.run (actions.filterMap Action.occurrence?)).log
          notebook) ∧
      ((navigator.tick earlier).1 + ((navigator.tick earlier).2.tick later).1,
        ((navigator.tick earlier).2.tick later).2) = navigator.tick later ∧
      (navigator.editorIds.Nodup → ∀ notebook deadline jumper cell,
        navigator.sweeps.deadlines.get? notebook = some deadline → deadline ≤ now →
        (navigator.tick now).2.notebooks.get? notebook = some jumper → cell ∈ jumper.cells →
          (navigator.tick now).2.HookedFor (.notebook notebook) cell.id) := by
  intro chronicle navigator
  have consistent : navigator.Consistent := consistent_run registry connector host actions
  have kept := Sweeps.Chronicle.kept_run Sweeps.Chronicle.kept_empty occurrences
  refine ⟨kept.punctual now, chronicle.sweeps.due_due ordered, ?_, navigator.tick_tick ordered, ?_⟩
  · intro notebook
    have fromEmpty : (fresh registry connector host).sweeps = Sweeps.Chronicle.empty.sweeps := rfl
    have same := (consistent_fresh registry connector host).sweeps_run fromEmpty actions
    have keptHere := Sweeps.Chronicle.kept_run Sweeps.Chronicle.kept_empty
      (actions.filterMap Action.occurrence?)
    change ((fresh registry connector host).run actions).sweeps.deadlines.get? notebook = _
    rw [same]
    exact keptHere.deadlines notebook
  · intro distinct notebook deadline jumper cell scheduled hasCome isJumper isCell
    exact consistent.hookedFor_tick distinct scheduled hasCome isJumper isCell

/-- Two notebooks with the same deadline; one of them is scheduled again and keeps it. -/
def twoNotebooks : List Action :=
  [.notebookAdded "n" [] "any" 0,
   .notebookAdded "m" [] "any" 0,
   .notebookAdded "n" [] "any" 7,
   .cellAdded "n" 0 { id := "a", text := [], contentType := "any" },
   .cellAdded "m" 0 { id := "b", text := [], contentType := "any" }]

theorem sweeps_run_on_time_for_two_notebooks :
    let sweeps :=
      (Sweeps.Chronicle.empty.run (twoNotebooks.filterMap Action.occurrence?)).sweeps
    let navigator := (fresh .standard none {}).run twoNotebooks
    1999 ≤ 2000 ∧ (sweeps.due 1999).1 ++ ((sweeps.due 1999).2.due 2000).1 = ["m", "n"] ∧
      (sweeps.due 2000).1 = ["m", "n"] ∧
      ((navigator.tick 1999).1 + ((navigator.tick 1999).2.tick 2000).1,
        ((navigator.tick 1999).2.tick 2000).2) = navigator.tick 2000 ∧
      (navigator.tick 2000).2.HookedFor (.notebook "n") "a" := by
  intro sweeps navigator
  obtain ⟨_, same, _, ticks, hooked⟩ := sweeps_run_on_time
    (twoNotebooks.filterMap Action.occurrence?) .standard none {} twoNotebooks 2000 1999 2000
    (by decide)
  have ready : sweeps.ready 2000 = [("m", 2000), ("n", 2000)] := by
    have isPerm : (sweeps.ready 2000).Perm [("m", 2000), ("n", 2000)] :=
      (sweeps.ready_perm 2000).trans (.swap ("m", 2000) ("n", 2000) [])
    exact isPerm.eq_of_pairwise (fun _ _ _ _ => Sweeps.comesBefore_antisymm)
      (sweeps.pairwise_ready 2000) (by decide +kernel)
  have due : (sweeps.due 2000).1 = ["m", "n"] := congrArg (List.map Prod.fst) ready
  refine ⟨by decide, same.1.trans due, due, ticks, ?_⟩
  have isJumper : (navigator.tick 2000).2.notebooks.get? "n" = some
      { id := "n", path := [], language := "any", registry := .standard,
        cells := [{ id := "a", text := [], contentType := "any" }] } := by
    rw [navigator.tick_eq]
    exact (congrArg (Keyed.get? · "n") (navigator.notebooks_sweep _)).trans rfl
  exact hooked (by decide +kernel) "n" 2000 _ _ (by decide +kernel) (by decide) isJumper (.head _)

end SymbolJump.Navigator
