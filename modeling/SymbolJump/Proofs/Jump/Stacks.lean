/-
The history as a family of independent stacks.

All surfaces share one table. What the operations of one surface answer, and
how deep its stack is, depends on its own operations alone: those of other
surfaces can be left out of a run. A stack that was emptied, one that was
forgotten and one that never was give the same answer to a return. The
destination a surface returns to is the one it stored last among those that no
later return has taken back and no forgetting has dropped.
-/

import Mathlib.Algebra.BigOperators.Finprod
import SymbolJump.Jump.History

namespace SymbolJump

inductive HistoryOperation where
  | store (surface : Surface) (destination : Destination)
  | recollect (surface : Surface)
  | forget (surface : Surface)
  deriving DecidableEq, Repr

def HistoryOperation.surface : HistoryOperation → Surface
  | store surface _ => surface
  | recollect surface => surface
  | forget surface => surface

inductive HistoryAnswer where
  | stored
  | recollected (destination : Option Destination)
  | forgotten (wasKnown : Bool)
  deriving DecidableEq, Repr

namespace History

/-! ### Runs -/

def perform (history : History) : HistoryOperation → HistoryAnswer × History
  | .store surface destination => (.stored, history.store surface destination)
  | .recollect surface =>
      let (latest, rest) := history.recollect surface
      (.recollected latest, rest)
  | .forget surface =>
      let (wasKnown, rest) := history.forget surface
      (.forgotten wasKnown, rest)

def run (history : History) (operations : List HistoryOperation) : History :=
  operations.foldl (fun history operation => (history.perform operation).2) history

/-- What the operations of a surface answer in a run, each with the depth it leaves. -/
def reportsOf (surface : Surface) : History → List HistoryOperation → List (HistoryAnswer × Nat)
  | _, [] => []
  | history, operation :: rest =>
      let (answer, next) := history.perform operation
      if operation.surface = surface then
        (answer, next.depth surface) :: reportsOf surface next rest
      else reportsOf surface next rest

/-- The operations of a surface among those of all. -/
def own (surface : Surface) (operations : List HistoryOperation) : List HistoryOperation :=
  operations.filter (·.surface = surface)

theorem run_append (history : History) (earlier later : List HistoryOperation) :
    history.run (earlier ++ later) = (history.run earlier).run later :=
  List.foldl_append

theorem own_cons_self {surface : Surface} {operation : HistoryOperation}
    (isOwn : operation.surface = surface) (rest : List HistoryOperation) :
    own surface (operation :: rest) = operation :: own surface rest :=
  List.filter_cons_of_pos (decide_eq_true isOwn)

theorem own_cons_of_ne {surface : Surface} {operation : HistoryOperation}
    (elsewhere : operation.surface ≠ surface) (rest : List HistoryOperation) :
    own surface (operation :: rest) = own surface rest :=
  List.filter_cons_of_neg (by rw [decide_eq_false elsewhere]; exact Bool.false_ne_true)

/-! ### What one operation does to one surface -/

theorem get?_perform_of_ne {surface : Surface} {operation : HistoryOperation}
    (elsewhere : operation.surface ≠ surface) (history : History) :
    (history.perform operation).2.stored.get? surface = history.stored.get? surface := by
  cases operation with
  | store other destination => exact Keyed.get?_insert_of_ne _ (Ne.symm elsewhere) _
  | recollect other =>
      simp only [perform, recollect]
      split
      · rfl
      · exact Keyed.get?_insert_of_ne _ (Ne.symm elsewhere) _
  | forget other => exact Keyed.get?_erase_of_ne _ (Ne.symm elsewhere)

theorem depth_congr {left right : History} {surface : Surface}
    (same : left.stored.get? surface = right.stored.get? surface) :
    left.depth surface = right.depth surface := by
  simp only [depth, stack, same]

/-- Two histories that hold the same for the surface of an operation are not told apart by
it. -/
theorem perform_congr {left right : History} (operation : HistoryOperation)
    (same : left.stored.get? operation.surface = right.stored.get? operation.surface) :
    (left.perform operation).1 = (right.perform operation).1 ∧
      (left.perform operation).2.stored.get? operation.surface =
        (right.perform operation).2.stored.get? operation.surface := by
  have sameStack : left.stack operation.surface = right.stack operation.surface :=
    congrArg (Option.getD · []) same
  cases operation with
  | store surface destination =>
      change left.stack surface = right.stack surface at sameStack
      simp only [perform, store, HistoryOperation.surface, sameStack, Keyed.get?_insert_self,
        and_self]
  | recollect surface =>
      change left.stack surface = right.stack surface at sameStack
      simp only [perform, recollect, sameStack]
      cases right.stack surface with
      | nil => exact ⟨rfl, same⟩
      | cons latest rest =>
          simp only [HistoryOperation.surface, Keyed.get?_insert_self, and_self]
  | forget surface =>
      change left.stored.get? surface = right.stored.get? surface at same
      simp only [perform, forget, Keyed.contains, HistoryOperation.surface, same,
        Keyed.get?_erase_self, and_self]

/-! ### One surface in a run and alone -/

theorem reportsOf_own {left right : History} {surface : Surface}
    (same : left.stored.get? surface = right.stored.get? surface)
    (operations : List HistoryOperation) :
    reportsOf surface left operations = reportsOf surface right (own surface operations) ∧
      (left.run operations).stored.get? surface =
        (right.run (own surface operations)).stored.get? surface := by
  induction operations generalizing left right with
  | nil => exact ⟨rfl, same⟩
  | cons operation rest ih =>
      by_cases isOwn : operation.surface = surface
      · subst isOwn
        obtain ⟨sameAnswer, stillSame⟩ := perform_congr operation same
        obtain ⟨sameReports, sameEnd⟩ := ih stillSame
        rw [own_cons_self rfl]
        refine ⟨?_, sameEnd⟩
        simp only [reportsOf, if_true, sameAnswer, depth_congr stillSame, sameReports]
      · have stillSame := (get?_perform_of_ne isOwn left).trans same
        obtain ⟨sameReports, sameEnd⟩ := ih stillSame
        rw [own_cons_of_ne isOwn]
        refine ⟨?_, sameEnd⟩
        simp only [reportsOf, if_neg isOwn, sameReports]

/-! ### The destination that is returned to -/

/-- Operations that leave the stack of a surface as it was: whatever they store for it they
take back themselves. -/
inductive Cancels (surface : Surface) : List HistoryOperation → Prop where
  | nil : Cancels surface []
  | elsewhere {operation : HistoryOperation} {rest : List HistoryOperation}
      (other : operation.surface ≠ surface) :
      Cancels surface rest → Cancels surface (operation :: rest)
  | pair {destination : Destination} {inner rest : List HistoryOperation} :
      Cancels surface inner → Cancels surface rest →
        Cancels surface (.store surface destination :: (inner ++ .recollect surface :: rest))

/-- A destination that was stored for a surface, while all that was stored behind it is taken
back and nothing was forgotten since. -/
def Outstanding (surface : Surface) (destination : Destination)
    (operations : List HistoryOperation) : Prop :=
  ∃ earlier later, operations = earlier ++ .store surface destination :: later ∧
    Cancels surface later

theorem Cancels.append {surface : Surface} {earlier later : List HistoryOperation}
    (cancels : Cancels surface earlier) (laterCancels : Cancels surface later) :
    Cancels surface (earlier ++ later) := by
  induction cancels with
  | nil => exact laterCancels
  | elsewhere other _ ih => exact .elsewhere other ih
  | pair inner _ _ ih =>
      rw [List.cons_append, List.append_assoc, List.cons_append]
      exact .pair inner ih

theorem stack_perform_of_ne {surface : Surface} {operation : HistoryOperation}
    (elsewhere : operation.surface ≠ surface) (history : History) :
    (history.perform operation).2.stack surface = history.stack surface :=
  congrArg (Option.getD · []) (get?_perform_of_ne elsewhere history)

theorem stack_run_of_cancels {surface : Surface} {operations : List HistoryOperation}
    (cancels : Cancels surface operations) (history : History) :
    (history.run operations).stack surface = history.stack surface := by
  induction cancels generalizing history with
  | nil => rfl
  | elsewhere other _ ih => exact (ih _).trans (stack_perform_of_ne other history)
  | @pair destination inner rest _ _ ihInner ihRest =>
      change ((history.store surface destination).run (inner ++ .recollect surface :: rest)).stack
        surface = _
      rw [run_append]
      have stored := ihInner (history.store surface destination)
      rw [stack_store_self] at stored
      refine (ihRest _).trans ?_
      change (History.recollect _ surface).2.stack surface = _
      rw [stack_recollect_self, stored, List.tail_cons]

/-- How a stack came about: each destination on it was stored, and the operations behind that
cancel out. -/
inductive Unwinds (surface : Surface) : List HistoryOperation → List Destination → Prop where
  | bottom (operations : List HistoryOperation) : Unwinds surface operations []
  | store {earlier later : List HistoryOperation} {below : List Destination}
      (destination : Destination) :
      Unwinds surface earlier below → Cancels surface later →
        Unwinds surface (earlier ++ .store surface destination :: later) (destination :: below)

namespace Unwinds

variable {surface : Surface} {operations later : List HistoryOperation}

theorem append {destinations : List Destination} (unwinds : Unwinds surface operations destinations)
    (cancels : Cancels surface later) : Unwinds surface (operations ++ later) destinations := by
  cases unwinds with
  | bottom => exact .bottom _
  | store destination below behind =>
      rw [List.append_assoc, List.cons_append]
      exact .store destination below (behind.append cancels)

/-- A return uncovers what lay below: the store and the return that takes it back cancel out
together with all that stands between them. -/
theorem recollect {destinations : List Destination}
    (unwinds : Unwinds surface operations destinations) :
    Unwinds surface (operations ++ [.recollect surface]) destinations.tail := by
  cases unwinds with
  | bottom => exact .bottom _
  | store destination below behind =>
      rw [List.append_assoc, List.cons_append]
      exact below.append (.pair behind .nil)

theorem perform {history : History} (unwinds : Unwinds surface operations (history.stack surface))
    (operation : HistoryOperation) :
    Unwinds surface (operations ++ [operation]) ((history.perform operation).2.stack surface) := by
  by_cases isOwn : operation.surface = surface
  · subst isOwn
    cases operation with
    | store surface destination =>
        change Unwinds surface _ ((history.store surface destination).stack surface)
        rw [stack_store_self]
        exact .store destination unwinds .nil
    | recollect surface =>
        change Unwinds surface _ ((history.recollect surface).2.stack surface)
        rw [stack_recollect_self]
        exact unwinds.recollect
    | forget surface =>
        change Unwinds surface _ ((history.forget surface).2.stack surface)
        rw [stack_forget_self]
        exact .bottom _
  · rw [stack_perform_of_ne isOwn]
    exact unwinds.append (.elsewhere isOwn .nil)

end Unwinds

theorem unwinds_run (surface : Surface) (operations : List HistoryOperation) :
    Unwinds surface operations ((empty.run operations).stack surface) := by
  induction operations using List.reverseRecOn with
  | nil => exact .bottom []
  | append_singleton earlier operation ih =>
      rw [run_append]
      exact ih.perform operation

theorem recollect_eq_some_iff (operations : List HistoryOperation) (surface : Surface)
    (destination : Destination) :
    ((empty.run operations).recollect surface).1 = some destination ↔
      Outstanding surface destination operations := by
  rw [recollect_fst]
  constructor
  · intro isTop
    have unwinds := unwinds_run surface operations
    obtain ⟨below, stacked⟩ := List.head?_eq_some_iff.mp isTop
    rw [stacked] at unwinds
    cases unwinds with
    | store _ _ behind => exact ⟨_, _, rfl, behind⟩
  · rintro ⟨earlier, later, rfl, cancels⟩
    rw [run_append]
    change (((empty.run earlier).store surface destination).run later |>.stack surface).head? = _
    rw [stack_run_of_cancels cancels, stack_store_self, List.head?_cons]

/-! ### All surfaces together -/

theorem distinct_perform {history : History} (distinct : history.stored.Distinct)
    (operation : HistoryOperation) : (history.perform operation).2.stored.Distinct := by
  cases operation with
  | store surface destination => exact distinct.insert _ _
  | recollect surface =>
      simp only [perform, recollect]
      split
      · exact distinct
      · exact distinct.insert _ _
  | forget surface => exact distinct.erase _

theorem distinct_run {history : History} (distinct : history.stored.Distinct)
    (operations : List HistoryOperation) : (history.run operations).stored.Distinct := by
  induction operations generalizing history with
  | nil => exact distinct
  | cons operation rest ih => exact ih (distinct_perform distinct operation)

theorem mem_keys_of_depth {history : History} {surface : Surface}
    (deep : history.depth surface ≠ 0) : surface ∈ history.stored.keys := by
  cases found : history.stored.get? surface with
  | none =>
      refine absurd ?_ deep
      simp only [depth, stack, found, Option.getD_none, List.length_nil]
  | some destinations =>
      exact Keyed.mem_keys_of_get? found

theorem finite_depth (history : History) : {surface | history.depth surface ≠ 0}.Finite :=
  history.stored.keys.toFinset.finite_toSet.subset fun _ deep =>
    List.mem_toFinset.mpr (mem_keys_of_depth deep)

theorem size_eq_finsum {history : History} (distinct : history.stored.Distinct) :
    history.size = ∑ᶠ surface, history.depth surface := by
  have inKeys : Function.support history.depth ⊆ ↑history.stored.keys.toFinset := fun _ deep =>
    List.mem_toFinset.mpr (mem_keys_of_depth deep)
  have lengths : history.stored.keys.map history.depth = history.stored.values.map List.length := by
    rw [Keyed.keys, Keyed.values, List.map_map, List.map_map]
    apply List.map_congr_left
    intro entry member
    change ((history.stored.get? entry.1).getD []).length = entry.2.length
    rw [distinct.get?_of_mem member, Option.getD_some]
  rw [finsum_eq_sum_of_support_subset _ inKeys, List.sum_toFinset _ distinct, lengths, size,
    List.length_flatten]

theorem isEmpty_iff {history : History} (distinct : history.stored.Distinct) :
    history.isEmpty = true ↔ ∀ surface, history.depth surface = 0 := by
  rw [isEmpty, beq_iff_eq, size_eq_finsum distinct]
  constructor
  · intro empty surface
    have bounded : history.depth surface ≤ ∑ᶠ other, history.depth other :=
      single_le_finsum surface history.finite_depth fun _ => Nat.zero_le _
    omega
  · intro allEmpty
    exact finsum_eq_zero_of_forall_eq_zero allEmpty

/-- In every run from an empty history, what the operations of a surface answer and how deep
they leave its stack is the same as when they are run alone. A return leads to the destination
that is outstanding, if there is one. The size of the history is the sum of the depths of all
surfaces, of which finitely many count, and it is empty exactly when all of these are. -/
theorem stacks_are_independent (operations : List HistoryOperation) (surface : Surface) :
    reportsOf surface empty operations = reportsOf surface empty (own surface operations) ∧
      (empty.run operations).depth surface = (empty.run (own surface operations)).depth surface ∧
      (∀ destination, ((empty.run operations).recollect surface).1 = some destination ↔
        Outstanding surface destination operations) ∧
      {other | (empty.run operations).depth other ≠ 0}.Finite ∧
      (empty.run operations).size = ∑ᶠ other, (empty.run operations).depth other ∧
      ((empty.run operations).isEmpty = true ↔
        ∀ other, (empty.run operations).depth other = 0) := by
  obtain ⟨sameReports, sameEnd⟩ := reportsOf_own (rfl : empty.stored.get? surface = _) operations
  have distinct := distinct_run (show empty.stored.Distinct from List.nodup_nil) operations
  exact ⟨sameReports, depth_congr sameEnd, recollect_eq_some_iff operations surface,
    finite_depth _, size_eq_finsum distinct, isEmpty_iff distinct⟩

end History

end SymbolJump
