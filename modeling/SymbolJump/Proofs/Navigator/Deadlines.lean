/-
When sweeps are due.

A sweep keeps the deadline of its first scheduling until it runs or is dropped.
Those that are due come out by their deadlines, each once, and only later ones
stay. Looking at two times, one after the other, finds the same sweeps in the
same order as looking at the later time alone: what was found first had the
earlier deadlines.
-/

import Mathlib.Data.List.DropRight
import Mathlib.Data.String.Basic
import SymbolJump.Navigator.Sweep

namespace SymbolJump.Sweeps

/-! ### The order of sweeps -/

theorem comesBefore_iff {left right : String × Nat} :
    comesBefore left right = true ↔
      left.2 < right.2 ∨ left.2 = right.2 ∧ left.1 ≤ right.1 := by
  simp [comesBefore]

theorem comesBefore_total (left right : String × Nat) :
    (comesBefore left right || comesBefore right left) = true := by
  rw [Bool.or_eq_true, comesBefore_iff, comesBefore_iff]
  rcases Nat.lt_trichotomy left.2 right.2 with less | same | more
  · exact .inl (.inl less)
  · exact (le_total left.1 right.1).imp (fun first => .inr ⟨same, first⟩)
      (fun second => .inr ⟨same.symm, second⟩)
  · exact .inr (.inl more)

theorem comesBefore_trans (left middle right : String × Nat)
    (first : comesBefore left middle = true) (second : comesBefore middle right = true) :
    comesBefore left right = true := by
  rw [comesBefore_iff] at first second ⊢
  rcases first with less | ⟨same, below⟩
  · exact .inl (by omega)
  · rcases second with less | ⟨sameToo, belowToo⟩
    · exact .inl (by omega)
    · exact .inr ⟨same.trans sameToo, le_trans below belowToo⟩

theorem comesBefore_antisymm {left right : String × Nat}
    (first : comesBefore left right = true) (second : comesBefore right left = true) :
    left = right := by
  rw [comesBefore_iff] at first second
  have sameDeadline : left.2 = right.2 := by omega
  refine Prod.ext ?_ sameDeadline
  rcases first with less | ⟨_, below⟩
  · omega
  · rcases second with less | ⟨_, above⟩
    · omega
    · exact le_antisymm below above

/-- The sweeps whose deadline has come, with their deadlines, in order. -/
def ready (sweeps : Sweeps) (now : Nat) : List (String × Nat) :=
  (sweeps.deadlines.entries.filter fun entry => entry.2 ≤ now).mergeSort comesBefore

theorem pairwise_ready (sweeps : Sweeps) (now : Nat) :
    (sweeps.ready now).Pairwise fun left right => comesBefore left right = true :=
  List.pairwise_mergeSort comesBefore_trans comesBefore_total _

theorem ready_perm (sweeps : Sweeps) (now : Nat) :
    (sweeps.ready now).Perm (sweeps.deadlines.entries.filter fun entry => entry.2 ≤ now) :=
  List.mergeSort_perm _ _

theorem mem_ready_iff {sweeps : Sweeps} {now : Nat} {entry : String × Nat} :
    entry ∈ sweeps.ready now ↔ entry ∈ sweeps.deadlines.entries ∧ entry.2 ≤ now := by
  rw [(sweeps.ready_perm now).mem_iff, List.mem_filter, decide_eq_true_iff]

/-! ### Looking twice -/

section

variable {earlier later : Nat}

theorem ready_append (sweeps : Sweeps) (ordered : earlier ≤ later) :
    sweeps.ready earlier ++ (sweeps.due earlier).2.ready later = sweeps.ready later := by
  have regrouped : (sweeps.ready earlier ++ (sweeps.due earlier).2.ready later).Perm
      (sweeps.ready later) := by
    have split := List.filter_append_perm (fun entry => decide (entry.2 ≤ earlier))
      (sweeps.deadlines.entries.filter fun entry => entry.2 ≤ later)
    have first : (sweeps.deadlines.entries.filter fun entry => entry.2 ≤ later).filter
        (fun entry => decide (entry.2 ≤ earlier)) =
          sweeps.deadlines.entries.filter fun entry => entry.2 ≤ earlier := by
      rw [List.filter_filter]
      refine List.filter_congr fun entry _ => ?_
      by_cases early : entry.2 ≤ earlier
      · simp [early, early.trans ordered]
      · simp [early]
    have second : (sweeps.deadlines.entries.filter fun entry => entry.2 ≤ later).filter
        (fun entry => !decide (entry.2 ≤ earlier)) =
          (sweeps.due earlier).2.deadlines.entries.filter fun entry => entry.2 ≤ later := by
      unfold due
      rw [List.filter_filter, List.filter_filter]
      refine List.filter_congr fun entry _ => ?_
      rw [Bool.and_comm, ← decide_not, decide_eq_decide.mpr Nat.not_le]
    rw [first, second] at split
    exact (((sweeps.ready_perm earlier).append
      ((sweeps.due earlier).2.ready_perm later)).trans split).trans (sweeps.ready_perm later).symm
  refine regrouped.eq_of_pairwise (fun _ _ _ _ => comesBefore_antisymm) ?_
    (sweeps.pairwise_ready later)
  refine List.pairwise_append.mpr
    ⟨sweeps.pairwise_ready earlier, (sweeps.due earlier).2.pairwise_ready later, ?_⟩
  -- What was left behind at the earlier time has a later deadline than all that was found.
  intro found isFound left isLeft
  have early := (mem_ready_iff.mp isFound).2
  have late := of_decide_eq_true (List.mem_filter.mp (mem_ready_iff.mp isLeft).1).2
  exact comesBefore_iff.mpr (.inl (Nat.lt_of_le_of_lt early late))

theorem due_due (sweeps : Sweeps) (ordered : earlier ≤ later) :
    (sweeps.due earlier).1 ++ ((sweeps.due earlier).2.due later).1 = (sweeps.due later).1 ∧
      ((sweeps.due earlier).2.due later).2 = (sweeps.due later).2 := by
  constructor
  · change (sweeps.ready earlier).map Prod.fst ++
      ((sweeps.due earlier).2.ready later).map Prod.fst = (sweeps.ready later).map Prod.fst
    rw [← List.map_append, sweeps.ready_append ordered]
  · have left : (sweeps.deadlines.entries.filter fun entry => decide (earlier < entry.2)).filter
        (fun entry => decide (later < entry.2)) =
          sweeps.deadlines.entries.filter fun entry => decide (later < entry.2) := by
      rw [List.filter_filter]
      refine List.filter_congr fun entry _ => ?_
      by_cases late : later < entry.2
      · simp [late, Nat.lt_of_le_of_lt ordered late]
      · simp [late]
    exact congrArg (fun entries => Sweeps.mk ⟨entries⟩) left

end

/-! ### What is due -/

/-- The outcome of looking for due sweeps where the deadlines are known: each sweep whose
deadline has come is there once, earlier deadlines first and the ids deciding among equal ones,
and the others stay with their deadlines. -/
structure Punctual (deadline? : String → Option Nat) (now : Nat) (outcome : List String × Sweeps) :
    Prop where
  once : outcome.1.Nodup
  exact : ∀ notebook, notebook ∈ outcome.1 ↔
    ∃ deadline, deadline? notebook = some deadline ∧ deadline ≤ now
  inOrder : outcome.1.Pairwise fun left right => ∀ first second,
    deadline? left = some first → deadline? right = some second →
      first < second ∨ first = second ∧ left < right
  remaining : ∀ notebook deadline, outcome.2.deadlines.get? notebook = some deadline ↔
    deadline? notebook = some deadline ∧ now < deadline

section

variable {sweeps : Sweeps}

theorem distinct_due (distinct : sweeps.deadlines.Distinct) (now : Nat) :
    (sweeps.due now).2.deadlines.Distinct :=
  distinct.sublist (List.filter_sublist.map Prod.fst)

theorem nodup_due (distinct : sweeps.deadlines.Distinct) (now : Nat) :
    (sweeps.due now).1.Nodup := by
  refine ((sweeps.ready_perm now).map Prod.fst).nodup_iff.mpr ?_
  exact distinct.sublist (List.filter_sublist.map Prod.fst)

theorem mem_due_iff (distinct : sweeps.deadlines.Distinct) {now : Nat} {notebook : String} :
    notebook ∈ (sweeps.due now).1 ↔
      ∃ deadline, sweeps.deadlines.get? notebook = some deadline ∧ deadline ≤ now := by
  constructor
  · intro isDue
    obtain ⟨⟨_, deadline⟩, isReady, rfl⟩ := List.mem_map.mp isDue
    obtain ⟨member, hasCome⟩ := mem_ready_iff.mp isReady
    exact ⟨deadline, distinct.get?_of_mem member, hasCome⟩
  · rintro ⟨deadline, found, hasCome⟩
    have isReady := mem_ready_iff.mpr ⟨Keyed.mem_entries_of_get? found, hasCome⟩
    exact List.mem_map.mpr ⟨(notebook, deadline), isReady, rfl⟩

theorem get?_due_iff (distinct : sweeps.deadlines.Distinct) {now deadline : Nat}
    {notebook : String} :
    (sweeps.due now).2.deadlines.get? notebook = some deadline ↔
      sweeps.deadlines.get? notebook = some deadline ∧ now < deadline := by
  rw [(distinct_due distinct now).get?_eq_some_iff, distinct.get?_eq_some_iff]
  change (notebook, deadline) ∈ sweeps.deadlines.entries.filter _ ↔ _
  rw [List.mem_filter, decide_eq_true_iff]

theorem punctual_due (distinct : sweeps.deadlines.Distinct) (now : Nat) :
    Punctual sweeps.deadlines.get? now (sweeps.due now) where
  once := nodup_due distinct now
  exact := fun _ => mem_due_iff distinct
  inOrder := by
    have unequal := List.pairwise_map.mp (nodup_due distinct now)
    refine List.pairwise_map.mpr (((sweeps.pairwise_ready now).and unequal).imp_of_mem ?_)
    intro left right isLeft isRight both first second isFirst isSecond
    have leftFound := distinct.get?_of_mem (mem_ready_iff.mp isLeft).1
    have rightFound := distinct.get?_of_mem (mem_ready_iff.mp isRight).1
    obtain rfl : left.2 = first := Option.some.inj (leftFound.symm.trans isFirst)
    obtain rfl : right.2 = second := Option.some.inj (rightFound.symm.trans isSecond)
    rcases comesBefore_iff.mp both.1 with less | ⟨same, below⟩
    · exact .inl less
    · exact .inr ⟨same, lt_of_le_of_ne below both.2⟩
  remaining := fun _ _ => get?_due_iff distinct

end

/-! ### Deadlines by what happened -/

inductive Action where
  | schedule (notebook : String) (now : Nat)
  | cancel (notebook : String)
  | due (now : Nat)

/-- What has happened to sweeps. -/
inductive Note where
  | scheduled (notebook : String) (now : Nat)
  | cancelled (notebook : String)
  | fired (notebooks : List String)

namespace Note

def ends (notebook : String) : Note → Bool
  | scheduled .. => false
  | cancelled other => other == notebook
  | fired notebooks => notebooks.contains notebook

def time? (notebook : String) : Note → Option Nat
  | scheduled other now => if other = notebook then some now else none
  | cancelled _ | fired _ => none

end Note

/-- The deadline of a notebook: 2000 milliseconds after it was first scheduled since its sweep
last fired or was cancelled. -/
def standing? (log : List Note) (notebook : String) : Option Nat :=
  ((log.rtakeWhile fun note => !note.ends notebook).findSome? (Note.time? notebook)).map
    (· + 2000)

theorem standing?_of_ends {notebook : String} {note : Note} (ends : note.ends notebook = true)
    (log : List Note) : standing? (log ++ [note]) notebook = none := by
  unfold standing?
  rw [List.rtakeWhile_concat_neg]
  · rfl
  · rw [ends]
    exact Bool.false_ne_true

theorem standing?_of_continues {notebook : String} {note : Note}
    (continues : note.ends notebook = false) (log : List Note) :
    standing? (log ++ [note]) notebook =
      (standing? log notebook).or ((note.time? notebook).map (· + 2000)) := by
  unfold standing?
  rw [List.rtakeWhile_concat_pos, List.findSome?_append, Option.map_or, List.findSome?_singleton]
  rw [continues]
  rfl

/-- Sweeps together with what has happened to them. -/
structure Chronicle where
  sweeps : Sweeps
  log : List Note

namespace Chronicle

def empty : Chronicle := ⟨.empty, []⟩

def act (chronicle : Chronicle) : Action → Chronicle
  | .schedule notebook now =>
      ⟨(chronicle.sweeps.schedule notebook now).2, chronicle.log ++ [.scheduled notebook now]⟩
  | .cancel notebook =>
      ⟨(chronicle.sweeps.cancel notebook).2, chronicle.log ++ [.cancelled notebook]⟩
  | .due now =>
      ⟨(chronicle.sweeps.due now).2, chronicle.log ++ [.fired (chronicle.sweeps.due now).1]⟩

def run (chronicle : Chronicle) (actions : List Action) : Chronicle :=
  actions.foldl act chronicle

/-- The deadlines kept are those that follow from what happened. -/
structure Kept (chronicle : Chronicle) : Prop where
  distinct : chronicle.sweeps.deadlines.Distinct
  deadlines : ∀ notebook,
    chronicle.sweeps.deadlines.get? notebook = standing? chronicle.log notebook

theorem kept_schedule {chronicle : Chronicle} (kept : chronicle.Kept) (notebook : String)
    (now : Nat) : (chronicle.act (.schedule notebook now)).Kept := by
  have stands := kept.deadlines notebook
  constructor
  · change (chronicle.sweeps.schedule notebook now).2.deadlines.Distinct
    unfold schedule
    split
    · exact kept.distinct
    · exact kept.distinct.insert _ _
  · intro other
    change (chronicle.sweeps.schedule notebook now).2.deadlines.get? other =
      standing? (chronicle.log ++ [.scheduled notebook now]) other
    rw [standing?_of_continues rfl, ← kept.deadlines other]
    unfold schedule
    split
    · next deadline isKnown =>
        by_cases same : notebook = other
        · rw [← same, isKnown]
          rfl
        · simp only [Note.time?, if_neg same, Option.map_none, Option.or_none]
    · next isNew =>
        change (chronicle.sweeps.deadlines.insert notebook _).get? other = _
        rw [Keyed.get?_insert]
        by_cases same : notebook = other
        · subst same
          rw [if_pos rfl, isNew]
          simp only [Note.time?, if_true]
          rfl
        · rw [if_neg (Ne.symm same)]
          simp only [Note.time?, if_neg same, Option.map_none, Option.or_none]

theorem kept_cancel {chronicle : Chronicle} (kept : chronicle.Kept) (notebook : String) :
    (chronicle.act (.cancel notebook)).Kept := by
  constructor
  · exact kept.distinct.erase notebook
  · intro other
    change (chronicle.sweeps.deadlines.erase notebook).get? other =
      standing? (chronicle.log ++ [.cancelled notebook]) other
    rw [Keyed.get?_erase]
    by_cases same : other = notebook
    · rw [if_pos same, standing?_of_ends]
      exact beq_iff_eq.mpr same.symm
    · rw [if_neg same, standing?_of_continues, ← kept.deadlines other]
      · exact Option.or_none.symm
      · exact beq_eq_false_iff_ne.mpr (Ne.symm same)

theorem kept_due {chronicle : Chronicle} (kept : chronicle.Kept) (now : Nat) :
    (chronicle.act (.due now)).Kept := by
  constructor
  · exact distinct_due kept.distinct now
  · intro notebook
    change (chronicle.sweeps.due now).2.deadlines.get? notebook =
      standing? (chronicle.log ++ [.fired (chronicle.sweeps.due now).1]) notebook
    by_cases isDue : notebook ∈ (chronicle.sweeps.due now).1
    · have ends : (Note.fired (chronicle.sweeps.due now).1).ends notebook = true :=
        List.contains_iff_mem.mpr isDue
      rw [standing?_of_ends ends]
      obtain ⟨deadline, found, hasCome⟩ := (mem_due_iff kept.distinct).mp isDue
      rw [Option.eq_none_iff_forall_ne_some]
      intro other isLeft
      obtain ⟨isOther, notCome⟩ := (get?_due_iff kept.distinct).mp isLeft
      cases found.symm.trans isOther
      omega
    · have continues : (Note.fired (chronicle.sweeps.due now).1).ends notebook = false :=
        Bool.eq_false_iff.mpr fun contains => isDue (List.contains_iff_mem.mp contains)
      rw [standing?_of_continues continues, ← kept.deadlines notebook]
      change _ = (chronicle.sweeps.deadlines.get? notebook).or none
      rw [Option.or_none]
      refine Option.ext fun deadline => (get?_due_iff kept.distinct).trans ?_
      refine and_iff_left_of_imp fun found => ?_
      rw [mem_due_iff kept.distinct] at isDue
      exact Nat.lt_of_not_le fun hasCome => isDue ⟨deadline, found, hasCome⟩

theorem kept_act {chronicle : Chronicle} (kept : chronicle.Kept) (action : Action) :
    (chronicle.act action).Kept := by
  cases action with
  | schedule notebook now => exact kept_schedule kept notebook now
  | cancel notebook => exact kept_cancel kept notebook
  | due now => exact kept_due kept now

theorem kept_run {chronicle : Chronicle} (kept : chronicle.Kept) (actions : List Action) :
    (chronicle.run actions).Kept := by
  induction actions generalizing chronicle with
  | nil => exact kept
  | cons action rest ih => exact ih (kept_act kept action)

theorem kept_empty : empty.Kept := ⟨.nil, fun _ => rfl⟩

theorem Kept.punctual {chronicle : Chronicle} (kept : chronicle.Kept) (now : Nat) :
    Punctual (standing? chronicle.log) now (chronicle.sweeps.due now) := by
  have sameDeadlines : chronicle.sweeps.deadlines.get? = standing? chronicle.log :=
    funext kept.deadlines
  rw [← sameDeadlines]
  exact punctual_due kept.distinct now

end Chronicle

end SymbolJump.Sweeps
