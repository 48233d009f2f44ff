/-
Which active cells are hooked.

A cell becomes the active one when the host says so, or when a jump or a return
leads to it. Only the first hooks it. A jump changes no hook, so the cell it
leads to is hooked afterwards only if it was before: by an earlier notice or by
the sweep. Until then gestures on it are ignored.
-/

import SymbolJump.Proofs.Navigator.Ownership

namespace SymbolJump

/-! ### Where a jump arrives -/

namespace NotebookJumper

/-- The active cell after a move is one of the cells before it. -/
def Arrives (jumper arrived : NotebookJumper) : Prop :=
  ∃ cell, arrived.activeCell? = some cell ∧ cell.id ∈ jumper.cells.map (·.id)

theorem arrives_set {jumper : NotebookJumper} {index : Nat} {cell changed : Editor}
    (isCell : jumper.cells[index]? = some cell) (sameId : changed.id = cell.id) :
    Arrives jumper { jumper with cells := jumper.cells.set index changed, active := index } := by
  obtain ⟨inRange, _⟩ := List.getElem?_eq_some_iff.mp isCell
  refine ⟨changed, List.getElem?_set_self inRange, ?_⟩
  rw [sameId]
  exact List.mem_map_of_mem (List.mem_of_getElem? isCell)

theorem arrives_jump {jumper arrived : NotebookJumper} {destination : Destination}
    (jumped : jumper.jump destination = some arrived) : Arrives jumper arrived := by
  obtain ⟨index, cell, isCell, rfl⟩ := jump_eq_some jumped
  exact arrives_set isCell rfl

end NotebookJumper

namespace Jumper

/-- A move that leaves a notebook a notebook and, if it succeeds, arrives in one of its cells. -/
def Lands (move : Jumper → History → Bool × Jumper × History) : Prop :=
  ∀ jumper history moved left, move (.notebook jumper) history = (true, moved, left) →
    ∃ arrived, moved = .notebook arrived ∧ jumper.Arrives arrived

theorem lands_jumpToDefinition (usage : Usage) : Lands (·.jumpToDefinition · usage) := by
  intro jumper history moved left isMoved
  cases found : jumper.definition? usage with
  | none =>
      simp only [jumpToDefinition, NotebookJumper.jumpToDefinition_of_none found] at isMoved
      cases isMoved
  | some place =>
      obtain ⟨owner, token⟩ := place
      obtain ⟨_, target, _, _, isTarget, _, jumped⟩ :=
        NotebookJumper.jumpToDefinition_of_some found history
      simp only [jumpToDefinition, jumped] at isMoved
      cases isMoved
      exact ⟨_, rfl, NotebookJumper.arrives_set isTarget rfl⟩

theorem lands_jumpBack : Lands jumpBack := by
  intro jumper history moved left isMoved
  cases stacked : history.stack jumper.surface with
  | nil =>
      simp only [jumpBack, NotebookJumper.jumpBack_of_nil stacked] at isMoved
      cases isMoved
  | cons latest earlier =>
      simp only [jumpBack, NotebookJumper.jumpBack_of_cons stacked] at isMoved
      cases jumped : jumper.jump latest with
      | none =>
          rw [jumped] at isMoved
          cases isMoved
      | some arrived =>
          rw [jumped] at isMoved
          cases isMoved
          exact ⟨arrived, rfl, NotebookJumper.arrives_jump jumped⟩

end Jumper

theorem Hooks.lands_dispatch (hooks : Hooks) (trigger : Trigger) (editorId : String)
    (gesture : Gesture) : Jumper.Lands (hooks.dispatch trigger editorId gesture) := by
  intro jumper history moved left isMoved
  unfold dispatch at isMoved
  split at isMoved
  · unfold Hook.handle at isMoved
    split at isMoved
    · next usage _ => exact Jumper.lands_jumpToDefinition usage jumper history moved left isMoved
    · cases isMoved
  · cases isMoved

namespace Navigator

variable {navigator after : Navigator}

/-! ### Ways to another active cell -/

def activeCellOf? (navigator : Navigator) (notebook : String) : Option Editor :=
  (navigator.notebooks.get? notebook).bind (·.activeCell?)

def HookedFor (navigator : Navigator) (owner : Surface) (editorId : String) : Prop :=
  navigator.hooks.isRegistered editorId = true ∧ navigator.owners.get? editorId = some owner

instance (navigator : Navigator) (owner : Surface) (editorId : String) :
    Decidable (navigator.HookedFor owner editorId) :=
  inferInstanceAs (Decidable (_ ∧ _))

inductive Activation where
  /-- The host says which cell is active now. -/
  | notice (index : Nat)
  | gesture (trigger : Trigger) (editorId : String) (gesture : Gesture)
  | command (command : JumpCommand)

def Activation.isNotice : Activation → Bool
  | notice _ => true
  | gesture .. | command _ => false

def activate (navigator : Navigator) (notebook : String) : Activation → Bool × Navigator
  | .notice index => navigator.activeCellChanged notebook index
  | .gesture trigger editorId gesture => navigator.gesture trigger editorId gesture
  | .command command => navigator.execute command

/-- Whether an activation is for the notebook: the gesture is on an editor that the notebook
owns, the command is one for notebooks while this one is current. -/
def Concerns (navigator : Navigator) (notebook : String) : Activation → Prop
  | .notice _ => True
  | .gesture _ editorId _ => navigator.owners.get? editorId = some (.notebook notebook)
  | .command command =>
      command.onNotebook = true ∧ navigator.currentNotebook = some notebook

theorem active_of_withJumper {notebook : String}
    {move : Jumper → History → Bool × Jumper × History} (lands : Jumper.Lands move)
    (isMoved : navigator.withJumper? (.notebook notebook) move = some (true, after)) :
    ∃ jumper cell, navigator.notebooks.get? notebook = some jumper ∧
      after.activeCellOf? notebook = some cell ∧ cell.id ∈ jumper.cells.map (·.id) := by
  obtain ⟨found, isFound, isAfter⟩ := Option.map_eq_some_iff.mp isMoved
  obtain ⟨jumper, isJumper, rfl⟩ := Option.map_eq_some_iff.mp isFound
  have known : navigator.notebooks.contains notebook = true := isOpen_of_notebook isJumper
  cases made : move (.notebook jumper) navigator.history with
  | mk succeeded rest =>
      obtain ⟨moved, left⟩ := rest
      rw [made] at isAfter
      cases isAfter
      obtain ⟨arrived, rfl, cell, isActive, member⟩ :=
        lands jumper navigator.history moved left made
      refine ⟨jumper, cell, isJumper, ?_, member⟩
      simp only [activeCellOf?, setJumper, known, if_true, Keyed.get?_insert_self, Option.bind_some,
        isActive]

theorem hookedFor_hook (navigator : Navigator) (editorId : String) (owner : Surface) :
    (navigator.hook editorId owner).2.HookedFor owner editorId := by
  constructor
  · change (navigator.hooks.register editorId).2.isRegistered editorId = true
    unfold Hooks.register
    split
    · assumption
    · unfold Hooks.isRegistered
      rw [Keyed.contains_insert, decide_eq_true rfl, Bool.true_or]
  · exact Keyed.get?_insert_self _ _ _

theorem hookedFor_activeCellChanged {notebook : String} {index : Nat}
    (changed : navigator.activeCellChanged notebook index = (true, after)) :
    ∃ jumper cell, navigator.notebooks.get? notebook = some jumper ∧
      after.activeCellOf? notebook = some cell ∧ cell.id ∈ jumper.cells.map (·.id) ∧
      after.HookedFor (.notebook notebook) cell.id := by
  unfold activeCellChanged at changed
  split at changed
  · next set isSet =>
      obtain ⟨jumper, isJumper, isSet⟩ := Option.bind_eq_some_iff.mp isSet
      unfold NotebookJumper.setActive at isSet
      split at isSet
      · cases isSet
        dsimp only at changed
        split at changed
        · next cell isCell =>
            cases changed
            refine ⟨jumper, cell, isJumper, ?_, ?_, hookedFor_hook _ _ _⟩
            · simp only [activeCellOf?, hook, Keyed.get?_insert_self, Option.bind_some]
              exact isCell
            · exact List.mem_map_of_mem (List.mem_of_getElem? isCell)
        · cases changed
      · cases isSet
  · cases changed

/-- A gesture or command that succeeds is a move of the notebook that lands in a cell. -/
theorem withJumper?_of_jump {notebook : String} {activation : Activation}
    (concerns : navigator.Concerns notebook activation) (isJump : activation.isNotice = false)
    (succeeded : navigator.activate notebook activation = (true, after)) :
    ∃ move, Jumper.Lands move ∧
      navigator.withJumper? (.notebook notebook) move = some (true, after) := by
  have isSome_of_getD {outcome : Option (Bool × Navigator)}
      (reported : outcome.getD (false, navigator) = (true, after)) :
      outcome = some (true, after) := by
    cases outcome with
    | none => cases reported
    | some pair => exact congrArg some reported
  cases activation with
  | notice index => cases isJump
  | gesture trigger editorId gesture =>
      change navigator.owners.get? editorId = some (.notebook notebook) at concerns
      change navigator.gesture trigger editorId gesture = (true, after) at succeeded
      unfold Navigator.gesture at succeeded
      rw [concerns] at succeeded
      exact ⟨_, navigator.hooks.lands_dispatch trigger editorId gesture,
        isSome_of_getD succeeded⟩
  | command command =>
      obtain ⟨onNotebook, isCurrent⟩ := concerns
      have isCommanded : navigator.currentFor command = some (.notebook notebook) := by
        unfold currentFor
        rw [if_pos onNotebook, isCurrent]
        rfl
      change navigator.execute command = (true, after) at succeeded
      unfold execute at succeeded
      dsimp only at succeeded
      rw [isCommanded, Option.bind_some] at succeeded
      refine ⟨_, ?_, isSome_of_getD succeeded⟩
      intro jumper history moved left isMoved
      dsimp only at isMoved
      split at isMoved
      · exact Jumper.lands_jumpBack jumper history moved left isMoved
      · split at isMoved
        · exact Jumper.lands_jumpToDefinition _ jumper history moved left isMoved
        · cases isMoved

/-! ### Hooked by a notice or before -/

/-- Whenever a notice, a gesture or a command for a notebook succeeds, one of its cells is the
active one afterwards, and this cell is then hooked for the notebook exactly if the host gave
notice or the cell was hooked for it already. After a jump to a cell without any hook, gestures
on it change nothing. -/
theorem active_cell_hooked_iff (navigator : Navigator) (notebook : String)
    (activation : Activation) (concerns : navigator.Concerns notebook activation)
    (after : Navigator) (succeeded : navigator.activate notebook activation = (true, after)) :
    ∃ jumper cell, navigator.notebooks.get? notebook = some jumper ∧
      after.activeCellOf? notebook = some cell ∧
      cell.id ∈ jumper.cells.map (·.id) ∧
      (after.HookedFor (.notebook notebook) cell.id ↔
        activation.isNotice = true ∨ navigator.HookedFor (.notebook notebook) cell.id) ∧
      (activation.isNotice = false → navigator.owners.get? cell.id = none →
        ∀ trigger gesture, after.gesture trigger cell.id gesture = (false, after)) := by
  cases isNotice : activation.isNotice with
  | true =>
      cases activation with
      | notice index =>
          obtain ⟨jumper, cell, isJumper, isActive, member, hooked⟩ :=
            hookedFor_activeCellChanged succeeded
          refine ⟨jumper, cell, isJumper, isActive, member, ?_, ?_⟩
          · exact ⟨fun _ => .inl rfl, fun _ => hooked⟩
          · intro isJump
            cases isJump
      | gesture trigger editorId gesture => cases isNotice
      | command command => cases isNotice
  | false =>
      obtain ⟨move, lands, isMoved⟩ := withJumper?_of_jump concerns isNotice succeeded
      have quiet := quiet_withJumper isMoved
      obtain ⟨jumper, cell, isJumper, isActive, member⟩ := active_of_withJumper lands isMoved
      refine ⟨jumper, cell, isJumper, isActive, member, ?_, ?_⟩
      · unfold HookedFor
        rw [quiet.hooks, quiet.owners]
        exact ⟨.inr, fun either => either.resolve_left Bool.false_ne_true⟩
      · intro _ unowned trigger gesture
        unfold Navigator.gesture
        rw [quiet.owners, unowned]

/-- A notebook whose second cell is active and uses a name that the first one defines. -/
def usingCellActive : List Action :=
  [.notebookAdded "n" [] "python" 0,
   .cellAdded "n" 0 { id := "a", text := "x = 1".toList, contentType := "text/x-python" },
   .cellAdded "n" 1 { id := "b", text := ['x'], contentType := "text/x-python" },
   .activeCellChanged "n" 1]

def unswept : Navigator := (fresh .standard none {}).run usingCellActive

def swept : Navigator := (fresh .standard none {}).run (usingCellActive ++ [.tick 2000])

/-- The jump to the definition, before the sweep and after it. -/
theorem active_cell_hooked_iff_swept :
    ((unswept.execute .notebook).2.activeCellOf? "n").map (·.id) = some "a" ∧
      (∀ trigger gesture, (unswept.execute .notebook).2.gesture trigger "a" gesture =
        (false, (unswept.execute .notebook).2)) ∧
      ((swept.execute .notebook).2.activeCellOf? "n").map (·.id) = some "a" ∧
      (swept.execute .notebook).2.HookedFor (.notebook "n") "a" := by
  have reachesFirst : ((unswept.execute .notebook).2.activeCellOf? "n").map (·.id) = some "a" := by
    decide +kernel
  have reachesSwept : ((swept.execute .notebook).2.activeCellOf? "n").map (·.id) = some "a" := by
    decide +kernel
  obtain ⟨_, first, _, isFirst, _, _, deaf⟩ :=
    active_cell_hooked_iff unswept "n" (.command .notebook) ⟨rfl, by decide +kernel⟩
      (unswept.execute .notebook).2 (Prod.ext (by decide +kernel) rfl)
  obtain ⟨_, second, _, isSecond, _, hooked, _⟩ :=
    active_cell_hooked_iff swept "n" (.command .notebook) ⟨rfl, by decide +kernel⟩
      (swept.execute .notebook).2 (Prod.ext (by decide +kernel) rfl)
  have firstId : first.id = "a" := by
    rw [isFirst] at reachesFirst
    exact Option.some.inj reachesFirst
  have secondId : second.id = "a" := by
    rw [isSecond] at reachesSwept
    exact Option.some.inj reachesSwept
  rw [firstId] at deaf
  rw [secondId] at hooked
  exact ⟨reachesFirst, deaf rfl (by decide +kernel), reachesSwept,
    hooked.mpr (.inr (by decide +kernel))⟩

/-- Success does not leave the active cell hooked in every state that can be reached. -/
theorem active_cell_may_stay_unhooked :
    ¬ ∀ (registry : Definition.Registry) (connector : Option Connector) (host : Host)
        (actions : List Action) (notebook : String) (activation : Activation) (after : Navigator),
      ((fresh registry connector host).run actions).Concerns notebook activation →
      ((fresh registry connector host).run actions).activate notebook activation = (true, after) →
        ∃ cell, after.activeCellOf? notebook = some cell ∧
          after.HookedFor (.notebook notebook) cell.id := by
  intro always
  obtain ⟨cell, isActive, hooked⟩ := always .standard none {} usingCellActive "n"
    (.command .notebook) (unswept.execute .notebook).2 ⟨rfl, by decide +kernel⟩
    (Prod.ext (by decide +kernel) rfl)
  have reached : ((unswept.execute .notebook).2.activeCellOf? "n").map (·.id) = some "a" := by
    decide +kernel
  have unhooked : ¬(unswept.execute .notebook).2.HookedFor (.notebook "n") "a" := by
    decide +kernel
  rw [isActive] at reached
  have isFirst : cell.id = "a" := Option.some.inj reached
  rw [isFirst] at hooked
  exact unhooked hooked

end Navigator

end SymbolJump
