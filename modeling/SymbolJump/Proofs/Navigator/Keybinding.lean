/-
The key binding does what the jump command does.

A gesture finds its widget through the owner of the editor, and the editor
through its hook; a command takes the current widget and its active editor.
Both ways meet where the editor is owned by the widget that holds it. While no
two open editors share an id, this is always so for files: what hooks or
unhooks a cell never touches the owner of a file's editor.
-/

import Mathlib.Data.List.Infix
import SymbolJump.Proofs.Navigator.Ownership

namespace SymbolJump

open Server Text

/-! ### The usage meant by the key -/

theorem Jumper.index_activeEditor? {jumper : Jumper} {editor : Editor}
    (isActive : jumper.activeEditor? = some editor)
    (distinct : (jumper.editors.map (·.id)).Nodup) :
    ∃ index, jumper.editors.findIdx? (·.id == editor.id) = some index ∧
      jumper.editors[index]? = some editor := by
  cases jumper with
  | file jumper =>
      cases isActive
      refine ⟨0, ?_, rfl⟩
      simp [editors, List.findIdx?_cons]
  | notebook jumper =>
      have isIndex := NotebookJumper.cellIndex?_of_cell distinct isActive
      exact ⟨jumper.active, isIndex, isActive⟩

theorem Hook.usage?_keybinding {hook : Hook} {jumper : Jumper} {editor : Editor}
    (named : hook.editorId = editor.id) (isActive : jumper.activeEditor? = some editor)
    (distinct : (jumper.editors.map (·.id)).Nodup) (trigger : Trigger) :
    hook.usage? trigger .keybinding jumper = jumper.usageAtCursor? := by
  obtain ⟨index, isIndex, isEditor⟩ := Jumper.index_activeEditor? isActive distinct
  unfold Hook.usage? Jumper.usageAtCursor?
  simp only [named, isIndex, isEditor, isActive, Gesture.token?, Option.bind_eq_bind,
    Option.bind_some, Option.pure_def]

namespace Navigator

variable {navigator : Navigator}

/-- What a command forward makes of the caret. -/
def jumpAtCursor (jumper : Jumper) (history : History) : Bool × Jumper × History :=
  match jumper.usageAtCursor? with
  | some usage => jumper.jumpToDefinition history usage
  | none => (false, jumper, history)

theorem execute_eq {command : JumpCommand} (forward : command.isBack = false)
    {surface : Surface} (isCurrent : navigator.currentFor command = some surface) :
    navigator.execute command =
      (navigator.withJumper? surface jumpAtCursor).getD (false, navigator) := by
  unfold execute
  rw [isCurrent, forward]
  rfl

theorem withJumper?_congr {surface : Surface} {jumper : Jumper}
    (isJumper : navigator.jumper? surface = some jumper)
    {move other : Jumper → History → Bool × Jumper × History}
    (same : move jumper navigator.history = other jumper navigator.history) :
    navigator.withJumper? surface move = navigator.withJumper? surface other := by
  simp only [withJumper?, isJumper, Option.map_some, same]

/-- A gesture by key on the active editor of the current widget, which owns that editor. -/
theorem Consistent.gesture_eq_execute (consistent : navigator.Consistent) {surface : Surface}
    {jumper : Jumper} {editor : Editor} {command : JumpCommand}
    (isJumper : navigator.jumper? surface = some jumper)
    (isActive : jumper.activeEditor? = some editor)
    (distinct : (jumper.editors.map (·.id)).Nodup)
    (owned : navigator.owners.get? editor.id = some surface)
    (isCurrent : navigator.currentFor command = some surface)
    (forward : command.isBack = false) (trigger : Trigger) :
    navigator.gesture trigger editor.id .keybinding = navigator.execute command := by
  have registered : navigator.hooks.isRegistered editor.id = true := by
    rw [consistent.hooks.registered, Keyed.contains, owned]
    rfl
  obtain ⟨hook, isHook⟩ := Option.isSome_iff_exists.mp registered
  have named := consistent.hooks.named editor.id hook isHook
  have sameMove : navigator.hooks.dispatch trigger editor.id .keybinding jumper navigator.history =
      jumpAtCursor jumper navigator.history := by
    have isUsage := Hook.usage?_keybinding named isActive distinct trigger
    cases atCursor : jumper.usageAtCursor? with
    | none => simp only [Hooks.dispatch, jumpAtCursor, isHook, Hook.handle, isUsage, atCursor]
    | some usage =>
        simp only [Hooks.dispatch, jumpAtCursor, isHook, Hook.handle, isUsage, atCursor]
  rw [execute_eq forward isCurrent, ← withJumper?_congr isJumper sameMove]
  unfold Navigator.gesture
  rw [owned]

/-- After a run during which no two open editors had the same id, the key on the editor of the
current file does what the file command does, answer and effect alike; and if the active cell
of the current notebook is hooked for it, the key on that cell does what the notebook command
does. -/
theorem keybinding_runs_jump_command (registry : Definition.Registry)
    (connector : Option Connector) (host : Host) (actions : List Action)
    (distinct : ∀ earlier, earlier <+: actions →
      ((fresh registry connector host).run earlier).editorIds.Nodup) (trigger : Trigger) :
    let navigator := (fresh registry connector host).run actions
    (∀ id, navigator.currentFile = some id →
      navigator.gesture trigger id .keybinding = navigator.execute .fileEditor) ∧
      ∀ id jumper cell, navigator.currentNotebook = some id →
        navigator.notebooks.get? id = some jumper → jumper.activeCell? = some cell →
        navigator.hooks.isRegistered cell.id = true →
        navigator.owners.get? cell.id = some (.notebook id) →
          navigator.gesture trigger cell.id .keybinding = navigator.execute .notebook := by
  intro navigator
  have consistent : navigator.Consistent := consistent_run registry connector host actions
  constructor
  · intro id isCurrent
    have isOpen := consistent.fileOpen id isCurrent
    have owned := filesOwned_run distinct id isOpen
    obtain ⟨entry, isEntry⟩ := Option.isSome_iff_exists.mp isOpen
    have named : entry.jumper.editor.id = id := Surface.file.inj (consistent.fileNamed isEntry)
    have isJumper : navigator.jumper? (.file id) = some (.file entry.jumper) := by
      simp only [jumper?, isEntry, Option.map_some]
    have isCommanded : navigator.currentFor .fileEditor = some (.file id) :=
      congrArg (Option.map Surface.file) isCurrent
    have same := consistent.gesture_eq_execute isJumper rfl (List.nodup_singleton _)
      (by rw [named]; exact owned) isCommanded rfl trigger
    rw [named] at same
    exact same
  · intro id jumper cell isCurrent isNotebook isActive _ owned
    have isJumper : navigator.jumper? (.notebook id) = some (.notebook jumper) := by
      simp only [jumper?, isNotebook, Option.map_some]
    have isCommanded : navigator.currentFor .notebook = some (.notebook id) :=
      congrArg (Option.map Surface.notebook) isCurrent
    have distinctNow := distinct actions (List.prefix_refl actions)
    exact consistent.gesture_eq_execute isJumper isActive (distinct_cells distinctNow isNotebook)
      owned isCommanded rfl trigger

def anyRule : Definition.Registry := ⟨[{ language := "any", rules := [{ name := "any" }] }]⟩

/-- A file and a notebook, each with the caret behind a name that was there before. -/
def twoWidgets : List Action :=
  [.fileAdded { id := "f", text := "x x".toList, contentType := "any" } [],
   .setCursor (.file "f") 0 ⟨0, 3⟩,
   .notebookAdded "n" [] "any" 0,
   .cellAdded "n" 0 { id := "a", text := ['x'], contentType := "any" },
   .cellAdded "n" 1 { id := "b", text := ['x'], contentType := "any" },
   .activeCellChanged "n" 1]

theorem keybinding_runs_jump_command_twice :
    let navigator := (fresh anyRule none {}).run twoWidgets
    navigator.gesture .alt "f" .keybinding = navigator.execute .fileEditor ∧
      (navigator.execute .fileEditor).1 = true ∧
      navigator.gesture .alt "b" .keybinding = navigator.execute .notebook ∧
      (navigator.execute .notebook).1 = true := by
  intro navigator
  have distinct : ∀ earlier, earlier <+: twoWidgets →
      ((fresh anyRule none {}).run earlier).editorIds.Nodup := by
    have all : ∀ earlier ∈ twoWidgets.inits,
        ((fresh anyRule none {}).run earlier).editorIds.Nodup := by
      decide
    intro earlier isEarlier
    exact all earlier ((List.mem_inits earlier twoWidgets).mpr isEarlier)
  have same := keybinding_runs_jump_command anyRule none {} twoWidgets distinct .alt
  exact ⟨same.1 "f" rfl, by decide, same.2 "n" _ _ rfl rfl rfl (by decide) (by decide), by decide⟩

end Navigator

end SymbolJump
