/-
Who owns the editors of open widgets.

An editor gets an owner when it is hooked, and loses it when it is unhooked or
its owner is closed. Ids decide alone, so a cell with the id of a file's editor
can take that editor away from its file. While no two open editors share an id
this does not happen, and every open file owns its editor.
-/

import SymbolJump.Proofs.Navigator.Closing

namespace SymbolJump

open Server Text

namespace Navigator

variable {navigator after : Navigator}

/-! ### The ids of open editors -/

/-- The ids of the editors of all open widgets. -/
def editorIds (navigator : Navigator) : List String :=
  navigator.files.values.map (·.jumper.editor.id) ++
    navigator.notebooks.values.flatMap fun jumper => jumper.cells.map (·.id)

theorem mem_values_of_get? {κ α : Type} [DecidableEq κ] {map : Keyed κ α} {key : κ} {value : α}
    (found : map.get? key = some value) : value ∈ map.values :=
  List.mem_map.mpr ⟨(key, value), Keyed.mem_entries_of_get? found, rfl⟩

theorem distinct_cells (distinct : navigator.editorIds.Nodup) {id : String}
    {jumper : NotebookJumper} (isJumper : navigator.notebooks.get? id = some jumper) :
    (jumper.cells.map (·.id)).Nodup := by
  have ofCells := (List.nodup_append.mp distinct).2.1
  exact (List.nodup_flatMap.mp ofCells).1 jumper (mem_values_of_get? isJumper)

/-! ### Operations that hook nothing -/

/-- The hooks, their owners and the sweeps stay, and the same widgets are open. -/
structure Quiet (navigator after : Navigator) : Prop where
  hooks : after.hooks = navigator.hooks
  owners : after.owners = navigator.owners
  sweeps : after.sweeps = navigator.sweeps
  isOpen : ∀ surface, after.isOpen surface = navigator.isOpen surface

theorem Quiet.refl (navigator : Navigator) : Quiet navigator navigator :=
  ⟨rfl, rfl, rfl, fun _ => rfl⟩

theorem quiet_insertFile {id : String} {entry changed : OpenFile}
    (isEntry : navigator.files.get? id = some entry) :
    Quiet navigator { navigator with files := navigator.files.insert id changed } := by
  refine ⟨rfl, rfl, rfl, ?_⟩
  intro surface
  cases surface with
  | notebook other => rfl
  | file other =>
      have known : navigator.files.contains id = true :=
        Option.isSome_iff_exists.mpr ⟨entry, isEntry⟩
      exact Keyed.contains_insert_of_known known changed other

theorem quiet_insertNotebook {id : String} {changed : NotebookJumper}
    (known : navigator.notebooks.contains id = true) :
    Quiet navigator { navigator with notebooks := navigator.notebooks.insert id changed } := by
  refine ⟨rfl, rfl, rfl, ?_⟩
  intro surface
  cases surface with
  | file other => rfl
  | notebook other => exact Keyed.contains_insert_of_known known changed other

theorem quiet_setJumper (navigator : Navigator) (surface : Surface) (jumper : Jumper) :
    Quiet navigator (navigator.setJumper surface jumper) := by
  unfold setJumper
  split
  · split
    · next entry isEntry => exact quiet_insertFile isEntry
    · exact .refl navigator
  · split
    · next known => exact quiet_insertNotebook known
    · exact .refl navigator
  · exact .refl navigator

theorem quiet_withJumper {surface : Surface} {move : Jumper → History → Bool × Jumper × History}
    {moved : Bool} (isMoved : navigator.withJumper? surface move = some (moved, after)) :
    Quiet navigator after := by
  obtain ⟨jumper, isJumper, isAfter⟩ := Option.map_eq_some_iff.mp isMoved
  cases isAfter
  have quiet := navigator.quiet_setJumper surface (move jumper navigator.history).2.1
  exact ⟨quiet.hooks, quiet.owners, quiet.sweeps, quiet.isOpen⟩

theorem quiet_gesture (navigator : Navigator) (trigger : Trigger) (editorId : String)
    (gesture : Gesture) : Quiet navigator (navigator.gesture trigger editorId gesture).2 := by
  unfold Navigator.gesture
  split
  · exact .refl navigator
  · exact getD_snd_preserves (.refl navigator) fun _ _ => quiet_withJumper

theorem quiet_execute (navigator : Navigator) (command : JumpCommand) :
    Quiet navigator (navigator.execute command).2 := by
  refine getD_snd_preserves (.refl navigator) ?_
  intro moved after isMoved
  obtain ⟨surface, _, isMoved⟩ := Option.bind_eq_some_iff.mp isMoved
  exact quiet_withJumper isMoved

theorem quiet_jumpOutside {surface : Surface} {target : OutsideTarget} {linked shown : Bool}
    (asked : navigator.jumpOutside? surface target linked = some (shown, after)) :
    Quiet navigator after := by
  unfold jumpOutside? at asked
  split at asked
  · cases asked
    exact ⟨rfl, rfl, rfl, fun surface => by cases surface <;> rfl⟩
  · cases asked

theorem quiet_ask (navigator : Navigator) (command : Command) (point : Point) :
    Quiet navigator (navigator.ask command point).2 := by
  refine getD_snd_preserves (.refl navigator) ?_
  intro answered after asked
  obtain ⟨id, _, asked⟩ := Option.bind_eq_some_iff.mp asked
  obtain ⟨entry, isEntry, asked⟩ := Option.bind_eq_some_iff.mp asked
  obtain ⟨bridge, _, asked⟩ := Option.bind_eq_some_iff.mp asked
  obtain ⟨position, _, asked⟩ := Option.bind_eq_some_iff.mp asked
  cases asked
  exact quiet_insertFile isEntry

theorem quiet_pump (navigator : Navigator) : Quiet navigator navigator.pump.2 := by
  refine ⟨rfl, rfl, rfl, ?_⟩
  intro surface
  cases surface with
  | notebook id => rfl
  | file id =>
      have kept := congrArg Option.isSome
        (lookup_pumpFiles navigator.files.entries navigator.host id)
      rw [Option.isSome_map, Option.isSome_map] at kept
      exact kept

theorem Consistent.quiet_serve (consistent : navigator.Consistent) {number : Nat}
    {act : Connection → Unit × Connection} {answer : Unit}
    (served : navigator.withServer? number act = some (answer, after)) : Quiet navigator after := by
  unfold withServer? at served
  dsimp only at served
  split at served
  · next id entry isEntry =>
      have member := List.mem_of_find?_eq_some isEntry
      obtain ⟨bridge, _, served⟩ := Option.map_eq_some_iff.mp served
      cases served
      exact quiet_insertFile (consistent.filesDistinct.get?_of_mem member)
  · obtain ⟨bridge, _, served⟩ := Option.map_eq_some_iff.mp served
    cases served
    exact ⟨rfl, rfl, rfl, fun surface => by cases surface <;> rfl⟩

/-! ### Operations that hook cells -/

theorem frame_hookAll (navigator : Navigator) (owner : Surface) (editorIds : List String) :
    (navigator.hookAll owner editorIds).2.files = navigator.files ∧
      (navigator.hookAll owner editorIds).2.notebooks = navigator.notebooks ∧
      ∀ id, id ∉ editorIds →
        (navigator.hookAll owner editorIds).2.owners.get? id = navigator.owners.get? id := by
  induction editorIds generalizing navigator with
  | nil => exact ⟨rfl, rfl, fun _ _ => rfl⟩
  | cons editorId rest ih =>
      obtain ⟨sameFiles, sameNotebooks, sameOwners⟩ := ih (navigator.hook editorId owner).2
      refine ⟨sameFiles, sameNotebooks, ?_⟩
      intro id absent
      obtain ⟨apart, notLater⟩ := not_or.mp (mt List.mem_cons.mpr absent)
      exact (sameOwners id notLater).trans (Keyed.get?_insert_of_ne _ apart owner)

/-- Whether an id is that of a cell in an open notebook. -/
def IsCellId (navigator : Navigator) (id : String) : Prop :=
  ∃ notebook jumper cell, navigator.notebooks.get? notebook = some jumper ∧
    cell ∈ jumper.cells ∧ cell.id = id

theorem frame_sweep (navigator : Navigator) (notebooks : List String) :
    (navigator.sweep notebooks).2.files = navigator.files ∧
      ∀ id, ¬navigator.IsCellId id →
        (navigator.sweep notebooks).2.owners.get? id = navigator.owners.get? id := by
  induction notebooks generalizing navigator with
  | nil => exact ⟨rfl, fun _ _ => rfl⟩
  | cons notebook rest ih =>
      unfold sweep
      split
      · exact ih navigator
      · next jumper isJumper =>
          obtain ⟨sameFiles, sameNotebooks, sameOwners⟩ :=
            navigator.frame_hookAll (.notebook notebook) (jumper.cells.map (·.id))
          obtain ⟨laterFiles, laterOwners⟩ :=
            ih (navigator.hookAll (.notebook notebook) (jumper.cells.map (·.id))).2
          refine ⟨laterFiles.trans sameFiles, ?_⟩
          intro id notCell
          refine (laterOwners id ?_).trans (sameOwners id ?_)
          · unfold IsCellId
            rw [sameNotebooks]
            exact notCell
          · intro member
            obtain ⟨cell, isCell, isId⟩ := List.mem_map.mp member
            exact notCell ⟨notebook, jumper, cell, isJumper, isCell, isId⟩

theorem Consistent.not_isCellId (consistent : navigator.Consistent)
    (distinct : navigator.editorIds.Nodup) {id : String}
    (isOpen : navigator.isOpen (.file id) = true) : ¬navigator.IsCellId id := by
  rintro ⟨notebook, jumper, cell, isJumper, member, isId⟩
  obtain ⟨entry, isEntry⟩ := Option.isSome_iff_exists.mp isOpen
  have named : entry.jumper.editor.id = id := Surface.file.inj (consistent.fileNamed isEntry)
  have ofFile : id ∈ navigator.files.values.map (·.jumper.editor.id) :=
    List.mem_map.mpr ⟨entry, mem_values_of_get? isEntry, named⟩
  have ofCell : id ∈ navigator.notebooks.values.flatMap fun jumper => jumper.cells.map (·.id) :=
    List.mem_flatMap.mpr
      ⟨jumper, mem_values_of_get? isJumper, List.mem_map.mpr ⟨cell, member, isId⟩⟩
  exact (List.nodup_append.mp distinct).2.2 id ofFile id ofCell rfl

/-! ### Files own their editors -/

def FilesOwned (navigator : Navigator) : Prop :=
  ∀ id, navigator.isOpen (.file id) = true → navigator.owners.get? id = some (.file id)

theorem FilesOwned.of_frame (owned : navigator.FilesOwned)
    (noneNew : ∀ id, after.isOpen (.file id) = true → navigator.isOpen (.file id) = true)
    (sameOwner : ∀ id, navigator.isOpen (.file id) = true →
      after.owners.get? id = navigator.owners.get? id) : after.FilesOwned := by
  intro id isOpen
  have before := noneNew id isOpen
  exact (sameOwner id before).trans (owned id before)

theorem FilesOwned.quiet (owned : navigator.FilesOwned) (quiet : Quiet navigator after) :
    after.FilesOwned := by
  refine owned.of_frame ?_ ?_
  · intro id isOpen
    exact (quiet.isOpen (.file id)).symm.trans isOpen
  · intro id _
    rw [quiet.owners]

theorem FilesOwned.fileAdded (owned : navigator.FilesOwned) (editor : Editor) (path : Path) :
    (navigator.fileAdded editor path).2.FilesOwned := by
  obtain ⟨bridge, connected, retired, isAfter⟩ := navigator.fileAdded_eq editor path
  rw [isAfter]
  intro id isOpen
  change (navigator.files.insert editor.id _).contains id = true at isOpen
  change (navigator.owners.insert editor.id (.file editor.id)).get? id = some (.file id)
  rw [Keyed.get?_insert]
  by_cases same : id = editor.id
  · rw [if_pos same, same]
  · rw [Keyed.contains_insert, decide_eq_false same, Bool.false_or] at isOpen
    rw [if_neg same]
    exact owned id isOpen

theorem FilesOwned.cellRemoved (owned : navigator.FilesOwned) (consistent : navigator.Consistent)
    (distinct : navigator.editorIds.Nodup) (notebook : String) (index : Nat) :
    (navigator.cellRemoved notebook index).2.FilesOwned := by
  unfold Navigator.cellRemoved
  split
  · next removed left isRemoved =>
      obtain ⟨jumper, isJumper, isLeft⟩ := Option.bind_eq_some_iff.mp isRemoved
      obtain ⟨cell, isCell, same⟩ := Option.map_eq_some_iff.mp isLeft
      cases same
      refine owned.of_frame (fun _ isOpen => isOpen) ?_
      intro id isOpen
      have apart : id ≠ removed.id := by
        rintro rfl
        exact consistent.not_isCellId distinct isOpen
          ⟨notebook, jumper, removed, isJumper, List.mem_of_getElem? isCell, rfl⟩
      exact Keyed.get?_erase_of_ne _ apart
  · exact owned

theorem FilesOwned.activeCellChanged (owned : navigator.FilesOwned)
    (consistent : navigator.Consistent) (distinct : navigator.editorIds.Nodup)
    (notebook : String) (index : Nat) :
    (navigator.activeCellChanged notebook index).2.FilesOwned := by
  unfold Navigator.activeCellChanged
  split
  · next changed isChanged =>
      obtain ⟨jumper, isJumper, isSet⟩ := Option.bind_eq_some_iff.mp isChanged
      have sameCells : changed.cells = jumper.cells := by
        unfold NotebookJumper.setActive at isSet
        split at isSet
        · cases isSet
          rfl
        · cases isSet
      dsimp only
      split
      · next cell isCell =>
          have member : cell ∈ jumper.cells := by
            rw [← sameCells]
            exact List.mem_of_getElem? isCell
          refine owned.of_frame (fun _ isOpen => isOpen) ?_
          intro id isOpen
          have apart : id ≠ cell.id := by
            rintro rfl
            exact consistent.not_isCellId distinct isOpen
              ⟨notebook, jumper, cell, isJumper, member, rfl⟩
          exact Keyed.get?_insert_of_ne _ apart _
      · exact owned
  · exact owned

theorem FilesOwned.tick (owned : navigator.FilesOwned) (consistent : navigator.Consistent)
    (distinct : navigator.editorIds.Nodup) (now : Nat) : (navigator.tick now).2.FilesOwned := by
  obtain ⟨sameFiles, sameOwners⟩ :=
    { navigator with sweeps := (navigator.sweeps.due now).2 }.frame_sweep
      (navigator.sweeps.due now).1
  refine owned.of_frame ?_ ?_
  · intro id isOpen
    change (navigator.tick now).2.files.contains id = true at isOpen
    change navigator.files.contains id = true
    exact sameFiles ▸ isOpen
  · intro id isOpen
    exact sameOwners id (consistent.not_isCellId distinct isOpen)

theorem FilesOwned.closed (owned : navigator.FilesOwned) (consistent : navigator.Consistent)
    (surface : Surface) : (navigator.closed surface).2.FilesOwned := by
  cases isOpen : navigator.isOpen surface with
  | false =>
      rw [closed_of_not_open isOpen]
      exact owned
  | true =>
      obtain ⟨removed, isRemoved⟩ := exists_removeWidget? isOpen
      have taken := removed_of_removeWidget? isRemoved
      rw [consistent.closed_of_removeWidget? isRemoved isOpen]
      intro id isLeft
      have jumperLeft : (removed.jumper? (.file id)).isSome = true := by
        rw [← isOpen_eq]
        exact isLeft
      have apart : Surface.file id ≠ surface := by
        rintro rfl
        rw [taken.gone] at jumperLeft
        cases jumperLeft
      rw [taken.others _ apart, ← isOpen_eq] at jumperLeft
      rw [owner_without consistent.ownersDistinct, owned id jumperLeft, if_neg]
      exact fun same => apart (Option.some.inj same)

theorem FilesOwned.act (owned : navigator.FilesOwned) (consistent : navigator.Consistent)
    (distinct : navigator.editorIds.Nodup) (action : Action) :
    (navigator.act action).FilesOwned := by
  cases action with
  | setRegistry registry => exact owned
  | setConnector connector => exact owned
  | fileAdded editor path => exact owned.fileAdded editor path
  | notebookAdded id path language now => exact owned
  | cellAdded notebook index cell =>
      refine getD_preserves owned ?_
      intro place after added
      obtain ⟨jumper, isJumper, isAfter⟩ := Option.map_eq_some_iff.mp added
      cases isAfter
      exact owned.quiet (quiet_insertNotebook (isOpen_of_notebook isJumper))
  | cellRemoved notebook index => exact owned.cellRemoved consistent distinct notebook index
  | activeCellChanged notebook index =>
      exact owned.activeCellChanged consistent distinct notebook index
  | tick now => exact owned.tick consistent distinct now
  | typeChanged editorId contentType =>
      change (navigator.typeChanged editorId contentType).2.FilesOwned
      unfold typeChanged
      split
      · next entry isEntry =>
          have quiet := navigator.quiet_setJumper (.file editorId)
            (.file (entry.jumper.changeType contentType))
          exact owned.quiet quiet
      · exact owned
  | focusChanged surface =>
      change (navigator.focusChanged surface).FilesOwned
      unfold focusChanged
      split
      · cases surface <;> exact owned
      · exact owned
  | closed surface => exact owned.closed consistent surface
  | gesture trigger editorId gesture =>
      exact owned.quiet (navigator.quiet_gesture trigger editorId gesture)
  | execute command => exact owned.quiet (navigator.quiet_execute command)
  | jump surface destination =>
      exact getD_preserves owned fun _ _ made => owned.quiet (quiet_withJumper made)
  | jumpOutside surface target linked =>
      exact getD_preserves owned fun _ _ made => owned.quiet (quiet_jumpOutside made)
  | ask command point => exact owned.quiet (navigator.quiet_ask command point)
  | pump => exact owned.quiet navigator.quiet_pump
  | setCursor surface cell position =>
      exact getD_preserves owned fun _ _ made => owned.quiet (quiet_withJumper made)
  | setText surface cell text =>
      exact getD_preserves owned fun _ _ made => owned.quiet (quiet_withJumper made)
  | serve number action =>
      exact getD_preserves owned fun _ _ made => owned.quiet (consistent.quiet_serve made)

/-- As long as no two open editors have had the same id, every open file owns its editor. -/
theorem filesOwned_run {registry : Definition.Registry} {connector : Option Connector}
    {host : Host} {actions : List Action}
    (distinct : ∀ earlier, earlier <+: actions →
      ((fresh registry connector host).run earlier).editorIds.Nodup) :
    ((fresh registry connector host).run actions).FilesOwned := by
  have initially : (fresh registry connector host).Consistent ∧
      (fresh registry connector host).FilesOwned :=
    ⟨consistent_fresh registry connector host, fun _ isOpen => (by cases isOpen)⟩
  have kept (navigator : Navigator) (action : Action) (distinctNow : navigator.editorIds.Nodup)
      (both : navigator.Consistent ∧ navigator.FilesOwned) :
      (navigator.act action).Consistent ∧ (navigator.act action).FilesOwned :=
    ⟨consistent_act navigator action both.1, both.2.act both.1 distinctNow action⟩
  exact (run_preserves_under kept initially distinct).2

end Navigator

end SymbolJump
