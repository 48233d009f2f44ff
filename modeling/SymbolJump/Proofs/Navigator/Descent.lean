/-
Following definitions always ends.

A successful command or key takes the caret of a widget back in reading order
and leaves all texts as long as they are, so that there are fewer characters
before the caret each time. While no two open editors share an id, the key on
the active editor of a widget moves no other widget.
-/

import Mathlib.Data.Nat.Find
import SymbolJump.Proofs.Jumper.Descent
import SymbolJump.Proofs.Navigator.Keybinding
import SymbolJump.Proofs.Navigator.Sweeping

namespace SymbolJump

open Text

/-! ### One jump by key -/

theorem Hook.descends_handle {hook : Hook} {trigger : Trigger} {jumper : Jumper}
    {history : History} (moved : (hook.handle trigger .keybinding jumper history).1 = true) :
    ∃ index editor, jumper.editors[index]? = some editor ∧ editor.id = hook.editorId ∧
      jumper.Descends (hook.handle trigger .keybinding jumper history).2.1
        (toLex (index, editor.caretOffset)) := by
  unfold Hook.handle at moved ⊢
  split at moved
  · next usage isUsage =>
      obtain ⟨index, isIndex, isUsage⟩ := Option.bind_eq_some_iff.mp isUsage
      obtain ⟨editor, isEditor, isUsage⟩ := Option.bind_eq_some_iff.mp isUsage
      obtain ⟨token, isToken, isUsage⟩ := Option.bind_eq_some_iff.mp isUsage
      cases isToken
      split at isUsage
      · cases isUsage
      · cases isUsage
        obtain ⟨inRange, named, _⟩ := List.findIdx?_eq_some_iff_getElem.mp isIndex
        have isSame := (List.getElem?_eq_some_iff.mp isEditor).2
        rw [isSame] at named
        exact ⟨index, editor, isEditor, eq_of_beq named, Jumper.descends_jumpToDefinition isEditor moved⟩
  · cases moved

namespace Navigator

variable {navigator after : Navigator}

/-! ### One editor for an id -/

theorem distinct_editors (distinct : navigator.editorIds.Nodup) {surface : Surface}
    {jumper : Jumper} (isJumper : navigator.jumper? surface = some jumper) :
    (jumper.editors.map (·.id)).Nodup := by
  cases surface with
  | file id =>
      obtain ⟨entry, _, rfl⟩ := Option.map_eq_some_iff.mp isJumper
      exact List.nodup_singleton _
  | notebook id =>
      obtain ⟨notebook, isNotebook, rfl⟩ := Option.map_eq_some_iff.mp isJumper
      exact distinct_cells distinct isNotebook

theorem caret_of_id {jumper : Jumper} (distinct : (jumper.editors.map (·.id)).Nodup) {index : Nat}
    {editor active : Editor} (isEditor : jumper.editors[index]? = some editor)
    (isActive : jumper.activeEditor? = some active) (named : editor.id = active.id) :
    toLex (index, editor.caretOffset) = jumper.caret := by
  have isActiveAt := isActive
  rw [← Jumper.editors_activeIndex] at isActiveAt
  have sameId : (jumper.editors.map (·.id))[index]? =
      (jumper.editors.map (·.id))[jumper.activeIndex]? := by
    rw [List.getElem?_map, List.getElem?_map, isEditor, isActiveAt]
    exact congrArg some named
  have inRange : index < (jumper.editors.map (·.id)).length := by
    rw [List.length_map]
    exact (List.getElem?_eq_some_iff.mp isEditor).1
  have sameIndex : index = jumper.activeIndex := (List.getElem?_inj inRange distinct).mp sameId
  rw [sameIndex, isActiveAt] at isEditor
  rw [Jumper.caret_of_active isActive, sameIndex, Option.some.inj isEditor]

theorem Consistent.id_of_file (consistent : navigator.Consistent) {file id : String}
    {jumper : Jumper} (isJumper : navigator.jumper? (.file file) = some jumper)
    (isHere : id ∈ jumper.editors.map (·.id)) : id = file := by
  obtain ⟨entry, isEntry, rfl⟩ := Option.map_eq_some_iff.mp isJumper
  have named : entry.jumper.editor.id = file := Surface.file.inj (consistent.fileNamed isEntry)
  exact (List.mem_singleton.mp isHere).trans named

theorem Consistent.surface_of_file (consistent : navigator.Consistent)
    (distinct : navigator.editorIds.Nodup) {surface : Surface} {jumper fileJumper : Jumper}
    {id : String} (isFile : navigator.jumper? (.file id) = some fileJumper)
    (isJumper : navigator.jumper? surface = some jumper)
    (isHere : id ∈ jumper.editors.map (·.id)) : surface = .file id := by
  cases surface with
  | file other => rw [consistent.id_of_file isJumper isHere]
  | notebook notebook =>
      obtain ⟨cells, isNotebook, rfl⟩ := Option.map_eq_some_iff.mp isJumper
      obtain ⟨cell, isCell, isId⟩ := List.mem_map.mp isHere
      have isOpen : navigator.isOpen (.file id) = true := by
        rw [isOpen_eq, isFile]
        rfl
      exact absurd ⟨notebook, cells, cell, isNotebook, isCell, isId⟩
        (consistent.not_isCellId distinct isOpen)

theorem Consistent.surface_of_id (consistent : navigator.Consistent)
    (distinct : navigator.editorIds.Nodup) {surface other : Surface} {jumper otherJumper : Jumper}
    (isJumper : navigator.jumper? surface = some jumper)
    (isOther : navigator.jumper? other = some otherJumper) {id : String}
    (isHere : id ∈ jumper.editors.map (·.id)) (isThere : id ∈ otherJumper.editors.map (·.id)) :
    other = surface := by
  cases surface with
  | file file =>
      obtain rfl := consistent.id_of_file isJumper isHere
      exact consistent.surface_of_file distinct isJumper isOther isThere
  | notebook notebook =>
      cases other with
      | file file =>
          obtain rfl := consistent.id_of_file isOther isThere
          exact (consistent.surface_of_file distinct isOther isJumper isHere).symm
      | notebook otherNotebook =>
          obtain ⟨cells, isCells, rfl⟩ := Option.map_eq_some_iff.mp isJumper
          obtain ⟨otherCells, isOtherCells, rfl⟩ := Option.map_eq_some_iff.mp isOther
          have sole := soleCell_of_distinct distinct isCells isHere
          exact congrArg Surface.notebook (sole otherNotebook otherCells isOtherCells isThere)

/-! ### Jumpers put back -/

theorem jumper?_setJumper {surface : Surface} {jumper left : Jumper}
    (isJumper : navigator.jumper? surface = some jumper) (named : left.surface = jumper.surface) :
    (navigator.setJumper surface left).jumper? surface = some left := by
  cases surface with
  | file id =>
      obtain ⟨entry, isEntry, rfl⟩ := Option.map_eq_some_iff.mp isJumper
      cases left with
      | file left =>
          simp only [setJumper, isEntry, jumper?, Keyed.get?_insert_self, Option.map_some]
      | notebook left => cases named
  | notebook id =>
      obtain ⟨cells, isCells, rfl⟩ := Option.map_eq_some_iff.mp isJumper
      cases left with
      | file left => cases named
      | notebook left =>
          have known : navigator.notebooks.contains id = true := isOpen_of_notebook isCells
          simp only [setJumper, known, if_true, jumper?, Keyed.get?_insert_self, Option.map_some]

theorem editorIds_setJumper {surface : Surface} {jumper left : Jumper}
    (isJumper : navigator.jumper? surface = some jumper)
    (sameIds : left.editors.map (·.id) = jumper.editors.map (·.id)) :
    (navigator.setJumper surface left).editorIds = navigator.editorIds := by
  have ofFiles (files : Keyed String OpenFile) :
      files.values.map (·.jumper.editor.id) =
        (files.mapValues (·.jumper.editor.id)).values := (Keyed.values_mapValues _ _).symm
  have ofNotebooks (notebooks : Keyed String NotebookJumper) :
      (notebooks.values.flatMap fun jumper => jumper.cells.map (·.id)) =
        (notebooks.mapValues fun jumper => jumper.cells.map (·.id)).values.flatten := by
    rw [Keyed.values_mapValues, List.flatMap_def]
  unfold editorIds
  rw [ofFiles, ofNotebooks, ofFiles, ofNotebooks]
  unfold setJumper
  split
  · next id left =>
      split
      · next entry isEntry =>
          obtain ⟨_, isKnown, rfl⟩ := Option.map_eq_some_iff.mp isJumper
          cases isEntry.symm.trans isKnown
          have sameId : left.editor.id = entry.jumper.editor.id := (List.cons.inj sameIds).1
          dsimp only
          rw [Keyed.mapValues_insert_of_get? isEntry sameId]
      · rfl
  · next id left =>
      split
      · obtain ⟨cells, isCells, rfl⟩ := Option.map_eq_some_iff.mp isJumper
        dsimp only
        rw [Keyed.mapValues_insert_of_get? isCells sameIds]
      · rfl
  · rfl

theorem currentFor_setJumper (navigator : Navigator) (surface : Surface) (jumper : Jumper)
    (command : JumpCommand) :
    (navigator.setJumper surface jumper).currentFor command = navigator.currentFor command := by
  unfold setJumper
  split
  · split <;> rfl
  · split <;> rfl
  · rfl

/-! ### Steps back -/

/-- One widget has moved, to before a place; the ids of all editors and the current widgets are
the same. -/
structure StepsBack (navigator after : Navigator) (surface : Surface) (place : Nat ×ₗ Nat) :
    Prop where
  moves : ∃ jumper left, navigator.jumper? surface = some jumper ∧
    after.jumper? surface = some left ∧ jumper.Descends left place
  editorIds : after.editorIds = navigator.editorIds
  current : ∀ command, after.currentFor command = navigator.currentFor command

theorem stepsBack_of_withJumper {surface : Surface} {jumper : Jumper} {place : Nat ×ₗ Nat}
    {move : Jumper → History → Bool × Jumper × History}
    (isJumper : navigator.jumper? surface = some jumper)
    (descends : jumper.Descends (move jumper navigator.history).2.1 place) :
    StepsBack navigator ((navigator.withJumper? surface move).getD (false, navigator)).2 surface
      place := by
  have isMoved : (navigator.withJumper? surface move).getD (false, navigator) =
      ((move jumper navigator.history).1,
        { navigator.setJumper surface (move jumper navigator.history).2.1 with
          history := (move jumper navigator.history).2.2 }) := by
    simp only [withJumper?, isJumper, Option.map_some, Option.getD_some]
  rw [isMoved]
  exact
    { moves := ⟨jumper, _, isJumper, jumper?_setJumper isJumper descends.surface, descends⟩
      editorIds := editorIds_setJumper isJumper descends.ids
      current := navigator.currentFor_setJumper surface _ }

theorem jumper_of_moved {surface : Surface} {move : Jumper → History → Bool × Jumper × History}
    (moved : ((navigator.withJumper? surface move).getD (false, navigator)).1 = true) :
    ∃ jumper, navigator.jumper? surface = some jumper ∧
      (move jumper navigator.history).1 = true := by
  unfold withJumper? at moved
  cases isJumper : navigator.jumper? surface with
  | none =>
      rw [isJumper] at moved
      cases moved
  | some jumper =>
      rw [isJumper] at moved
      exact ⟨jumper, rfl, moved⟩

/-- A key that moves a widget is pressed in one of its editors, and leads before the caret
there. -/
theorem Consistent.stepsBack_gesture (consistent : navigator.Consistent) {trigger : Trigger}
    {editorId : String} (moved : (navigator.gesture trigger editorId .keybinding).1 = true) :
    ∃ surface jumper index editor, navigator.jumper? surface = some jumper ∧
      jumper.editors[index]? = some editor ∧ editor.id = editorId ∧
      StepsBack navigator (navigator.gesture trigger editorId .keybinding).2 surface
        (toLex (index, editor.caretOffset)) := by
  unfold Navigator.gesture at moved ⊢
  split at moved
  · cases moved
  · next surface isOwner =>
      obtain ⟨jumper, isJumper, dispatched⟩ := jumper_of_moved moved
      have registered : navigator.hooks.isRegistered editorId = true := by
        rw [consistent.hooks.registered, Keyed.contains, isOwner]
        rfl
      obtain ⟨hook, isHook⟩ := Option.isSome_iff_exists.mp registered
      have isHandled : navigator.hooks.dispatch trigger editorId .keybinding jumper
          navigator.history = hook.handle trigger .keybinding jumper navigator.history := by
        simp only [Hooks.dispatch, isHook]
      rw [isHandled] at dispatched
      obtain ⟨index, editor, isEditor, named, descends⟩ := Hook.descends_handle dispatched
      rw [← isHandled] at descends
      refine ⟨surface, jumper, index, editor, isJumper, isEditor, ?_,
        stepsBack_of_withJumper isJumper descends⟩
      exact named.trans (consistent.hooks.named editorId hook isHook)

theorem descends_jumpAtCursor {jumper : Jumper} {history : History}
    (distinct : (jumper.editors.map (·.id)).Nodup)
    (moved : (jumpAtCursor jumper history).1 = true) :
    jumper.Descends (jumpAtCursor jumper history).2.1 jumper.caret := by
  cases isActive : jumper.activeEditor? with
  | none =>
      have nothing : jumper.usageAtCursor? = none := by
        unfold Jumper.usageAtCursor?
        rw [isActive]
        rfl
      simp only [jumpAtCursor, nothing] at moved
      cases moved
  | some active =>
      -- The command does what the key would do, were it pressed in the active editor.
      have isHandled : jumpAtCursor jumper history =
          Hook.handle ⟨active.id⟩ .alt .keybinding jumper history := by
        have isUsage : Hook.usage? ⟨active.id⟩ .alt .keybinding jumper = jumper.usageAtCursor? :=
          Hook.usage?_keybinding rfl isActive distinct .alt
        cases atCursor : jumper.usageAtCursor? with
        | none => simp only [jumpAtCursor, Hook.handle, isUsage, atCursor]
        | some usage => simp only [jumpAtCursor, Hook.handle, isUsage, atCursor]
      rw [isHandled] at moved ⊢
      obtain ⟨index, editor, isEditor, named, descends⟩ := Hook.descends_handle moved
      rw [← caret_of_id distinct isEditor isActive named]
      exact descends

/-! ### Following definitions -/

/-- How the definition of the name at the caret is asked for. -/
inductive Way where
  | command
  | key (trigger : Trigger)

/-- The command that goes to a definition in a widget of this kind. -/
def forward : Surface → JumpCommand
  | .file _ => .fileEditor
  | .notebook _ => .notebook

/-- Follows the definition of the name at the caret: by the command for the current widget of the
same kind, or by the key in the active editor. -/
def follow (navigator : Navigator) (surface : Surface) : Way → Bool × Navigator
  | .command => navigator.execute (forward surface)
  | .key trigger =>
      match (navigator.jumper? surface).bind Jumper.activeEditor? with
      | some editor => navigator.gesture trigger editor.id .keybinding
      | none => (false, navigator)

/-- Whether a way acts on a widget: a command does so while the widget is the current one of its
kind. -/
def Reaches (navigator : Navigator) (surface : Surface) : Way → Prop
  | .command => navigator.currentFor (forward surface) = some surface
  | .key _ => True

theorem Consistent.stepsBack_follow (consistent : navigator.Consistent)
    (distinct : navigator.editorIds.Nodup) {surface : Surface} {way : Way}
    (reaches : navigator.Reaches surface way) (moved : (navigator.follow surface way).1 = true) :
    ∃ jumper, navigator.jumper? surface = some jumper ∧
      StepsBack navigator (navigator.follow surface way).2 surface jumper.caret := by
  cases way with
  | command =>
      have isForward : (forward surface).isBack = false := by
        cases surface <;> rfl
      have isExecuted := execute_eq isForward reaches
      change (navigator.execute (forward surface)).1 = true at moved
      change ∃ jumper, _ ∧ StepsBack navigator (navigator.execute (forward surface)).2 _ _
      rw [isExecuted] at moved ⊢
      obtain ⟨jumper, isJumper, jumped⟩ := jumper_of_moved moved
      have descends := descends_jumpAtCursor (distinct_editors distinct isJumper) jumped
      exact ⟨jumper, isJumper, stepsBack_of_withJumper isJumper descends⟩
  | key trigger =>
      unfold follow at moved ⊢
      dsimp only at moved ⊢
      split at moved
      · next active isFound =>
          obtain ⟨jumper, isJumper, isActive⟩ := Option.bind_eq_some_iff.mp isFound
          obtain ⟨owner, owned, index, editor, isOwned, isEditor, named, stepsBack⟩ :=
            consistent.stepsBack_gesture moved
          -- The widget that owns the editor is the one that has it active.
          have isHere : active.id ∈ jumper.editors.map (·.id) := by
            rw [← Jumper.editors_activeIndex] at isActive
            exact List.mem_map_of_mem (List.mem_of_getElem? isActive)
          have isThere : active.id ∈ owned.editors.map (·.id) := by
            rw [← named]
            exact List.mem_map_of_mem (List.mem_of_getElem? isEditor)
          obtain rfl := consistent.surface_of_id distinct isJumper isOwned isHere isThere
          obtain rfl : jumper = owned := Option.some.inj (isJumper.symm.trans isOwned)
          rw [caret_of_id (distinct_editors distinct isJumper) isEditor isActive named] at stepsBack
          exact ⟨jumper, isJumper, stepsBack⟩
      · cases moved

theorem Consistent.follow (consistent : navigator.Consistent) (surface : Surface) (way : Way) :
    (navigator.follow surface way).2.Consistent := by
  cases way with
  | command => exact consistent.execute (forward surface)
  | key trigger =>
      unfold Navigator.follow
      dsimp only
      split
      · exact consistent.gesture trigger _ .keybinding
      · exact consistent

theorem Reaches.of_current {surface : Surface} {way : Way}
    (current : ∀ command, after.currentFor command = navigator.currentFor command)
    (reaches : navigator.Reaches surface way) : after.Reaches surface way := by
  cases way with
  | command => exact (current (forward surface)).trans reaches
  | key trigger => trivial

/-- The navigator after a number of requests. -/
def followed (navigator : Navigator) (surface : Surface) (ways : Nat → Way) : Nat → Navigator
  | 0 => navigator
  | count + 1 =>
      ((navigator.followed surface ways count).follow surface (ways count)).2

def charactersOf (navigator : Navigator) (surface : Surface) : Nat :=
  ((navigator.jumper? surface).map Jumper.characters).getD 0

def charactersBefore (navigator : Navigator) (surface : Surface) : Nat :=
  ((navigator.jumper? surface).map Jumper.charactersBefore).getD 0

theorem charactersBefore_le (navigator : Navigator) (surface : Surface) :
    navigator.charactersBefore surface ≤ navigator.charactersOf surface := by
  unfold charactersBefore charactersOf
  cases navigator.jumper? surface with
  | none => exact Nat.le_refl 0
  | some jumper => exact jumper.charactersBefore_le

theorem StepsBack.charactersBefore_lt {surface : Surface} {jumper : Jumper}
    (stepsBack : StepsBack navigator after surface jumper.caret)
    (isJumper : navigator.jumper? surface = some jumper) :
    after.charactersBefore surface < navigator.charactersBefore surface := by
  obtain ⟨known, left, isKnown, isLeft, descends⟩ := stepsBack.moves
  obtain rfl : jumper = known := Option.some.inj (isJumper.symm.trans isKnown)
  unfold charactersBefore
  rw [isLeft, isJumper]
  exact descends.charactersBefore_lt

/-- What a number of successful requests leaves: each has taken at least one character from
those before the caret. -/
structure Follows (navigator after : Navigator) (surface : Surface) (count : Nat) : Prop where
  consistent : after.Consistent
  distinct : after.editorIds.Nodup
  reaches : ∀ way, navigator.Reaches surface way → after.Reaches surface way
  before : after.charactersBefore surface + count ≤ navigator.charactersBefore surface

theorem Consistent.follows_followed (consistent : navigator.Consistent)
    (distinct : navigator.editorIds.Nodup) {surface : Surface} {ways : Nat → Way}
    (reaches : ∀ number, navigator.Reaches surface (ways number)) {count : Nat}
    (allMoved : ∀ earlier, earlier < count →
      ((navigator.followed surface ways earlier).follow surface (ways earlier)).1 = true) :
    Follows navigator (navigator.followed surface ways count) surface count := by
  induction count with
  | zero => exact ⟨consistent, distinct, fun _ reaches => reaches, Nat.le_refl _⟩
  | succ count ih =>
      have follows := ih fun earlier below => allMoved earlier (Nat.lt_succ_of_lt below)
      have moved := allMoved count (Nat.lt_succ_self count)
      obtain ⟨jumper, isJumper, stepsBack⟩ :=
        follows.consistent.stepsBack_follow follows.distinct
          (follows.reaches _ (reaches count)) moved
      have fewer := stepsBack.charactersBefore_lt isJumper
      have soFar := follows.before
      rw [followed]
      refine ⟨follows.consistent.follow surface (ways count), ?_, ?_, by omega⟩
      · rw [stepsBack.editorIds]
        exact follows.distinct
      · exact fun way reaches => (follows.reaches way reaches).of_current stepsBack.current

/-! ### The end -/

/-- The caret of a widget is further back in reading order than it was. -/
def MovesBack (navigator after : Navigator) (surface : Surface) : Prop :=
  ∃ jumper left, navigator.jumper? surface = some jumper ∧
    after.jumper? surface = some left ∧ left.caret < jumper.caret

theorem StepsBack.movesBack {surface : Surface} {jumper : Jumper}
    (stepsBack : StepsBack navigator after surface jumper.caret)
    (isJumper : navigator.jumper? surface = some jumper) : MovesBack navigator after surface := by
  obtain ⟨_, left, _, isLeft, descends⟩ := stepsBack.moves
  exact ⟨jumper, left, isJumper, isLeft, descends.back⟩

theorem Consistent.exists_unmoved (consistent : navigator.Consistent)
    (distinct : navigator.editorIds.Nodup) {surface : Surface} {ways : Nat → Way}
    (reaches : ∀ number, navigator.Reaches surface (ways number)) :
    ∃ count, ((navigator.followed surface ways count).follow surface (ways count)).1 = false := by
  by_contra endless
  have allMoved (number : Nat) :
      ((navigator.followed surface ways number).follow surface (ways number)).1 = true :=
    Bool.eq_true_of_not_eq_false fun unmoved => endless ⟨number, unmoved⟩
  have follows := consistent.follows_followed distinct reaches
    (fun earlier (_ : earlier < navigator.charactersBefore surface + 1) => allMoved earlier)
  have tooMany := follows.before
  omega

/-- After any run that leaves all open editors with different ids, definitions can be followed
from the caret of a widget only so far. Each request that succeeds takes the caret back in
reading order, whether by command or by key in the active editor; the key in any other editor
leads before the caret of that editor. Of requests one after the other, made in whatever ways,
at most as many succeed as the widget has characters before one fails. -/
theorem following_definitions_ends (registry : Definition.Registry)
    (connector : Option Connector) (host : Host) (actions : List Action)
    (distinct : ((fresh registry connector host).run actions).editorIds.Nodup)
    (surface : Surface) :
    let navigator := (fresh registry connector host).run actions
    (∀ way, navigator.Reaches surface way → (navigator.follow surface way).1 = true →
      MovesBack navigator (navigator.follow surface way).2 surface) ∧
      (∀ trigger editorId, (navigator.gesture trigger editorId .keybinding).1 = true →
        ∃ owner jumper index editor left, navigator.jumper? owner = some jumper ∧
          jumper.editors[index]? = some editor ∧ editor.id = editorId ∧
          (navigator.gesture trigger editorId .keybinding).2.jumper? owner = some left ∧
          left.caret < toLex (index, editor.caretOffset)) ∧
      ∀ ways : Nat → Way, (∀ number, navigator.Reaches surface (ways number)) →
        ∃ count, count ≤ navigator.charactersOf surface ∧
          (∀ earlier, earlier < count →
            ((navigator.followed surface ways earlier).follow surface (ways earlier)).1 = true ∧
            MovesBack (navigator.followed surface ways earlier)
              (navigator.followed surface ways (earlier + 1)) surface) ∧
          ((navigator.followed surface ways count).follow surface (ways count)).1 = false := by
  intro navigator
  have consistent : navigator.Consistent := consistent_run registry connector host actions
  refine ⟨?_, ?_, ?_⟩
  · intro way reaches moved
    obtain ⟨jumper, isJumper, stepsBack⟩ := consistent.stepsBack_follow distinct reaches moved
    exact stepsBack.movesBack isJumper
  · intro trigger editorId moved
    obtain ⟨owner, jumper, index, editor, isJumper, isEditor, named, stepsBack⟩ :=
      consistent.stepsBack_gesture moved
    obtain ⟨_, left, _, isLeft, descends⟩ := stepsBack.moves
    exact ⟨owner, jumper, index, editor, left, isJumper, isEditor, named, isLeft, descends.back⟩
  · intro ways reaches
    have ends := consistent.exists_unmoved distinct reaches
    have allMoved {number : Nat} (below : number < Nat.find ends) :
        ((navigator.followed surface ways number).follow surface (ways number)).1 = true :=
      Bool.eq_true_of_not_eq_false (Nat.find_min ends below)
    refine ⟨Nat.find ends, ?_, ?_, Nat.find_spec ends⟩
    · have bound := (consistent.follows_followed distinct reaches fun _ => allMoved).before
      have inAll := navigator.charactersBefore_le surface
      omega
    · intro earlier below
      have follows := consistent.follows_followed distinct reaches
        fun number (sooner : number < earlier) => allMoved (Nat.lt_trans sooner below)
      obtain ⟨jumper, isJumper, stepsBack⟩ := follows.consistent.stepsBack_follow
        follows.distinct (follows.reaches _ (reaches earlier)) (allMoved below)
      exact ⟨allMoved below, stepsBack.movesBack isJumper⟩

/-- A name that is defined by each of its three occurrences, the last of them at the caret. -/
def threeOccurrences : List Action :=
  [.notebookAdded "n" [] "any" 0,
   .cellAdded "n" 0 { id := "a", text := "x x".toList, contentType := "any" },
   .cellAdded "n" 1 { id := "b", text := ['x'], contentType := "any" },
   .activeCellChanged "n" 1]

theorem following_definitions_ends_at_first_of_three :
    let navigator := (fresh anyRule none {}).run threeOccurrences
    let ways : Nat → Way := fun _ => .command
    navigator.editorIds.Nodup ∧ navigator.Reaches (.notebook "n") .command ∧
      (navigator.follow (.notebook "n") .command).1 = true ∧
      MovesBack navigator (navigator.follow (.notebook "n") .command).2 (.notebook "n") ∧
      ((navigator.followed (.notebook "n") ways 1).follow (.notebook "n") .command).1 = true ∧
      ((navigator.followed (.notebook "n") ways 2).follow (.notebook "n") .command).1 = false ∧
      ∃ count ≤ 4,
        ((navigator.followed (.notebook "n") ways count).follow (.notebook "n") .command).1 =
          false := by
  intro navigator ways
  have distinct : navigator.editorIds.Nodup := by decide
  have reaches : navigator.Reaches (.notebook "n") .command := rfl
  have moved : (navigator.follow (.notebook "n") .command).1 = true := by decide
  obtain ⟨back, _, ends⟩ :=
    following_definitions_ends anyRule none {} threeOccurrences distinct (.notebook "n")
  obtain ⟨count, bound, _, unmoved⟩ := ends ways fun _ => reaches
  exact ⟨distinct, reaches, moved, back .command reaches moved, by decide, by decide, count, bound,
    unmoved⟩

end Navigator

end SymbolJump
