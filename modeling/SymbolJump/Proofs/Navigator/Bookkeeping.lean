/-
The books of a navigator stay consistent.

What is kept for the widgets lies in several tables: hooks, owners, sweeps,
histories, the current widgets. They are changed one by one, and still nothing
in them ever speaks of a widget that is not open. Apart from hooking, unhooking
and closing, every operation only lets widgets come: what was open stays open
under its own name, and whatever is newly noted belongs to an open widget.
Closing takes a widget out of all tables at once, which is why editors are
noted with their owners.
-/

import SymbolJump.Proofs.Navigator.Effects

namespace SymbolJump

open Server Text

/-! ### Hooks and owners -/

namespace Hooks

/-- Hooked are exactly the editors that have an owner, each by a hook of its own name. -/
structure Match (hooks : Hooks) (owners : Keyed String Surface) : Prop where
  registered : ∀ id, hooks.isRegistered id = owners.contains id
  named : ∀ id hook, hooks.table.get? id = some hook → hook.editorId = id

variable {hooks : Hooks} {owners : Keyed String Surface}

theorem Match.register (matched : hooks.Match owners) (editorId : String) (owner : Surface) :
    (hooks.register editorId).2.Match (owners.insert editorId owner) := by
  unfold Hooks.register
  split
  · next known =>
      refine ⟨fun id => ?_, matched.named⟩
      rw [Keyed.contains_insert, ← matched.registered]
      by_cases same : id = editorId
      · rw [same, known, Bool.or_true]
      · rw [decide_eq_false same, Bool.false_or]
  · constructor
    · intro id
      have known := matched.registered id
      unfold isRegistered at known ⊢
      rw [Keyed.contains_insert, Keyed.contains_insert, known]
    · intro id hook found
      rw [Keyed.get?_insert] at found
      split at found
      · next same =>
          cases found
          exact same.symm
      · exact matched.named id hook found

theorem Match.erase (matched : hooks.Match owners) (editorId : String) :
    Match ⟨hooks.table.erase editorId⟩ (owners.erase editorId) := by
  constructor
  · intro id
    have known := matched.registered id
    unfold isRegistered at known ⊢
    rw [Keyed.contains_erase, Keyed.contains_erase, known]
  · intro id hook found
    rw [Keyed.get?_erase] at found
    split at found
    · cases found
    · exact matched.named id hook found

theorem Match.foldl_erase (matched : hooks.Match owners) (editorIds : List String) :
    Match ⟨editorIds.foldl Keyed.erase hooks.table⟩ (editorIds.foldl Keyed.erase owners) := by
  induction editorIds generalizing hooks owners with
  | nil => exact matched
  | cons editorId rest ih => exact ih (matched.erase editorId)

end Hooks

/-! ### Open widgets -/

namespace Navigator

theorem isOpen_eq (navigator : Navigator) (surface : Surface) :
    navigator.isOpen surface = (navigator.jumper? surface).isSome := by
  cases surface <;> simp [isOpen, jumper?, Keyed.contains]

/-- The surface of the jumper kept for a widget. -/
def identity? (navigator : Navigator) (surface : Surface) : Option Surface :=
  (navigator.jumper? surface).map Jumper.surface

theorem isSome_identity? (navigator : Navigator) (surface : Surface) :
    (navigator.identity? surface).isSome = navigator.isOpen surface := by
  rw [isOpen_eq]
  exact Option.isSome_map

/-- Nothing in the tables speaks of a widget that is not open, and jumpers are kept under their
own names, each name once among the files and each editor once among those that have an
owner. -/
structure Consistent (navigator : Navigator) : Prop where
  hooks : navigator.hooks.Match navigator.owners
  ownerOpen : ∀ id owner, navigator.owners.get? id = some owner → navigator.isOpen owner = true
  fileOpen : ∀ id, navigator.currentFile = some id → navigator.isOpen (.file id) = true
  notebookOpen : ∀ id, navigator.currentNotebook = some id →
    navigator.isOpen (.notebook id) = true
  sweepOpen : ∀ id, navigator.sweeps.isScheduled id = true → navigator.isOpen (.notebook id) = true
  jumperNamed : ∀ surface jumper, navigator.jumper? surface = some jumper →
    jumper.surface = surface
  stackOpen : ∀ surface, navigator.history.stack surface ≠ [] → navigator.isOpen surface = true
  filesDistinct : navigator.files.Distinct
  ownersDistinct : navigator.owners.Distinct

theorem Consistent.identity_eq {navigator : Navigator} (consistent : navigator.Consistent)
    {surface found : Surface} (isFound : navigator.identity? surface = some found) :
    found = surface := by
  obtain ⟨jumper, isJumper, rfl⟩ := Option.map_eq_some_iff.mp isFound
  exact consistent.jumperNamed surface jumper isJumper

/-! ### Widgets that come -/

/-- The hooks and owners are the same, what was open is open under the same name, and all that
is newly noted belongs to an open widget. -/
structure Grown (navigator after : Navigator) : Prop where
  hooks : after.hooks = navigator.hooks
  owners : after.owners = navigator.owners
  distinct : navigator.files.Distinct → after.files.Distinct
  identities : ∀ surface, after.identity? surface = navigator.identity? surface ∨
    after.identity? surface = some surface
  currentFile : ∀ id, after.currentFile = some id →
    navigator.currentFile = some id ∨ after.isOpen (.file id) = true
  currentNotebook : ∀ id, after.currentNotebook = some id →
    navigator.currentNotebook = some id ∨ after.isOpen (.notebook id) = true
  sweeps : ∀ id, after.sweeps.isScheduled id = true →
    navigator.sweeps.isScheduled id = true ∨ after.isOpen (.notebook id) = true
  histories : ∀ surface, after.history.stack surface ≠ [] →
    navigator.history.stack surface ≠ [] ∨ after.isOpen surface = true

section

variable {navigator after : Navigator}

theorem Grown.isOpen (grown : Grown navigator after) {surface : Surface}
    (isOpen : navigator.isOpen surface = true) : after.isOpen surface = true := by
  rw [← isSome_identity?] at isOpen ⊢
  rcases grown.identities surface with same | named
  · rw [same]
    exact isOpen
  · rw [named]
    rfl

theorem Consistent.grown (consistent : navigator.Consistent) (grown : Grown navigator after) :
    after.Consistent where
  hooks := by
    rw [grown.hooks, grown.owners]
    exact consistent.hooks
  ownerOpen := by
    rw [grown.owners]
    intro id owner isOwner
    exact grown.isOpen (consistent.ownerOpen id owner isOwner)
  fileOpen := by
    intro id isCurrent
    exact (grown.currentFile id isCurrent).elim
      (fun before => grown.isOpen (consistent.fileOpen id before)) (fun isOpen => isOpen)
  notebookOpen := by
    intro id isCurrent
    exact (grown.currentNotebook id isCurrent).elim
      (fun before => grown.isOpen (consistent.notebookOpen id before)) (fun isOpen => isOpen)
  sweepOpen := by
    intro id isScheduled
    exact (grown.sweeps id isScheduled).elim
      (fun before => grown.isOpen (consistent.sweepOpen id before)) (fun isOpen => isOpen)
  jumperNamed := by
    intro surface jumper isJumper
    have isFound : after.identity? surface = some jumper.surface := by
      unfold identity?
      rw [isJumper]
      rfl
    rcases grown.identities surface with same | named
    · exact consistent.identity_eq (same.symm.trans isFound)
    · exact Option.some.inj (isFound.symm.trans named)
  stackOpen := by
    intro surface stacked
    exact (grown.histories surface stacked).elim
      (fun before => grown.isOpen (consistent.stackOpen surface before)) (fun isOpen => isOpen)
  filesDistinct := grown.distinct consistent.filesDistinct
  ownersDistinct := by
    rw [grown.owners]
    exact consistent.ownersDistinct

/-- A change of widgets and servers alone. -/
theorem grown_of_identities {registry : Definition.Registry} {connector : Option Connector}
    {host : Host} {files : Keyed String OpenFile} {notebooks : Keyed String NotebookJumper}
    {connected : Nat} {retired : List NumberedConnection}
    (isAfter : after =
      { navigator with
        registry := registry
        connector := connector
        host := host
        files := files
        notebooks := notebooks
        connected := connected
        retired := retired })
    (distinct : navigator.files.Distinct → after.files.Distinct)
    (identities : ∀ surface, after.identity? surface = navigator.identity? surface ∨
      after.identity? surface = some surface) : Grown navigator after := by
  subst isAfter
  exact ⟨rfl, rfl, distinct, identities, fun _ => .inl, fun _ => .inl, fun _ => .inl, fun _ => .inl⟩

theorem Grown.refl (navigator : Navigator) : Grown navigator navigator :=
  grown_of_identities rfl (fun distinct => distinct) fun _ => .inl rfl

theorem grown_insertFile {id : String} {entry : OpenFile}
    (named : entry.jumper.surface = .file id) :
    Grown navigator { navigator with files := navigator.files.insert id entry } := by
  refine grown_of_identities rfl (fun distinct => distinct.insert id entry) ?_
  intro surface
  cases surface with
  | notebook other => exact .inl rfl
  | file other =>
      simp only [identity?, jumper?, Keyed.get?_insert]
      by_cases same : other = id
      · rw [if_pos same, same]
        exact .inr (congrArg some named)
      · rw [if_neg same]
        exact .inl rfl

theorem grown_insertNotebook {id : String} {jumper : NotebookJumper}
    (named : jumper.surface = .notebook id) :
    Grown navigator { navigator with notebooks := navigator.notebooks.insert id jumper } := by
  refine grown_of_identities rfl (fun distinct => distinct) ?_
  intro surface
  cases surface with
  | file other => exact .inl rfl
  | notebook other =>
      simp only [identity?, jumper?, Keyed.get?_insert]
      by_cases same : other = id
      · rw [if_pos same, same]
        exact .inr (congrArg some named)
      · rw [if_neg same]
        exact .inl rfl

theorem grown_setJumper {surface : Surface} {jumper : Jumper} (named : jumper.surface = surface) :
    Grown navigator (navigator.setJumper surface jumper) := by
  unfold setJumper
  split
  · split
    · exact grown_insertFile named
    · exact .refl navigator
  · split
    · exact grown_insertNotebook named
    · exact .refl navigator
  · exact .refl navigator

theorem Grown.setHistory (grown : Grown navigator after) {history : History}
    (histories : ∀ surface, history.stack surface ≠ [] →
      navigator.history.stack surface ≠ [] ∨ after.isOpen surface = true) :
    Grown navigator { after with history := history } :=
  { grown with histories := histories }

/-! ### Hooking -/

theorem Consistent.hook (consistent : navigator.Consistent) (owner : Surface)
    (isOpen : navigator.isOpen owner = true) (editorId : String) :
    (navigator.hook editorId owner).2.Consistent := by
  refine
    { consistent with
      hooks := consistent.hooks.register editorId owner
      ownerOpen := ?_
      ownersDistinct := consistent.ownersDistinct.insert editorId owner }
  intro id other isOwner
  change (navigator.owners.insert editorId owner).get? id = some other at isOwner
  rw [Keyed.get?_insert] at isOwner
  split at isOwner
  · cases isOwner
    exact isOpen
  · exact consistent.ownerOpen id other isOwner

theorem Consistent.unhook (consistent : navigator.Consistent) (editorId : String) :
    (navigator.unhook editorId).Consistent := by
  refine
    { consistent with
      hooks := consistent.hooks.erase editorId
      ownerOpen := ?_
      ownersDistinct := consistent.ownersDistinct.erase editorId }
  intro id owner isOwner
  change (navigator.owners.erase editorId).get? id = some owner at isOwner
  rw [Keyed.get?_erase] at isOwner
  split at isOwner
  · cases isOwner
  · exact consistent.ownerOpen id owner isOwner

theorem isOpen_of_notebook {id : String} {jumper : NotebookJumper}
    (isJumper : navigator.notebooks.get? id = some jumper) :
    navigator.isOpen (.notebook id) = true :=
  Option.isSome_iff_exists.mpr ⟨jumper, isJumper⟩

theorem Consistent.hookAll (consistent : navigator.Consistent) {owner : Surface}
    (isOpen : navigator.isOpen owner = true) (editorIds : List String) :
    (navigator.hookAll owner editorIds).2.Consistent := by
  induction editorIds generalizing navigator with
  | nil => exact consistent
  | cons editorId rest ih => exact ih (consistent.hook owner isOpen editorId) isOpen

theorem Consistent.sweep (consistent : navigator.Consistent) (notebooks : List String) :
    (navigator.sweep notebooks).2.Consistent := by
  induction notebooks generalizing navigator with
  | nil => exact consistent
  | cons notebook rest ih =>
      unfold Navigator.sweep
      split
      · exact ih consistent
      · next jumper isJumper =>
          exact ih (consistent.hookAll (isOpen_of_notebook isJumper) _)

/-! ### Closing -/

theorem Consistent.closed (consistent : navigator.Consistent) (surface : Surface) :
    (navigator.closed surface).2.Consistent := by
  unfold Navigator.closed
  split
  · next jumper removed isJumper isRemoved =>
      have taken := removed_of_removeWidget? isRemoved
      have named := consistent.jumperNamed surface jumper isJumper
      have othersOpen {other : Surface} (apart : other ≠ surface) :
          removed.isOpen other = navigator.isOpen other := by
        rw [isOpen_eq, isOpen_eq, taken.others other apart]
      dsimp only
      rw [unhookOwned_eq, named]
      constructor
      · change Hooks.Match ⟨List.foldl Keyed.erase removed.hooks.table _⟩
          (List.foldl Keyed.erase removed.owners _)
        rw [taken.hooks, taken.owners]
        exact consistent.hooks.foldl_erase _
      · intro id owner isOwner
        change (List.foldl Keyed.erase removed.owners _).get? id = some owner at isOwner
        rw [Keyed.get?_foldl_erase] at isOwner
        split at isOwner
        · cases isOwner
        · next notOwned =>
            -- An editor that still has an owner was none of the widget's own.
            have apart : owner ≠ surface := by
              rintro rfl
              exact notOwned (mem_owned isOwner)
            rw [taken.owners] at isOwner
            exact (othersOpen apart).trans (consistent.ownerOpen id owner isOwner)
      · intro id isCurrent
        obtain ⟨before, apart⟩ := taken.currentFile id isCurrent
        exact (othersOpen apart).trans (consistent.fileOpen id before)
      · intro id isCurrent
        obtain ⟨before, apart⟩ := taken.currentNotebook id isCurrent
        exact (othersOpen apart).trans (consistent.notebookOpen id before)
      · intro id isScheduled
        obtain ⟨before, apart⟩ := taken.sweeps id isScheduled
        exact (othersOpen apart).trans (consistent.sweepOpen id before)
      · intro other jumper isJumper
        change removed.jumper? other = some jumper at isJumper
        by_cases same : other = surface
        · rw [same, taken.gone] at isJumper
          cases isJumper
        · rw [taken.others other same] at isJumper
          exact consistent.jumperNamed other jumper isJumper
      · intro other stacked
        change (removed.history.forget surface).2.stack other ≠ [] at stacked
        have apart : other ≠ surface := by
          rintro rfl
          exact stacked (History.stack_forget_self _ _)
        rw [History.stack_forget_of_ne _ apart, taken.history] at stacked
        exact (othersOpen apart).trans (consistent.stackOpen other stacked)
      · exact taken.distinct consistent.filesDistinct
      · change (List.foldl Keyed.erase removed.owners _).Distinct
        rw [taken.owners]
        exact consistent.ownersDistinct.foldl_erase _
  · exact consistent

/-! ### The operations -/

theorem Consistent.fileNamed (consistent : navigator.Consistent) {id : String} {entry : OpenFile}
    (isEntry : navigator.files.get? id = some entry) : entry.jumper.surface = .file id := by
  refine consistent.jumperNamed (.file id) (.file entry.jumper) ?_
  simp only [jumper?, isEntry, Option.map_some]

theorem Consistent.notebookNamed (consistent : navigator.Consistent) {id : String}
    {jumper : NotebookJumper} (isJumper : navigator.notebooks.get? id = some jumper) :
    jumper.surface = .notebook id := by
  refine consistent.jumperNamed (.notebook id) (.notebook jumper) ?_
  simp only [jumper?, isJumper, Option.map_some]

theorem Consistent.fileAdded (consistent : navigator.Consistent) (editor : Editor) (path : Path) :
    (navigator.fileAdded editor path).2.Consistent := by
  obtain ⟨bridge, connected, retired, isAfter⟩ := navigator.fileAdded_eq editor path
  rw [isAfter]
  have grown := @grown_insertFile navigator editor.id
    { jumper := .ofEditor navigator.registry editor path, bridge := bridge } rfl
  have isOpen : (navigator.files.insert editor.id
      { jumper := .ofEditor navigator.registry editor path, bridge := bridge }).contains
        editor.id = true := by
    rw [Keyed.contains_insert, decide_eq_true rfl, Bool.true_or]
  refine Consistent.hook ?_ (.file editor.id) ?_ editor.id
  · refine consistent.grown { grown with currentFile := ?_ }
    intro id isCurrent
    cases isCurrent
    exact .inr isOpen
  · exact isOpen

theorem Consistent.typeChanged (consistent : navigator.Consistent)
    (editorId contentType : String) :
    (navigator.typeChanged editorId contentType).2.Consistent := by
  unfold Navigator.typeChanged
  split
  · next entry isEntry =>
      have named : (Jumper.file (entry.jumper.changeType contentType)).surface = .file editorId :=
        consistent.fileNamed isEntry
      exact consistent.grown (grown_setJumper named)
  · exact consistent

theorem Consistent.notebookAdded (consistent : navigator.Consistent) (id : String) (path : Path)
    (language : String) (now : Nat) :
    (navigator.notebookAdded id path language now).2.Consistent := by
  have grown := @grown_insertNotebook navigator id
    { id := id, path := path, language := language, registry := navigator.registry } rfl
  have isOpen : (navigator.notebooks.insert id
      { id := id, path := path, language := language, registry := navigator.registry }).contains
        id = true := by
    rw [Keyed.contains_insert, decide_eq_true rfl, Bool.true_or]
  refine consistent.grown { grown with currentNotebook := ?_, sweeps := ?_ }
  · intro other isCurrent
    cases isCurrent
    exact .inr isOpen
  · intro other isScheduled
    change (navigator.sweeps.schedule id now).2.isScheduled other = true at isScheduled
    unfold Sweeps.schedule at isScheduled
    split at isScheduled
    · exact .inl isScheduled
    · change (navigator.sweeps.deadlines.insert id _).contains other = true at isScheduled
      rw [Keyed.contains_insert, Bool.or_eq_true] at isScheduled
      rcases isScheduled with isNew | before
      · rw [of_decide_eq_true isNew]
        exact .inr isOpen
      · exact .inl before

theorem Consistent.cellAdded (consistent : navigator.Consistent) {notebook : String} {index : Nat}
    {cell : Editor} {place : Nat}
    (added : navigator.cellAdded notebook index cell = some (place, after)) :
    after.Consistent := by
  obtain ⟨jumper, isJumper, isAfter⟩ := Option.map_eq_some_iff.mp added
  cases isAfter
  have named := consistent.notebookNamed isJumper
  exact consistent.grown (grown_insertNotebook named)

theorem Consistent.cellRemoved (consistent : navigator.Consistent) (notebook : String)
    (index : Nat) : (navigator.cellRemoved notebook index).2.Consistent := by
  unfold Navigator.cellRemoved
  split
  · next removed left isRemoved =>
      obtain ⟨jumper, isJumper, isLeft⟩ := Option.bind_eq_some_iff.mp isRemoved
      have kept := jumper.removeCell_getD_surface index
      rw [isLeft] at kept
      have named := kept.trans (consistent.notebookNamed isJumper)
      exact (consistent.grown (grown_insertNotebook named)).unhook removed.id
  · exact consistent

theorem Consistent.activeCellChanged (consistent : navigator.Consistent) (notebook : String)
    (index : Nat) : (navigator.activeCellChanged notebook index).2.Consistent := by
  unfold Navigator.activeCellChanged
  split
  · next changed isChanged =>
      obtain ⟨jumper, isJumper, isSet⟩ := Option.bind_eq_some_iff.mp isChanged
      have kept := jumper.setActive_getD_surface index
      rw [isSet] at kept
      have named := kept.trans (consistent.notebookNamed isJumper)
      have grown := @grown_insertNotebook navigator _ _ named
      have isOpen := grown.isOpen (isOpen_of_notebook isJumper)
      dsimp only
      split
      · exact (consistent.grown grown).hook _ isOpen _
      · exact consistent.grown grown
  · exact consistent

theorem Consistent.tick (consistent : navigator.Consistent) (now : Nat) :
    (navigator.tick now).2.Consistent := by
  refine Consistent.sweep ?_ _
  refine consistent.grown { Grown.refl navigator with sweeps := ?_ }
  intro id isScheduled
  exact .inl (Sweeps.isScheduled_of_due isScheduled)

theorem Consistent.focusChanged (consistent : navigator.Consistent) (surface : Surface) :
    (navigator.focusChanged surface).Consistent := by
  unfold Navigator.focusChanged
  split
  · next isOpen =>
      cases surface with
      | file id =>
          refine consistent.grown { Grown.refl navigator with currentFile := ?_ }
          intro other isCurrent
          cases isCurrent
          exact .inr isOpen
      | notebook id =>
          refine consistent.grown { Grown.refl navigator with currentNotebook := ?_ }
          intro other isCurrent
          cases isCurrent
          exact .inr isOpen
  · exact consistent

theorem Consistent.withJumper {move : Jumper → History → Bool × Jumper × History}
    (consistent : navigator.Consistent)
    (confined : ∀ (jumper : Jumper) (history : History),
      jumper.Confined history (move jumper history))
    {surface : Surface} {moved : Bool}
    (isMoved : navigator.withJumper? surface move = some (moved, after)) : after.Consistent := by
  obtain ⟨jumper, isJumper, isAfter⟩ := Option.map_eq_some_iff.mp isMoved
  cases isAfter
  have named := consistent.jumperNamed surface jumper isJumper
  have within := confined jumper navigator.history
  have grown := @grown_setJumper navigator surface _ (within.surface.trans named)
  refine consistent.grown (grown.setHistory ?_)
  intro other stacked
  by_cases same : other = surface
  · have isOpen : navigator.isOpen surface = true := by
      rw [isOpen_eq, isJumper]
      rfl
    rw [same]
    exact .inr (grown.isOpen isOpen)
  · rw [within.others other (named ▸ same)] at stacked
    exact .inl stacked

theorem Consistent.gesture (consistent : navigator.Consistent) (trigger : Trigger)
    (editorId : String) (gesture : Gesture) :
    (navigator.gesture trigger editorId gesture).2.Consistent := by
  unfold Navigator.gesture
  split
  · exact consistent
  · next owner isOwner =>
      refine getD_snd_preserves consistent ?_
      intro moved after isMoved
      exact consistent.withJumper (navigator.hooks.confined_dispatch trigger editorId gesture)
        isMoved

theorem Consistent.execute (consistent : navigator.Consistent) (command : JumpCommand) :
    (navigator.execute command).2.Consistent := by
  refine getD_snd_preserves consistent ?_
  intro moved after isMoved
  obtain ⟨surface, _, isMoved⟩ := Option.bind_eq_some_iff.mp isMoved
  refine consistent.withJumper ?_ isMoved
  intro jumper history
  split
  · exact jumper.confined_jumpBack history
  · split
    · exact jumper.confined_jumpToDefinition history _
    · exact ⟨rfl, fun _ _ => rfl⟩

theorem Consistent.jumpOutside (consistent : navigator.Consistent) {surface : Surface}
    {target : OutsideTarget} {linked shown : Bool}
    (asked : navigator.jumpOutside? surface target linked = some (shown, after)) :
    after.Consistent := by
  unfold jumpOutside? at asked
  split at asked
  · cases asked
    exact { consistent with }
  · cases asked

theorem Consistent.ask (consistent : navigator.Consistent) (command : Command) (point : Point) :
    (navigator.ask command point).2.Consistent := by
  refine getD_snd_preserves consistent ?_
  intro answered after asked
  obtain ⟨id, _, asked⟩ := Option.bind_eq_some_iff.mp asked
  obtain ⟨entry, isEntry, asked⟩ := Option.bind_eq_some_iff.mp asked
  obtain ⟨bridge, _, asked⟩ := Option.bind_eq_some_iff.mp asked
  obtain ⟨position, _, asked⟩ := Option.bind_eq_some_iff.mp asked
  have named := consistent.fileNamed isEntry
  cases asked
  exact consistent.grown (grown_insertFile named)

theorem Consistent.pump (consistent : navigator.Consistent) : navigator.pump.2.Consistent := by
  have sameKeys := keys_pumpFiles navigator.files.entries navigator.host
  refine consistent.grown (grown_of_identities rfl (fun distinct => ?_) ?_)
  · change ((pumpFiles _ _).2.1.map Prod.fst).Nodup
    rw [sameKeys]
    exact distinct
  · intro surface
    refine .inl ?_
    cases surface with
    | notebook id => rfl
    | file id =>
        have kept := lookup_pumpFiles navigator.files.entries navigator.host id
        simp only [identity?, jumper?, Option.map_map]
        exact kept

theorem Consistent.serve (consistent : navigator.Consistent) {number : Nat}
    {act : Connection → Unit × Connection} {answer : Unit}
    (served : navigator.withServer? number act = some (answer, after)) : after.Consistent := by
  unfold withServer? at served
  dsimp only at served
  split at served
  · next id entry isEntry =>
      -- The file is found by its connection; its name leads to the same entry.
      have member := List.mem_of_find?_eq_some isEntry
      have named := consistent.fileNamed (consistent.filesDistinct.get?_of_mem member)
      obtain ⟨bridge, _, served⟩ := Option.map_eq_some_iff.mp served
      cases served
      exact consistent.grown (grown_insertFile named)
  · obtain ⟨bridge, _, served⟩ := Option.map_eq_some_iff.mp served
    cases served
    exact { consistent with }

/-! ### Runs -/

theorem consistent_act (navigator : Navigator) (action : Action)
    (consistent : navigator.Consistent) : (navigator.act action).Consistent := by
  cases action with
  | setRegistry registry => exact { consistent with }
  | setConnector connector => exact { consistent with }
  | fileAdded editor path => exact consistent.fileAdded editor path
  | notebookAdded id path language now => exact consistent.notebookAdded id path language now
  | cellAdded notebook index cell => exact getD_preserves consistent fun _ _ => consistent.cellAdded
  | cellRemoved notebook index => exact consistent.cellRemoved notebook index
  | activeCellChanged notebook index => exact consistent.activeCellChanged notebook index
  | tick now => exact consistent.tick now
  | typeChanged editorId contentType => exact consistent.typeChanged editorId contentType
  | focusChanged surface => exact consistent.focusChanged surface
  | closed surface => exact consistent.closed surface
  | gesture trigger editorId gesture => exact consistent.gesture trigger editorId gesture
  | execute command => exact consistent.execute command
  | jump surface destination =>
      refine getD_preserves consistent fun _ _ => consistent.withJumper ?_
      exact fun jumper history => ⟨jumper.surface_jump destination, fun _ _ => rfl⟩
  | jumpOutside surface target linked => exact getD_preserves consistent fun _ _ => consistent.jumpOutside
  | ask command point => exact consistent.ask command point
  | pump => exact consistent.pump
  | setCursor surface cell position =>
      refine getD_preserves consistent fun _ _ => consistent.withJumper ?_
      exact fun jumper history => ⟨jumper.surface_setCursor cell position, fun _ _ => rfl⟩
  | setText surface cell text =>
      refine getD_preserves consistent fun _ _ => consistent.withJumper ?_
      exact fun jumper history => ⟨jumper.surface_setText cell text, fun _ _ => rfl⟩
  | serve number action => exact getD_preserves consistent fun _ _ => consistent.serve

theorem consistent_fresh (registry : Definition.Registry) (connector : Option Connector)
    (host : Host) : (fresh registry connector host).Consistent where
  hooks := ⟨fun _ => rfl, fun _ _ found => (by cases found)⟩
  ownerOpen := fun _ _ found => (by cases found)
  fileOpen := fun _ isCurrent => (by cases isCurrent)
  notebookOpen := fun _ isCurrent => (by cases isCurrent)
  sweepOpen := fun _ isScheduled => (by cases isScheduled)
  jumperNamed := fun surface _ isJumper => (by cases surface <;> cases isJumper)
  stackOpen := fun _ stacked => absurd rfl stacked
  filesDistinct := .nil
  ownersDistinct := .nil

end

theorem consistent_run (registry : Definition.Registry) (connector : Option Connector)
    (host : Host) (actions : List Action) :
    ((fresh registry connector host).run actions).Consistent :=
  run_preserves consistent_act (consistent_fresh registry connector host) actions

/-- Whatever is done to a navigator that knew no widget, its tables fit together: hooked are
exactly the editors that have an owner, the owners are open, hooks and jumpers are kept under
their own names, and the current widgets, the scheduled sweeps and the histories with something
to return to are those of open widgets. -/
theorem tables_know_only_open_widgets (registry : Definition.Registry)
    (connector : Option Connector) (host : Host) (actions : List Action) :
    let navigator := (fresh registry connector host).run actions
    (∀ id, navigator.hooks.isRegistered id = navigator.owners.contains id) ∧
      (∀ id owner, navigator.owners.get? id = some owner → navigator.isOpen owner = true) ∧
      (∀ id hook, navigator.hooks.table.get? id = some hook → hook.editorId = id) ∧
      (∀ id, navigator.currentFile = some id → navigator.isOpen (.file id) = true) ∧
      (∀ id, navigator.currentNotebook = some id → navigator.isOpen (.notebook id) = true) ∧
      (∀ id, navigator.sweeps.isScheduled id = true → navigator.isOpen (.notebook id) = true) ∧
      (∀ surface jumper, navigator.jumper? surface = some jumper → jumper.surface = surface) ∧
      (∀ surface, navigator.history.stack surface ≠ [] → navigator.isOpen surface = true) := by
  intro navigator
  have consistent : navigator.Consistent := consistent_run registry connector host actions
  exact ⟨consistent.hooks.registered, consistent.ownerOpen, consistent.hooks.named,
    consistent.fileOpen, consistent.notebookOpen, consistent.sweepOpen, consistent.jumperNamed,
    consistent.stackOpen⟩

end Navigator

end SymbolJump
