/-
What the operations of a navigator can do.

Moves keep to the surface they start from, pumping keeps the files under their
names, and a widget that is closed leaves the tables with the editors it owns.
-/

import SymbolJump.Proofs.Jumper.CellList
import SymbolJump.Proofs.Navigator.Runs

namespace SymbolJump

open Server Text

/-! ### Moves stay within their surface -/

namespace Jumper

/-- The outcome of a move that kept the surface of its jumper and touched no stack but that of
this surface. -/
structure Confined (jumper : Jumper) (history : History) (outcome : Bool × Jumper × History) :
    Prop where
  surface : outcome.2.1.surface = jumper.surface
  others : ∀ other, other ≠ jumper.surface → outcome.2.2.stack other = history.stack other

theorem confined_jumpToDefinition (jumper : Jumper) (history : History) (usage : Usage) :
    Confined jumper history (jumper.jumpToDefinition history usage) := by
  cases jumper with
  | file jumper =>
      cases found : jumper.definition? usage with
      | none =>
          simp only [jumpToDefinition, FileJumper.jumpToDefinition_of_none found]
          exact ⟨rfl, fun _ _ => rfl⟩
      | some token =>
          simp only [jumpToDefinition, FileJumper.jumpToDefinition_of_some found]
          exact ⟨rfl, fun other apart => History.stack_store_of_ne _ apart _⟩
  | notebook jumper =>
      cases found : jumper.definition? usage with
      | none =>
          simp only [jumpToDefinition, NotebookJumper.jumpToDefinition_of_none found]
          exact ⟨rfl, fun _ _ => rfl⟩
      | some place =>
          obtain ⟨owner, token⟩ := place
          obtain ⟨_, _, _, _, _, _, jumped⟩ := NotebookJumper.jumpToDefinition_of_some found history
          simp only [jumpToDefinition, jumped]
          exact ⟨rfl, fun other apart => History.stack_store_of_ne _ apart _⟩

theorem confined_jumpBack (jumper : Jumper) (history : History) :
    Confined jumper history (jumper.jumpBack history) := by
  cases jumper with
  | file jumper =>
      cases stacked : history.stack jumper.surface with
      | nil =>
          simp only [jumpBack, FileJumper.jumpBack_of_nil stacked]
          exact ⟨rfl, fun _ _ => rfl⟩
      | cons latest earlier =>
          simp only [jumpBack, FileJumper.jumpBack_of_cons stacked]
          exact ⟨rfl, fun other apart => History.stack_recollect_of_ne _ apart⟩
  | notebook jumper =>
      cases stacked : history.stack jumper.surface with
      | nil =>
          simp only [jumpBack, NotebookJumper.jumpBack_of_nil stacked]
          exact ⟨rfl, fun _ _ => rfl⟩
      | cons latest earlier =>
          simp only [jumpBack, NotebookJumper.jumpBack_of_cons stacked]
          exact ⟨NotebookJumper.jump_getD_surface _ _,
            fun other apart => History.stack_recollect_of_ne _ apart⟩

theorem surface_jump (jumper : Jumper) (destination : Destination) :
    (jumper.jump destination).2.surface = jumper.surface := by
  cases jumper with
  | file jumper => rfl
  | notebook jumper =>
      have kept := jumper.jump_getD_surface destination
      cases jumped : jumper.jump destination with
      | none => simp only [jump, jumped]
      | some arrived =>
          rw [jumped] at kept
          simp only [jump, jumped]
          exact kept

theorem surface_setCursor (jumper : Jumper) (cell : Nat) (position : Position) :
    (jumper.setCursor cell position).2.surface = jumper.surface := by
  cases jumper <;> rfl

theorem surface_setText (jumper : Jumper) (cell : Nat) (text : List Char) :
    (jumper.setText cell text).surface = jumper.surface := by
  cases jumper <;> rfl

end Jumper

theorem Hooks.confined_dispatch (hooks : Hooks) (trigger : Trigger) (editorId : String)
    (gesture : Gesture) (jumper : Jumper) (history : History) :
    jumper.Confined history (hooks.dispatch trigger editorId gesture jumper history) := by
  unfold dispatch
  split
  · unfold Hook.handle
    split
    · exact jumper.confined_jumpToDefinition history _
    · exact ⟨rfl, fun _ _ => rfl⟩
  · exact ⟨rfl, fun _ _ => rfl⟩

theorem Server.surface_handleLocations (documentUri : String) (jumper : Jumper) (host : Host)
    (locations : List Location) :
    (handleLocations documentUri jumper host locations).2.1.surface = jumper.surface := by
  unfold handleLocations follow
  dsimp only
  split
  · rfl
  · exact jumper.surface_jump _
  · rfl

theorem Server.surface_applyEvents (documentUri : String) (events : List Event) (jumper : Jumper)
    (host : Host) : (applyEvents documentUri events jumper host).1.surface = jumper.surface := by
  induction events generalizing jumper host with
  | nil => rfl
  | cons event rest ih =>
      cases event with
      | initialized capabilities => exact ih jumper host
      | closed => exact ih jumper host
      | goTo command locations =>
          exact (ih _ _).trans (surface_handleLocations documentUri jumper host locations)

/-! ### Sweeps -/

theorem Sweeps.isScheduled_of_due {sweeps : Sweeps} {now : Nat} {notebook : String}
    (isScheduled : (sweeps.due now).2.isScheduled notebook = true) :
    sweeps.isScheduled notebook = true := by
  obtain ⟨deadline, member⟩ := Keyed.contains_iff_mem.mp isScheduled
  exact Keyed.contains_iff_mem.mpr ⟨deadline, (List.mem_filter.mp member).1⟩

namespace Navigator

/-! ### Pumping -/

theorem surface_pumpFile (entry : OpenFile) (host : Host) :
    (pumpFile entry host).2.1.jumper.surface = entry.jumper.surface := by
  unfold pumpFile
  split
  · rfl
  · next bridge isBridge =>
      have kept := surface_applyEvents bridge.connection.addresses.documentUri
        bridge.connection.drain.1 (.file entry.jumper) host
      simp only [Server.pump]
      generalize (applyEvents bridge.connection.addresses.documentUri
        bridge.connection.drain.1 (.file entry.jumper) host).1 = jumper at kept
      -- A file stays a file; if it did not, the old jumper would be kept.
      cases jumper with
      | file jumper => exact kept
      | notebook jumper => rfl

theorem lookup_pumpFiles (entries : List (String × OpenFile)) (host : Host) (id : String) :
    ((pumpFiles entries host).2.1.lookup id).map (·.jumper.surface) =
      (entries.lookup id).map (·.jumper.surface) := by
  induction entries generalizing host with
  | nil => rfl
  | cons entry rest ih =>
      obtain ⟨key, file⟩ := entry
      simp only [pumpFiles, List.lookup_cons]
      cases id == key with
      | true => exact congrArg some (surface_pumpFile file host)
      | false => exact ih _

theorem keys_pumpFiles (entries : List (String × OpenFile)) (host : Host) :
    (pumpFiles entries host).2.1.map Prod.fst = entries.map Prod.fst := by
  induction entries generalizing host with
  | nil => rfl
  | cons entry rest ih => exact congrArg (List.cons entry.1) (ih _)

/-! ### Files that come -/

theorem retire_eq (navigator : Navigator) (entry : OpenFile) :
    navigator.retire entry =
      { navigator with retired := (navigator.retire entry).retired } := by
  unfold retire
  split <;> rfl

theorem connect_eq (navigator : Navigator) (jumper : FileJumper) :
    (navigator.connect jumper).2 =
      { navigator with connected := (navigator.connect jumper).2.connected } := by
  unfold connect
  dsimp only
  split <;> rfl

/-- A file that came is kept before its editor is hooked, as far as can be seen. -/
theorem fileAdded_eq (navigator : Navigator) (editor : Editor) (path : Path) :
    ∃ bridge connected retired, (navigator.fileAdded editor path).2 =
      ({ navigator with
        files := navigator.files.insert editor.id
          { jumper := .ofEditor navigator.registry editor path, bridge := bridge }
        currentFile := some editor.id
        connected := connected
        retired := retired }.hook editor.id (.file editor.id)).2 := by
  unfold Navigator.fileAdded
  dsimp only
  rw [connect_eq]
  split
  · rw [retire_eq]
    exact ⟨_, _, _, rfl⟩
  · exact ⟨_, _, _, rfl⟩

/-! ### Widgets that go -/

section

variable {navigator after : Navigator}

/-- A widget is taken out of all tables but those of hooks and histories. -/
structure Removed (navigator : Navigator) (surface : Surface) (after : Navigator) : Prop where
  hooks : after.hooks = navigator.hooks
  owners : after.owners = navigator.owners
  history : after.history = navigator.history
  others : ∀ other, other ≠ surface → after.jumper? other = navigator.jumper? other
  gone : after.jumper? surface = none
  distinct : navigator.files.Distinct → after.files.Distinct
  currentFile : ∀ id, after.currentFile = some id →
    navigator.currentFile = some id ∧ .file id ≠ surface
  currentNotebook : ∀ id, after.currentNotebook = some id →
    navigator.currentNotebook = some id ∧ .notebook id ≠ surface
  sweeps : ∀ id, after.sweeps.isScheduled id = true →
    navigator.sweeps.isScheduled id = true ∧ .notebook id ≠ surface

theorem current_of_cleared {current : Option String} {id other : String}
    (isCurrent : (if current = some id then none else current) = some other) :
    current = some other ∧ other ≠ id := by
  split at isCurrent
  · cases isCurrent
  · next apart =>
      refine ⟨isCurrent, ?_⟩
      rintro rfl
      exact apart isCurrent

theorem removed_of_removeWidget? {surface : Surface}
    (isAfter : navigator.removeWidget? surface = some after) : Removed navigator surface after := by
  cases surface with
  | file id =>
      obtain ⟨entry, _, rfl⟩ := Option.map_eq_some_iff.mp isAfter
      rw [retire_eq]
      refine
        { hooks := rfl
          owners := rfl
          history := rfl
          others := ?_
          gone := ?_
          distinct := fun distinct => distinct.erase id
          currentFile := ?_
          currentNotebook := fun other isCurrent => ⟨isCurrent, Surface.noConfusion⟩
          sweeps := fun other isScheduled => ⟨isScheduled, Surface.noConfusion⟩ }
      · intro other apart
        cases other with
        | notebook other => rfl
        | file other =>
            have different : other ≠ id := fun same => apart (congrArg Surface.file same)
            simp only [jumper?, Keyed.get?_erase_of_ne _ different]
      · simp only [jumper?, Keyed.get?_erase_self, Option.map_none]
      · intro other isCurrent
        obtain ⟨before, apart⟩ := current_of_cleared isCurrent
        exact ⟨before, fun same => apart (Surface.file.inj same)⟩
  | notebook id =>
      obtain ⟨jumper, _, rfl⟩ := Option.map_eq_some_iff.mp isAfter
      refine
        { hooks := rfl
          owners := rfl
          history := rfl
          others := ?_
          gone := ?_
          distinct := fun distinct => distinct
          currentFile := fun other isCurrent => ⟨isCurrent, Surface.noConfusion⟩
          currentNotebook := ?_
          sweeps := ?_ }
      · intro other apart
        cases other with
        | file other => rfl
        | notebook other =>
            have different : other ≠ id := fun same => apart (congrArg Surface.notebook same)
            simp only [jumper?, Keyed.get?_erase_of_ne _ different]
      · simp only [jumper?, Keyed.get?_erase_self, Option.map_none]
      · intro other isCurrent
        obtain ⟨before, apart⟩ := current_of_cleared isCurrent
        exact ⟨before, fun same => apart (Surface.notebook.inj same)⟩
      · intro other isScheduled
        change (navigator.sweeps.deadlines.erase id).contains other = true at isScheduled
        rw [Keyed.contains_erase, Bool.and_eq_true] at isScheduled
        refine ⟨isScheduled.2, ?_⟩
        intro same
        cases same
        simp at isScheduled

theorem foldl_unhook_eq (navigator : Navigator) (editorIds : List String) :
    editorIds.foldl unhook navigator =
      { navigator with
        hooks := ⟨editorIds.foldl Keyed.erase navigator.hooks.table⟩
        owners := editorIds.foldl Keyed.erase navigator.owners } := by
  induction editorIds generalizing navigator with
  | nil => rfl
  | cons editorId rest ih => exact ih (navigator.unhook editorId)

def owned (navigator : Navigator) (owner : Surface) : List String :=
  (navigator.owners.entries.filter fun entry => entry.2 = owner).map Prod.fst

theorem mem_owned {owner : Surface} {editorId : String}
    (isOwner : navigator.owners.get? editorId = some owner) : editorId ∈ navigator.owned owner := by
  refine List.mem_map.mpr ⟨(editorId, owner), List.mem_filter.mpr ⟨?_, ?_⟩, rfl⟩
  · exact Keyed.mem_entries_of_get? isOwner
  · exact decide_eq_true rfl

theorem unhookOwned_eq (navigator : Navigator) (owner : Surface) :
    navigator.unhookOwned owner =
      { navigator with
        hooks := ⟨(navigator.owned owner).foldl Keyed.erase navigator.hooks.table⟩
        owners := (navigator.owned owner).foldl Keyed.erase navigator.owners } :=
  foldl_unhook_eq navigator (navigator.owned owner)

end

end Navigator

end SymbolJump
