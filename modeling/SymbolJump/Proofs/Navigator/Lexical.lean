/-
Navigation by name does not need servers.

Cutting a navigator off from its servers drops the connections and leaves all
else. Every operation does the same to a navigator and to one that was cut off,
and gives the same answer, with the exception of those that put questions to
servers and follow their answers; and these change nothing but connections as
long as no answer names a place. Hence it cannot be told from the rest whether
there is no way to reach servers, none is ever reached, or none knows anything.
-/

import SymbolJump.Proofs.Navigator.Pumping
import SymbolJump.Proofs.Navigator.Sweeping

namespace SymbolJump

open Server Text

/-! ### Answers without places -/

namespace Server.Connection

/-- Whether a message answers an open question with a place. -/
def tellsPlace (connection : Connection) : Message → Bool
  | .response id result none =>
      match id.number?.bind connection.pending.get?, Location.decodeAll result with
      | some (.question _), .ok (_ :: _) => true
      | _, _ => false
  | _ => false

/-- No message in the queue answers a question with a place. -/
def isReticent (connection : Connection) : Bool :=
  connection.link.inbox.all fun message => !connection.tellsPlace message

theorem tellsPlace_iff {connection : Connection} {message : Message} :
    connection.tellsPlace message = true ↔
      ∃ id result number command first others, message = .response id result none ∧
        id.number? = some number ∧ connection.pending.get? number = some (.question command) ∧
        Location.decodeAll result = .ok (first :: others) := by
  constructor
  · intro tells
    unfold tellsPlace at tells
    split at tells
    · next id result =>
        split at tells
        · next command first others awaited decoded =>
            obtain ⟨number, isNumber, isAwaited⟩ := Option.bind_eq_some_iff.mp awaited
            exact ⟨id, result, number, command, first, others, rfl, isNumber, isAwaited, decoded⟩
        · cases tells
    · cases tells
  · rintro ⟨id, result, number, command, first, others, rfl, isNumber, awaited, decoded⟩
    simp only [tellsPlace, isNumber, Option.bind_some, awaited, decoded]

/-- Taking a message opens no question. -/
theorem Taken.tellsPlace {connection after : Connection} {message : Message}
    {event : Option Event} (taken : Taken connection message event after) {other : Message}
    (tells : after.tellsPlace other = true) : connection.tellsPlace other = true := by
  obtain ⟨id, result, number, command, first, others, isOther, isNumber, awaited, decoded⟩ :=
    tellsPlace_iff.mp tells
  refine tellsPlace_iff.mpr
    ⟨id, result, number, command, first, others, isOther, isNumber, ?_, decoded⟩
  have settled {ended : Nat} (isLeft : (connection.pending.erase ended).get? number =
      some (.question command)) : connection.pending.get? number = some (.question command) := by
    rw [Keyed.get?_erase] at isLeft
    split at isLeft
    · cases isLeft
    · exact isLeft
  cases taken with
  | ignored => exact awaited
  | replied => exact awaited
  | silenced => exact settled awaited
  | greeted => exact settled awaited
  | answered => exact settled awaited

theorem Taken.target? {connection after : Connection} {message : Message} {event : Event}
    (taken : Taken connection message (some event) after)
    (reticent : connection.tellsPlace message = false) : event.target? = none := by
  cases taken with
  | greeted => rfl
  | @answered id result number command locations isNumber awaited decoded nonempty =>
      obtain ⟨first, others, rfl⟩ := List.exists_cons_of_ne_nil nonempty
      have tells := tellsPlace_iff.mpr
        ⟨id, result, number, command, first, others, rfl, isNumber, awaited, decoded⟩
      rw [reticent] at tells
      cases tells

theorem absorb_of_reticent {connection : Connection} {messages : List Message}
    (reticent : ∀ message ∈ messages, connection.tellsPlace message = false) :
    (connection.absorb messages).1.filterMap Event.target? = [] := by
  induction messages generalizing connection with
  | nil => rfl
  | cons message rest ih =>
      have taken := connection.taken message
      unfold absorb
      dsimp only
      rw [List.filterMap_append]
      have first : (connection.take message).1.toList.filterMap Event.target? = [] := by
        cases made : (connection.take message).1 with
        | none => rfl
        | some event =>
            rw [made] at taken
            have unled := taken.target? (reticent message List.mem_cons_self)
            exact List.filterMap_cons_none unled
      have later : ((connection.take message).2.absorb rest).1.filterMap Event.target? = [] := by
        refine ih fun other isLater => ?_
        rw [Bool.eq_false_iff]
        intro tells
        have before := taken.tellsPlace tells
        rw [reticent other (List.mem_cons_of_mem _ isLater)] at before
        cases before
      rw [first, later]
      rfl

theorem targets_of_reticent {connection : Connection} (reticent : connection.isReticent = true) :
    connection.targets = [] := by
  unfold targets readyEvents
  split
  · have silent : ∀ message ∈ connection.link.inbox, connection.tellsPlace message = false := by
      intro message member
      have silenced := List.all_eq_true.mp reticent message member
      rwa [Bool.not_eq_true'] at silenced
    rw [List.filterMap_append, absorb_of_reticent silent]
    unfold lastEvents
    split <;> rfl
  · rfl

end Server.Connection

/-! ### Navigators without servers -/

def OpenFile.withoutServer (entry : OpenFile) : OpenFile :=
  { entry with bridge := none }

def OpenFile.isReticent (entry : OpenFile) : Bool :=
  entry.bridge.all (·.connection.isReticent)

theorem OpenFile.withoutServer_pumped {entry : OpenFile} (reticent : entry.isReticent = true) :
    entry.pumped.withoutServer = entry.withoutServer := by
  obtain ⟨jumper, bridge⟩ := entry
  cases bridge with
  | none => rfl
  | some bridge =>
      have unled : bridge.connection.targets = [] := Connection.targets_of_reticent reticent
      simp only [pumped, withoutServer, Connection.targetsWithin, unled]
      rfl

theorem OpenFile.requests_of_reticent {entry : OpenFile} (reticent : entry.isReticent = true) :
    entry.requests = [] := by
  obtain ⟨jumper, bridge⟩ := entry
  cases bridge with
  | none => rfl
  | some bridge =>
      have unled : bridge.connection.targets = [] := Connection.targets_of_reticent reticent
      simp only [requests, Option.elim_some, Connection.targetsBeyond, unled]
      rfl

namespace Navigator

/-- No server has told of a place and not been heard yet. -/
def isReticent (navigator : Navigator) : Bool :=
  navigator.files.values.all (·.isReticent)

/-- The navigator without its servers, with another way to reach them. -/
def cutOff (connector : Option Connector) (navigator : Navigator) : Navigator :=
  { navigator with
    connector := connector
    files := navigator.files.mapValues OpenFile.withoutServer
    connected := 0
    retired := [] }

/-- A way to reach servers that never leads to one. -/
def Useless (connector : Option Connector) : Prop :=
  ∀ addresses editor, (connector.bind fun connect => connect addresses editor) = none

/-- An outcome, with the navigator cut off from its servers. -/
def cutOffOutcome {α : Type} (connector : Option Connector) (outcome : α × Navigator) :
    α × Navigator :=
  (outcome.1, outcome.2.cutOff connector)

section

variable {navigator : Navigator} {connector : Option Connector}

theorem getD_cutOff {α : Type} (outcome : Option (α × Navigator)) (answer : α) :
    (outcome.map (cutOffOutcome connector)).getD (answer, navigator.cutOff connector) =
      cutOffOutcome connector (outcome.getD (answer, navigator)) := by
  cases outcome <;> rfl

theorem notebooks_cutOff : (navigator.cutOff connector).notebooks = navigator.notebooks := rfl

theorem get?_files_cutOff (id : String) :
    (navigator.cutOff connector).files.get? id =
      (navigator.files.get? id).map OpenFile.withoutServer :=
  Keyed.get?_mapValues _ _ _

theorem jumper?_cutOff (surface : Surface) :
    (navigator.cutOff connector).jumper? surface = navigator.jumper? surface := by
  cases surface with
  | notebook id => rfl
  | file id =>
      simp only [jumper?, get?_files_cutOff, Option.map_map]
      rfl

theorem isOpen_cutOff (surface : Surface) :
    (navigator.cutOff connector).isOpen surface = navigator.isOpen surface := by
  rw [isOpen_eq, isOpen_eq, jumper?_cutOff]

theorem isOnToken_cutOff (point : Point) :
    (navigator.cutOff connector).isOnToken point = navigator.isOnToken point := by
  unfold isOnToken
  change (navigator.currentFile.bind (navigator.cutOff connector).files.get?).any _ = _
  cases navigator.currentFile with
  | none => rfl
  | some id =>
      rw [Option.bind_some, Option.bind_some, get?_files_cutOff]
      cases navigator.files.get? id <;> rfl

/-! ### Operations on widgets -/

theorem tick_cutOff (now : Nat) :
    (navigator.cutOff connector).tick now = cutOffOutcome connector (navigator.tick now) :=
  sweep_commutes (cutOff connector) (fun _ _ _ => rfl) (fun _ => rfl)
    { navigator with sweeps := (navigator.sweeps.due now).2 } (navigator.sweeps.due now).1

theorem setJumper_cutOff (surface : Surface) (jumper : Jumper) :
    (navigator.cutOff connector).setJumper surface jumper =
      (navigator.setJumper surface jumper).cutOff connector := by
  cases surface with
  | file id =>
      cases jumper with
      | notebook jumper => rfl
      | file jumper =>
          simp only [setJumper, get?_files_cutOff]
          cases navigator.files.get? id with
          | none => rfl
          | some entry =>
              simp only [Option.map_some, cutOff, Keyed.mapValues_insert]
              rfl
  | notebook id =>
      cases jumper with
      | file jumper => rfl
      | notebook jumper =>
          simp only [setJumper]
          change (if navigator.notebooks.contains id then _ else _) = _
          split <;> rfl

theorem withJumper?_cutOff (surface : Surface)
    (move : Jumper → History → Bool × Jumper × History) :
    (navigator.cutOff connector).withJumper? surface move =
      (navigator.withJumper? surface move).map (cutOffOutcome connector) := by
  unfold withJumper?
  rw [jumper?_cutOff, Option.map_map]
  cases navigator.jumper? surface with
  | none => rfl
  | some jumper =>
      simp only [Option.map_some, Function.comp, setJumper_cutOff]
      rfl

theorem typeChanged_cutOff (editorId contentType : String) :
    (navigator.cutOff connector).typeChanged editorId contentType =
      cutOffOutcome connector (navigator.typeChanged editorId contentType) := by
  simp only [typeChanged, get?_files_cutOff]
  cases navigator.files.get? editorId with
  | none => rfl
  | some entry =>
      simp only [Option.map_some, setJumper_cutOff]
      rfl

theorem cellAdded_cutOff (notebook : String) (index : Nat) (cell : Editor) :
    (navigator.cutOff connector).cellAdded notebook index cell =
      (navigator.cellAdded notebook index cell).map (cutOffOutcome connector) := by
  unfold cellAdded
  rw [Option.map_map]
  rfl

theorem cellRemoved_cutOff (notebook : String) (index : Nat) :
    (navigator.cutOff connector).cellRemoved notebook index =
      cutOffOutcome connector (navigator.cellRemoved notebook index) := by
  unfold cellRemoved
  rw [notebooks_cutOff]
  cases (navigator.notebooks.get? notebook).bind (·.removeCell index) <;> rfl

theorem activeCellChanged_cutOff (notebook : String) (index : Nat) :
    (navigator.cutOff connector).activeCellChanged notebook index =
      cutOffOutcome connector (navigator.activeCellChanged notebook index) := by
  unfold activeCellChanged
  rw [notebooks_cutOff]
  cases (navigator.notebooks.get? notebook).bind (·.setActive index) with
  | none => rfl
  | some jumper =>
      dsimp only
      cases jumper.activeCell? <;> rfl

theorem focusChanged_cutOff (surface : Surface) :
    (navigator.cutOff connector).focusChanged surface =
      (navigator.focusChanged surface).cutOff connector := by
  unfold focusChanged
  rw [isOpen_cutOff]
  split
  · cases surface <;> rfl
  · rfl

theorem removeWidget?_cutOff (surface : Surface) :
    (navigator.cutOff connector).removeWidget? surface =
      (navigator.removeWidget? surface).map (cutOff connector) := by
  cases surface with
  | notebook id =>
      simp only [removeWidget?, Option.map_map]
      rfl
  | file id =>
      simp only [removeWidget?, get?_files_cutOff, Option.map_map]
      cases navigator.files.get? id with
      | none => rfl
      | some entry =>
          simp only [Option.map_some, Function.comp]
          rw [navigator.retire_eq entry]
          simp only [cutOff, Keyed.mapValues_erase]
          rfl

theorem closed_cutOff (surface : Surface) :
    (navigator.cutOff connector).closed surface =
      cutOffOutcome connector (navigator.closed surface) := by
  unfold closed
  rw [jumper?_cutOff, removeWidget?_cutOff]
  cases navigator.jumper? surface with
  | none => rfl
  | some jumper =>
      cases navigator.removeWidget? surface with
      | none => rfl
      | some removed =>
          simp only [Option.map_some, unhookOwned_eq]
          rfl

theorem fileAdded_cutOff (useless : Useless connector) (editor : Editor) (path : Path) :
    (navigator.cutOff connector).fileAdded editor path =
      cutOffOutcome connector (navigator.fileAdded editor path) := by
  have unconnected (jumper : FileJumper) :
      (navigator.cutOff connector).connect jumper = (none, navigator.cutOff connector) := by
    have sameConnector : (navigator.cutOff connector).connector = connector := rfl
    unfold connect
    dsimp only
    rw [sameConnector, useless]
  have isReplaced :
      ((navigator.cutOff connector).hook editor.id (.file editor.id)).2.files.get? editor.id =
        (navigator.files.get? editor.id).map OpenFile.withoutServer :=
    Keyed.get?_mapValues _ _ _
  obtain ⟨bridge, connected, retired, isAfter⟩ := navigator.fileAdded_eq editor path
  refine Prod.ext rfl ?_
  change _ = (navigator.fileAdded editor path).2.cutOff connector
  rw [isAfter]
  unfold fileAdded
  dsimp only
  rw [unconnected]
  dsimp only
  rw [isReplaced]
  -- A file replaced here has no connection to drop.
  cases navigator.files.get? editor.id with
  | none =>
      simp only [cutOff, hook, Keyed.mapValues_insert]
      rfl
  | some replaced =>
      simp only [cutOff, hook, Keyed.mapValues_insert]
      rfl

theorem gesture_cutOff (trigger : Trigger) (editorId : String) (gesture : Gesture) :
    (navigator.cutOff connector).gesture trigger editorId gesture =
      cutOffOutcome connector (navigator.gesture trigger editorId gesture) := by
  have sameOwners : (navigator.cutOff connector).owners = navigator.owners := rfl
  unfold Navigator.gesture
  rw [sameOwners]
  cases navigator.owners.get? editorId with
  | none => rfl
  | some owner =>
      dsimp only
      rw [withJumper?_cutOff]
      exact getD_cutOff _ _

theorem execute_cutOff (command : JumpCommand) :
    (navigator.cutOff connector).execute command =
      cutOffOutcome connector (navigator.execute command) := by
  unfold execute
  dsimp only
  rw [show (navigator.cutOff connector).currentFor command = navigator.currentFor command from rfl]
  cases navigator.currentFor command with
  | none => rfl
  | some surface =>
      simp only [Option.bind_some, withJumper?_cutOff]
      exact getD_cutOff _ _

theorem jumpOutside?_cutOff (surface : Surface) (target : OutsideTarget) (linked : Bool) :
    (navigator.cutOff connector).jumpOutside? surface target linked =
      (navigator.jumpOutside? surface target linked).map (cutOffOutcome connector) := by
  unfold jumpOutside?
  rw [isOpen_cutOff]
  split <;> rfl

/-! ### Operations on servers -/

theorem pump_of_no_requests
    (noRequests : ∀ entry ∈ navigator.files.entries, entry.2.requests = []) :
    navigator.pump.2 =
      { navigator with files := navigator.files.mapValues OpenFile.pumped } := by
  have nothing := List.flatMap_eq_nil_iff.mpr noRequests
  simp only [pump, pumpFiles_eq, nothing]
  rfl

theorem cutOff_pump (reticent : navigator.isReticent = true) :
    navigator.pump.2.cutOff connector = navigator.cutOff connector := by
  have silent : ∀ entry ∈ navigator.files.entries, entry.2.isReticent = true :=
    fun entry member => List.all_eq_true.mp reticent entry.2 (List.mem_map_of_mem member)
  have sameFiles : navigator.files.mapValues (OpenFile.withoutServer ∘ OpenFile.pumped) =
      navigator.files.mapValues OpenFile.withoutServer :=
    Keyed.mapValues_congr fun entry member => OpenFile.withoutServer_pumped (silent entry member)
  rw [pump_of_no_requests fun entry member => OpenFile.requests_of_reticent (silent entry member)]
  simp only [cutOff, Keyed.mapValues_mapValues, sameFiles]

theorem pump_cutOff : (navigator.cutOff connector).pump.2 = navigator.cutOff connector := by
  rw [pump_of_no_requests]
  · simp only [cutOff, Keyed.mapValues_mapValues]
    rfl
  · intro entry member
    obtain ⟨connected, _, rfl⟩ := List.mem_map.mp member
    rfl

theorem cutOff_insertFile {id : String} {entry : OpenFile}
    (isEntry : navigator.files.get? id = some entry) (bridge : Option NumberedConnection) :
    cutOff connector { navigator with
      files := navigator.files.insert id { entry with bridge := bridge } } =
      navigator.cutOff connector := by
  have sameFiles :
      (navigator.files.insert id { entry with bridge := bridge }).mapValues
          OpenFile.withoutServer = navigator.files.mapValues OpenFile.withoutServer :=
    Keyed.mapValues_insert_of_get? isEntry rfl
  simp only [cutOff, sameFiles]

theorem cutOff_ask (command : Command) (point : Point) :
    (navigator.ask command point).2.cutOff connector = navigator.cutOff connector := by
  refine getD_snd_preserves
    (motive := fun after => after.cutOff connector = navigator.cutOff connector) rfl ?_
  intro answered after asked
  obtain ⟨id, _, asked⟩ := Option.bind_eq_some_iff.mp asked
  obtain ⟨entry, isEntry, asked⟩ := Option.bind_eq_some_iff.mp asked
  obtain ⟨bridge, _, asked⟩ := Option.bind_eq_some_iff.mp asked
  obtain ⟨position, _, asked⟩ := Option.bind_eq_some_iff.mp asked
  cases asked
  exact cutOff_insertFile isEntry _

theorem ask_cutOff (command : Command) (point : Point) :
    ((navigator.cutOff connector).ask command point).2 = navigator.cutOff connector := by
  refine getD_snd_preserves (motive := fun after => after = _) rfl ?_
  intro answered after asked
  obtain ⟨id, _, asked⟩ := Option.bind_eq_some_iff.mp asked
  obtain ⟨entry, isEntry, asked⟩ := Option.bind_eq_some_iff.mp asked
  rw [get?_files_cutOff] at isEntry
  obtain ⟨known, _, rfl⟩ := Option.map_eq_some_iff.mp isEntry
  cases asked

theorem Consistent.cutOff_serve (consistent : navigator.Consistent) (number : Nat)
    (action : ServerAction) :
    (navigator.act (.serve number action)).cutOff connector = navigator.cutOff connector := by
  refine getD_preserves
    (motive := fun after => after.cutOff connector = navigator.cutOff connector) rfl ?_
  intro answer after served
  unfold withServer? at served
  dsimp only at served
  split at served
  · next id entry isEntry =>
      have member := List.mem_of_find?_eq_some isEntry
      obtain ⟨bridge, _, served⟩ := Option.map_eq_some_iff.mp served
      cases served
      exact cutOff_insertFile (consistent.filesDistinct.get?_of_mem member) _
  · obtain ⟨bridge, _, served⟩ := Option.map_eq_some_iff.mp served
    cases served
    rfl

end

/-! ### Runs -/

/-- Whether an action is one of the host and its user. The others are those of servers and of
the way to reach them. -/
def Action.isOperation : Action → Bool
  | .setConnector _ | .serve _ _ => false
  | _ => true

/-- Whether an action puts a question to a server or follows the answers. -/
def Action.isSemantic : Action → Bool
  | .ask _ _ | .pump => true
  | _ => false

inductive Answer where
  | nothing
  | widget (surface : Surface)
  | place (index : Option Nat)
  | count (number : Nat)
  | truth (value : Bool)
  /-- Absent if there is no such widget. -/
  | attempt (value : Option Bool)
  deriving DecidableEq, Repr

/-- What an action returns to its caller. -/
def answer (navigator : Navigator) : Action → Answer
  | .setRegistry _ | .setConnector _ | .focusChanged _ | .serve _ _ => .nothing
  | .fileAdded editor path => .widget (navigator.fileAdded editor path).1
  | .notebookAdded id path language now =>
      .widget (navigator.notebookAdded id path language now).1
  | .cellAdded notebook index cell =>
      .place ((navigator.cellAdded notebook index cell).map Prod.fst)
  | .cellRemoved notebook index => .truth (navigator.cellRemoved notebook index).1
  | .activeCellChanged notebook index => .truth (navigator.activeCellChanged notebook index).1
  | .tick now => .count (navigator.tick now).1
  | .typeChanged editorId contentType => .truth (navigator.typeChanged editorId contentType).1
  | .closed surface => .truth (navigator.closed surface).1
  | .gesture trigger editorId gesture => .truth (navigator.gesture trigger editorId gesture).1
  | .execute command => .truth (navigator.execute command).1
  | .jump surface destination =>
      .attempt ((navigator.jump? surface destination).map Prod.fst)
  | .jumpOutside surface target linked =>
      .attempt ((navigator.jumpOutside? surface target linked).map Prod.fst)
  | .ask command point => .truth (navigator.ask command point).1
  | .pump => .count navigator.pump.1
  | .setCursor surface cell position =>
      .attempt ((navigator.withJumper? surface fun jumper history =>
        let (known, moved) := jumper.setCursor cell position
        (known, moved, history)).map Prod.fst)
  | .setText surface cell text =>
      .attempt ((navigator.withJumper? surface fun jumper history =>
        (true, jumper.setText cell text, history)).map Prod.fst)

section

variable {navigator : Navigator} {connector : Option Connector}

theorem map_fst_cutOff {α : Type} (outcome : Option (α × Navigator)) :
    (outcome.map (cutOffOutcome connector)).map Prod.fst = outcome.map Prod.fst := by
  rw [Option.map_map]
  rfl

theorem map_snd_cutOff {α : Type} (outcome : Option (α × Navigator)) :
    ((outcome.map (cutOffOutcome connector)).map Prod.snd).getD (navigator.cutOff connector) =
      ((outcome.map Prod.snd).getD navigator).cutOff connector := by
  cases outcome <;> rfl

theorem answer_cutOff (useless : Useless connector) {action : Action}
    (lexical : action.isSemantic = false) :
    (navigator.cutOff connector).answer action = navigator.answer action := by
  cases action with
  | setRegistry registry => rfl
  | setConnector connector => rfl
  | fileAdded editor path => simp only [answer, fileAdded_cutOff useless, cutOffOutcome]
  | notebookAdded id path language now => rfl
  | cellAdded notebook index cell => simp only [answer, cellAdded_cutOff, map_fst_cutOff]
  | cellRemoved notebook index => simp only [answer, cellRemoved_cutOff, cutOffOutcome]
  | activeCellChanged notebook index =>
      simp only [answer, activeCellChanged_cutOff, cutOffOutcome]
  | tick now => simp only [answer, tick_cutOff, cutOffOutcome]
  | typeChanged editorId contentType => simp only [answer, typeChanged_cutOff, cutOffOutcome]
  | focusChanged surface => rfl
  | closed surface => simp only [answer, closed_cutOff, cutOffOutcome]
  | gesture trigger editorId gesture => simp only [answer, gesture_cutOff, cutOffOutcome]
  | execute command => simp only [answer, execute_cutOff, cutOffOutcome]
  | jump surface destination => simp only [answer, jump?, withJumper?_cutOff, map_fst_cutOff]
  | jumpOutside surface target linked =>
      simp only [answer, jumpOutside?_cutOff, map_fst_cutOff]
  | ask command point => cases lexical
  | pump => cases lexical
  | setCursor surface cell position => simp only [answer, withJumper?_cutOff, map_fst_cutOff]
  | setText surface cell text => simp only [answer, withJumper?_cutOff, map_fst_cutOff]
  | serve number action => rfl

/-- An operation does the same to a navigator that is cut off from its servers. -/
theorem cutOff_act (useless : Useless connector) {action : Action}
    (operates : action.isOperation = true) (reticent : navigator.isReticent = true) :
    (navigator.act action).cutOff connector = (navigator.cutOff connector).act action := by
  cases action with
  | setRegistry registry => rfl
  | setConnector connector => cases operates
  | fileAdded editor path => simp only [act, fileAdded_cutOff useless, cutOffOutcome]
  | notebookAdded id path language now => rfl
  | cellAdded notebook index cell => simp only [act, cellAdded_cutOff, map_snd_cutOff]
  | cellRemoved notebook index => simp only [act, cellRemoved_cutOff, cutOffOutcome]
  | activeCellChanged notebook index => simp only [act, activeCellChanged_cutOff, cutOffOutcome]
  | tick now => simp only [act, tick_cutOff, cutOffOutcome]
  | typeChanged editorId contentType => simp only [act, typeChanged_cutOff, cutOffOutcome]
  | focusChanged surface => exact (focusChanged_cutOff surface).symm
  | closed surface => simp only [act, closed_cutOff, cutOffOutcome]
  | gesture trigger editorId gesture => simp only [act, gesture_cutOff, cutOffOutcome]
  | execute command => simp only [act, execute_cutOff, cutOffOutcome]
  | jump surface destination => simp only [act, jump?, withJumper?_cutOff, map_snd_cutOff]
  | jumpOutside surface target linked => simp only [act, jumpOutside?_cutOff, map_snd_cutOff]
  | ask command point => exact (cutOff_ask command point).trans (ask_cutOff command point).symm
  | pump => exact (cutOff_pump reticent).trans pump_cutOff.symm
  | setCursor surface cell position => simp only [act, withJumper?_cutOff, map_snd_cutOff]
  | setText surface cell text => simp only [act, withJumper?_cutOff, map_snd_cutOff]
  | serve number action => cases operates

/-- What servers do is not to be seen once they are cut off. -/
theorem Consistent.cutOff_act_of_not_operation (consistent : navigator.Consistent)
    {action : Action} (foreign : action.isOperation = false) :
    (navigator.act action).cutOff connector = navigator.cutOff connector := by
  cases action with
  | setConnector connector => rfl
  | serve number action => exact consistent.cutOff_serve number action
  | _ => cases foreign

theorem Consistent.cutOff_run (consistent : navigator.Consistent) (useless : Useless connector)
    {actions : List Action}
    (reticent : ∀ earlier, earlier <+: actions → (navigator.run earlier).isReticent = true) :
    (navigator.run actions).cutOff connector =
      (navigator.cutOff connector).run (actions.filter Action.isOperation) := by
  induction actions generalizing navigator with
  | nil => rfl
  | cons action rest ih =>
      have later := ih (consistent_act navigator action consistent) fun earlier isEarlier =>
        reticent (action :: earlier) (List.cons_prefix_cons.mpr ⟨rfl, isEarlier⟩)
      refine later.trans ?_
      cases operates : action.isOperation with
      | true =>
          have reticentNow : navigator.isReticent = true := reticent [] List.nil_prefix
          rw [cutOff_act useless operates reticentNow, List.filter_cons_of_pos operates]
          rfl
      | false =>
          rw [consistent.cutOff_act_of_not_operation operates,
            List.filter_cons_of_neg (by rw [operates]; exact Bool.false_ne_true)]

end

/-! ### Servers only add -/

/-- Two navigators that agree on everything but their connections: on the jumpers, with their
carets, focus, active cells and languages, on all tables and on the host, and on what they
answer whenever no server is involved. -/
structure Agree (left right : Navigator) : Prop where
  jumpers : ∀ surface, left.jumper? surface = right.jumper? surface
  history : left.history = right.history
  hooks : left.hooks = right.hooks
  owners : left.owners = right.owners
  currentFile : left.currentFile = right.currentFile
  currentNotebook : left.currentNotebook = right.currentNotebook
  sweeps : left.sweeps = right.sweeps
  host : left.host = right.host
  answers : ∀ action : Action, action.isSemantic = false → left.answer action = right.answer action
  isOpen : ∀ surface, left.isOpen surface = right.isOpen surface
  isEnabled : ∀ command front, left.isEnabled command front = right.isEnabled command front
  isOnToken : ∀ point, left.isOnToken point = right.isOnToken point

theorem agree_cutOff (navigator : Navigator) {connector : Option Connector}
    (useless : Useless connector) : Agree (navigator.cutOff connector) navigator where
  jumpers := jumper?_cutOff
  history := rfl
  hooks := rfl
  owners := rfl
  currentFile := rfl
  currentNotebook := rfl
  sweeps := rfl
  host := rfl
  answers := fun _ => answer_cutOff useless
  isOpen := isOpen_cutOff
  isEnabled := fun _ _ => rfl
  isOnToken := isOnToken_cutOff

theorem Agree.of_common {left right common : Navigator} (first : Agree left common)
    (second : Agree right common) : Agree left right where
  jumpers := fun surface => (first.jumpers surface).trans (second.jumpers surface).symm
  history := first.history.trans second.history.symm
  hooks := first.hooks.trans second.hooks.symm
  owners := first.owners.trans second.owners.symm
  currentFile := first.currentFile.trans second.currentFile.symm
  currentNotebook := first.currentNotebook.trans second.currentNotebook.symm
  sweeps := first.sweeps.trans second.sweeps.symm
  host := first.host.trans second.host.symm
  answers := fun action lexical =>
    (first.answers action lexical).trans (second.answers action lexical).symm
  isOpen := fun surface => (first.isOpen surface).trans (second.isOpen surface).symm
  isEnabled := fun command front =>
    (first.isEnabled command front).trans (second.isEnabled command front).symm
  isOnToken := fun point => (first.isOnToken point).trans (second.isOnToken point).symm

/-- A connector that fails for every file. -/
def refuse : Connector := fun _ _ => none

/-- As long as no server answers a question with a place, it makes no difference to anything but
the connections whether servers can be reached at all. After each step of a run, the same
operations without a connector, and with one that always fails, have led to navigators that
agree with the one that is connected. -/
theorem servers_only_add (registry : Definition.Registry) (connector : Option Connector)
    (host : Host) (actions : List Action)
    (reticent : ∀ earlier, earlier <+: actions →
      ((fresh registry connector host).run earlier).isReticent = true) :
    ∀ earlier, earlier <+: actions →
      let operations := earlier.filter Action.isOperation
      let plain := (fresh registry none host).run operations
      let refused := (fresh registry (some refuse) host).run operations
      let served := (fresh registry connector host).run earlier
      Agree plain refused ∧ Agree plain served ∧ Agree refused served := by
  intro earlier isEarlier operations plain refused served
  have consistent := consistent_fresh registry connector host
  have reticentBefore : ∀ before, before <+: earlier →
      ((fresh registry connector host).run before).isReticent = true :=
    fun before isBefore => reticent before (isBefore.trans isEarlier)
  have noneUseless : Useless none := fun _ _ => rfl
  have refuseUseless : Useless (some refuse) := fun _ _ => rfl
  have isPlain : served.cutOff none = plain := consistent.cutOff_run noneUseless reticentBefore
  have isRefused : served.cutOff (some refuse) = refused :=
    consistent.cutOff_run refuseUseless reticentBefore
  have plainAgrees : Agree plain served := isPlain ▸ served.agree_cutOff noneUseless
  have refusedAgrees : Agree refused served := isRefused ▸ served.agree_cutOff refuseUseless
  exact ⟨plainAgrees.of_common refusedAgrees, plainAgrees, refusedAgrees⟩

/-- Connects every file to a server that greets and knows no answer. -/
def cluelessConnector : Connector := fun addresses editor => some
  { addresses := addresses
    documentText := editor.text
    pending := ⟨[(1, .handshake), (2, .question .definition)]⟩
    link :=
      { inbox :=
          [.response (.number 1) (some (.object [])) none,
           .response (.number 2) (some (.array [])) none] } }

/-- A jump by name and back, with a server that comes, answers and goes. -/
def cluelessSession : List Action :=
  [.fileAdded { id := "e", text := "def f():\n  f()".toList, contentType := "text/x-python" } [],
   .setCursor (.file "e") 0 ⟨1, 2⟩,
   .pump,
   .execute .fileEditor,
   .serve 0 .stopSending,
   .pump,
   .execute .fileEditorBack,
   .closed (.file "e")]

theorem servers_only_add_in_session :
    (∀ earlier, earlier <+: cluelessSession →
      ((fresh .standard (some cluelessConnector) {}).run earlier).isReticent = true) ∧
      ∀ earlier, earlier <+: cluelessSession →
        Agree ((fresh .standard none {}).run (earlier.filter Action.isOperation))
          ((fresh .standard (some cluelessConnector) {}).run earlier) := by
  have reticent : ∀ earlier, earlier <+: cluelessSession →
      ((fresh .standard (some cluelessConnector) {}).run earlier).isReticent = true := by
    intro earlier isEarlier
    have atEach : ∀ length ≤ 8, ((fresh .standard (some cluelessConnector) {}).run
        (cluelessSession.take length)).isReticent = true := by decide +kernel
    rw [List.prefix_iff_eq_take.mp isEarlier]
    exact atEach earlier.length isEarlier.length_le
  refine ⟨reticent, fun earlier isEarlier => ?_⟩
  exact (servers_only_add .standard (some cluelessConnector) {} cluelessSession reticent earlier
    isEarlier).2.1

end Navigator

end SymbolJump
