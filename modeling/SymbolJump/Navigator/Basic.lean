/-
All documents under navigation.

The host reports which widgets come, change and go. The navigator keeps a
jumper for every open widget, hooks their editors, connects files to language
servers, and drops all of it when a widget is closed.
-/

import SymbolJump.Gesture
import SymbolJump.Navigator.JumpCommand
import SymbolJump.Navigator.Sweep
import SymbolJump.Server.Bridge

namespace SymbolJump

open Server

/-- A connection and its number in the order of opening. -/
structure NumberedConnection where
  number : Nat
  connection : Connection

/-- An open file, connected to a server if that could be reached. -/
structure OpenFile where
  jumper : FileJumper
  bridge : Option NumberedConnection

/-- How files are connected: given the addresses and the editor, a connection or none. -/
abbrev Connector := Addresses → Editor → Option Connection

structure Navigator where
  registry : Definition.Registry := .standard
  connector : Option Connector := none
  host : Host := {}
  history : History := .empty
  files : Keyed String OpenFile := .empty
  notebooks : Keyed String NotebookJumper := .empty
  hooks : Hooks := .empty
  /-- The widget that owns each hooked editor. -/
  owners : Keyed String Surface := .empty
  sweeps : Sweeps := .empty
  currentFile : Option String := none
  currentNotebook : Option String := none
  /-- The number of connections opened so far. -/
  connected : Nat := 0
  /-- The connections whose file was closed or replaced. -/
  retired : List NumberedConnection := []

namespace Navigator

/-! ### Widgets -/

def isOpen (navigator : Navigator) : Surface → Bool
  | .file id => navigator.files.contains id
  | .notebook id => navigator.notebooks.contains id

def jumper? (navigator : Navigator) : Surface → Option Jumper
  | .file id => (navigator.files.get? id).map fun entry => .file entry.jumper
  | .notebook id => (navigator.notebooks.get? id).map .notebook

/-- Puts back the jumper of an open widget. -/
def setJumper (navigator : Navigator) (surface : Surface) (jumper : Jumper) : Navigator :=
  match surface, jumper with
  | .file id, .file jumper =>
      match navigator.files.get? id with
      | some entry =>
          { navigator with files := navigator.files.insert id { entry with jumper := jumper } }
      | none => navigator
  | .notebook id, .notebook jumper =>
      if navigator.notebooks.contains id then
        { navigator with notebooks := navigator.notebooks.insert id jumper }
      else navigator
  | _, _ => navigator

/-! ### Hooks -/

/-- Hooks an editor for a widget; says whether it was not hooked before. -/
def hook (navigator : Navigator) (editorId : String) (owner : Surface) : Bool × Navigator :=
  let (fresh, hooks) := navigator.hooks.register editorId
  (fresh, { navigator with hooks := hooks, owners := navigator.owners.insert editorId owner })

def unhook (navigator : Navigator) (editorId : String) : Navigator :=
  { navigator with
    hooks := (navigator.hooks.unregister editorId).2
    owners := navigator.owners.erase editorId }

/-- Hooks several editors for a widget; gives the number not hooked before. -/
def hookAll (navigator : Navigator) (owner : Surface) : List String → Nat × Navigator
  | [] => (0, navigator)
  | editorId :: rest =>
      let (fresh, hooked) := navigator.hook editorId owner
      let (count, all) := hookAll hooked owner rest
      ((if fresh then 1 else 0) + count, all)

/-! ### Files -/

/-- Connects a file, if there is a connector and it succeeds. -/
def connect (navigator : Navigator) (jumper : FileJumper) :
    Option NumberedConnection × Navigator :=
  let addresses := Addresses.ofDocument jumper.language jumper.directory jumper.path
  match navigator.connector.bind fun connector => connector addresses jumper.editor with
  | some connection =>
      (some ⟨navigator.connected, connection⟩,
        { navigator with connected := navigator.connected + 1 })
  | none => (none, navigator)

/-- Drops the connection of a file that is no longer open. -/
def retire (navigator : Navigator) (entry : OpenFile) : Navigator :=
  match entry.bridge with
  | some bridge =>
      { navigator with
        retired := navigator.retired ++ [{ bridge with connection := bridge.connection.drop }] }
  | none => navigator

/-- A file editor came. One already open under its id is replaced. -/
def fileAdded (navigator : Navigator) (editor : Editor) (path : Path) : Surface × Navigator :=
  let surface := Surface.file editor.id
  let jumper := FileJumper.ofEditor navigator.registry editor path
  let (bridge, connected) := navigator.connect jumper
  let (_, hooked) := connected.hook editor.id surface
  let cleared :=
    match hooked.files.get? editor.id with
    | some replaced => hooked.retire replaced
    | none => hooked
  (surface,
    { cleared with
      files := cleared.files.insert editor.id { jumper := jumper, bridge := bridge }
      currentFile := some editor.id })

/-- The content type of a file changed. -/
def typeChanged (navigator : Navigator) (editorId contentType : String) : Bool × Navigator :=
  match navigator.files.get? editorId with
  | some entry =>
      (true, navigator.setJumper (.file editorId) (.file (entry.jumper.changeType contentType)))
  | none => (false, navigator)

/-! ### Notebooks -/

/-- A notebook came. Its cells are hooked by a sweep some time later. -/
def notebookAdded (navigator : Navigator) (id : String) (path : Path) (language : String)
    (now : Nat) : Surface × Navigator :=
  let jumper : NotebookJumper :=
    { id := id, path := path, language := language, registry := navigator.registry }
  (.notebook id,
    { navigator with
      notebooks := navigator.notebooks.insert id jumper
      sweeps := (navigator.sweeps.schedule id now).2
      currentNotebook := some id })

/-- A cell came; it is hooked once it becomes active or the sweep runs. -/
def cellAdded (navigator : Navigator) (notebook : String) (index : Nat) (cell : Editor) :
    Option (Nat × Navigator) :=
  (navigator.notebooks.get? notebook).map fun jumper =>
    let (place, jumper) := jumper.insertCell index cell
    (place, { navigator with notebooks := navigator.notebooks.insert notebook jumper })

/-- A cell went. -/
def cellRemoved (navigator : Navigator) (notebook : String) (index : Nat) :
    Bool × Navigator :=
  match (navigator.notebooks.get? notebook).bind (·.removeCell index) with
  | some (removed, jumper) =>
      let changed :=
        { navigator with notebooks := navigator.notebooks.insert notebook jumper }
      (true, changed.unhook removed.id)
  | none => (false, navigator)

/-- Another cell became active; it is hooked right away. -/
def activeCellChanged (navigator : Navigator) (notebook : String) (index : Nat) :
    Bool × Navigator :=
  match (navigator.notebooks.get? notebook).bind (·.setActive index) with
  | some jumper =>
      let changed :=
        { navigator with notebooks := navigator.notebooks.insert notebook jumper }
      match jumper.activeCell? with
      | some cell => (true, (changed.hook cell.id (.notebook notebook)).2)
      | none => (false, changed)
  | none => (false, navigator)

/-- Hooks all cells of the given notebooks; gives the number not hooked before. -/
def sweep (navigator : Navigator) : List String → Nat × Navigator
  | [] => (0, navigator)
  | notebook :: rest =>
      match navigator.notebooks.get? notebook with
      | none => sweep navigator rest
      | some jumper =>
          let (count, hooked) :=
            navigator.hookAll (.notebook notebook) (jumper.cells.map (·.id))
          let (others, all) := sweep hooked rest
          (count + others, all)

/-- Runs the sweeps that are due. -/
def tick (navigator : Navigator) (now : Nat) : Nat × Navigator :=
  let (notebooks, sweeps) := navigator.sweeps.due now
  { navigator with sweeps := sweeps }.sweep notebooks

/-! ### Focus and closing -/

/-- Remembers an open widget as the current one of its kind. -/
def focusChanged (navigator : Navigator) (surface : Surface) : Navigator :=
  if navigator.isOpen surface then
    match surface with
    | .file id => { navigator with currentFile := some id }
    | .notebook id => { navigator with currentNotebook := some id }
  else navigator

/-- Drops the hooks a widget owns. -/
def unhookOwned (navigator : Navigator) (owner : Surface) : Navigator :=
  let owned := (navigator.owners.entries.filter fun entry => entry.2 = owner).map Prod.fst
  owned.foldl unhook navigator

/-- Drops the jumper of an open widget with all that hangs on it, absent if it is not
open. -/
def removeWidget? (navigator : Navigator) : Surface → Option Navigator
  | .file id =>
      (navigator.files.get? id).map fun entry =>
        { navigator.retire entry with
          files := navigator.files.erase id
          currentFile :=
            if navigator.currentFile = some id then none else navigator.currentFile }
  | .notebook id =>
      (navigator.notebooks.get? id).map fun _ =>
        { navigator with
          notebooks := navigator.notebooks.erase id
          sweeps := (navigator.sweeps.cancel id).2
          currentNotebook :=
            if navigator.currentNotebook = some id then none else navigator.currentNotebook }

/-- A widget was closed: everything kept for it is dropped, its history included. -/
def closed (navigator : Navigator) (surface : Surface) : Bool × Navigator :=
  match navigator.jumper? surface, navigator.removeWidget? surface with
  | some jumper, some removed =>
      let unhooked := removed.unhookOwned surface
      (true, { unhooked with history := (unhooked.history.forget jumper.surface).2 })
  | _, _ => (false, navigator)

/-! ### Jumps -/

/-- Lets an open widget move; absent if it is not open. -/
def withJumper? (navigator : Navigator) (surface : Surface)
    (move : Jumper → History → Bool × Jumper × History) : Option (Bool × Navigator) :=
  (navigator.jumper? surface).map fun jumper =>
    let (moved, jumper, history) := move jumper navigator.history
    (moved, { navigator.setJumper surface jumper with history := history })

/-- A gesture on an editor goes to the widget that owns it. -/
def gesture (navigator : Navigator) (trigger : Trigger) (editorId : String)
    (gesture : Gesture) : Bool × Navigator :=
  match navigator.owners.get? editorId with
  | none => (false, navigator)
  | some owner =>
      (navigator.withJumper? owner fun jumper history =>
        navigator.hooks.dispatch trigger editorId gesture jumper history).getD (false, navigator)

/-- Puts the caret of an open widget at a destination; absent if it is not open. -/
def jump? (navigator : Navigator) (surface : Surface) (destination : Destination) :
    Option (Bool × Navigator) :=
  navigator.withJumper? surface fun jumper history =>
    let (moved, arrived) := jumper.jump destination
    (moved, arrived, history)

/-- Asks the host for a place outside, on behalf of an open widget. -/
def jumpOutside? (navigator : Navigator) (surface : Surface) (target : OutsideTarget)
    (linked : Bool) : Option (Bool × Navigator) :=
  if navigator.isOpen surface then
    let (shown, host) := navigator.host.present (target.request linked)
    some (shown, { navigator with host := host })
  else none

/-- The current widget that a command acts on. -/
def currentFor (navigator : Navigator) (command : JumpCommand) : Option Surface :=
  if command.onNotebook then navigator.currentNotebook.map .notebook
  else navigator.currentFile.map .file

/-- A command is offered while the widget it acts on is the one in front. -/
def isEnabled (navigator : Navigator) (command : JumpCommand) (front : Option Surface) :
    Bool :=
  (navigator.currentFor command).isSome && navigator.currentFor command == front

/-- Runs a command on the current widget, with the token at the caret. -/
def execute (navigator : Navigator) (command : JumpCommand) : Bool × Navigator :=
  let move (jumper : Jumper) (history : History) : Bool × Jumper × History :=
    if command.isBack then jumper.jumpBack history
    else
      match jumper.usageAtCursor? with
      | some usage => jumper.jumpToDefinition history usage
      | none => (false, jumper, history)
  ((navigator.currentFor command).bind fun surface =>
    navigator.withJumper? surface move).getD (false, navigator)

/-! ### Servers -/

/-- The connection of an open file. -/
def bridge? (navigator : Navigator) (editorId : String) : Option NumberedConnection :=
  (navigator.files.get? editorId).bind (·.bridge)

/-- Whether the server of the current file answers a question. -/
def offers (navigator : Navigator) (command : Command) : Bool :=
  (navigator.currentFile.bind navigator.bridge?).any fun bridge =>
    isSupported bridge.connection command

/-- Whether a point lies on a token of the current file. -/
def isOnToken (navigator : Navigator) (point : Point) : Bool :=
  (navigator.currentFile.bind navigator.files.get?).any fun entry =>
    (entry.jumper.editor.positionUnder? point).any fun position =>
      !(entry.jumper.editor.tokenAt position).isEmpty

/-- Asks the server of the current file about the position under a point. -/
def ask (navigator : Navigator) (command : Command) (point : Point) : Bool × Navigator :=
  let asked : Option (Bool × Navigator) := do
    let id ← navigator.currentFile
    let entry ← navigator.files.get? id
    let bridge ← entry.bridge
    let editor := entry.jumper.editor
    let position ← editor.positionUnder? point
    let (answer, connection) := askAt bridge.connection command editor.text position
    let entry := { entry with bridge := some { bridge with connection := connection } }
    return (answer.toOption.isSome,
      { navigator with files := navigator.files.insert id entry })
  asked.getD (false, navigator)

/-- Applies the ready events of one file. -/
def pumpFile (entry : OpenFile) (host : Host) : Nat × OpenFile × Host :=
  match entry.bridge with
  | none => (0, entry, host)
  | some bridge =>
      let (count, connection, jumper, host) :=
        Server.pump bridge.connection (.file entry.jumper) host
      (count,
        { jumper := jumper.file?.getD entry.jumper
          bridge := some { bridge with connection := connection } },
        host)

/-- Applies the ready events of files, one file after the other. -/
def pumpFiles : List (String × OpenFile) → Host → Nat × List (String × OpenFile) × Host
  | [], host => (0, [], host)
  | (id, entry) :: rest, host =>
      let (count, entry, host) := pumpFile entry host
      let (others, rest, host) := pumpFiles rest host
      (count + others, (id, entry) :: rest, host)

/-- Applies the ready events of all files; gives their number. -/
def pump (navigator : Navigator) : Nat × Navigator :=
  let (count, entries, host) := pumpFiles navigator.files.entries navigator.host
  (count, { navigator with files := ⟨entries⟩, host := host })

/-- Lets the server behind a numbered connection act; absent if there is none. -/
def withServer? {α : Type} (navigator : Navigator) (number : Nat)
    (act : Connection → α × Connection) : Option (α × Navigator) :=
  let isNumbered (entry : String × OpenFile) : Bool :=
    entry.2.bridge.any (·.number == number)
  match navigator.files.entries.find? isNumbered with
  | some (id, entry) =>
      entry.bridge.map fun bridge =>
        let (answer, connection) := act bridge.connection
        let entry := { entry with bridge := some { bridge with connection := connection } }
        (answer, { navigator with files := navigator.files.insert id entry })
  | none =>
      (navigator.retired.find? (·.number == number)).map fun bridge =>
        let (answer, connection) := act bridge.connection
        let replace (other : NumberedConnection) : NumberedConnection :=
          if other.number = number then { other with connection := connection } else other
        (answer, { navigator with retired := navigator.retired.map replace })

end Navigator

end SymbolJump
