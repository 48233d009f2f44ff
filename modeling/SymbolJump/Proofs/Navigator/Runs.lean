/-
Everything that can happen to a navigator.

The host reports widgets, cells, gestures and commands, users work in the
editors, and servers act behind the connections. A run takes these actions in
any order, from a navigator that knows no widget.
-/

import SymbolJump.Navigator.Basic

namespace SymbolJump

open Server Text

inductive ServerAction where
  | send (message : Message)
  | receive
  | stopSending
  | stopReceiving

def ServerAction.apply (connection : Connection) : ServerAction → Connection
  | .send message => (connection.serverSend message).2
  | .receive => connection.serverReceive.2
  | .stopSending => connection.serverStopsSending.2
  | .stopReceiving => connection.serverStopsReceiving.2

/-- Replaces the text of a cell; a file has only the one editor. -/
def Jumper.setText (jumper : Jumper) (cell : Nat) (text : List Char) : Jumper :=
  match jumper with
  | file jumper => file { jumper with editor := jumper.editor.setText text }
  | notebook jumper => notebook (jumper.modifyCell cell (·.setText text))

namespace Navigator

inductive Action where
  | setRegistry (registry : Definition.Registry)
  | setConnector (connector : Connector)
  | fileAdded (editor : Editor) (path : Path)
  | notebookAdded (id : String) (path : Path) (language : String) (now : Nat)
  | cellAdded (notebook : String) (index : Nat) (cell : Editor)
  | cellRemoved (notebook : String) (index : Nat)
  | activeCellChanged (notebook : String) (index : Nat)
  | tick (now : Nat)
  | typeChanged (editorId contentType : String)
  | focusChanged (surface : Surface)
  | closed (surface : Surface)
  | gesture (trigger : Trigger) (editorId : String) (gesture : Gesture)
  | execute (command : JumpCommand)
  | jump (surface : Surface) (destination : Destination)
  | jumpOutside (surface : Surface) (target : OutsideTarget) (linked : Bool)
  | ask (command : Command) (point : Point)
  | pump
  | setCursor (surface : Surface) (cell : Nat) (position : Position)
  | setText (surface : Surface) (cell : Nat) (text : List Char)
  | serve (number : Nat) (action : ServerAction)

/-- A navigator that knows no widget. -/
def fresh (registry : Definition.Registry) (connector : Option Connector) (host : Host) :
    Navigator :=
  { registry := registry, connector := connector, host := host }

def act (navigator : Navigator) : Action → Navigator
  | .setRegistry registry => { navigator with registry := registry }
  | .setConnector connector => { navigator with connector := some connector }
  | .fileAdded editor path => (navigator.fileAdded editor path).2
  | .notebookAdded id path language now => (navigator.notebookAdded id path language now).2
  | .cellAdded notebook index cell =>
      ((navigator.cellAdded notebook index cell).map Prod.snd).getD navigator
  | .cellRemoved notebook index => (navigator.cellRemoved notebook index).2
  | .activeCellChanged notebook index => (navigator.activeCellChanged notebook index).2
  | .tick now => (navigator.tick now).2
  | .typeChanged editorId contentType => (navigator.typeChanged editorId contentType).2
  | .focusChanged surface => navigator.focusChanged surface
  | .closed surface => (navigator.closed surface).2
  | .gesture trigger editorId gesture => (navigator.gesture trigger editorId gesture).2
  | .execute command => (navigator.execute command).2
  | .jump surface destination =>
      ((navigator.jump? surface destination).map Prod.snd).getD navigator
  | .jumpOutside surface target linked =>
      ((navigator.jumpOutside? surface target linked).map Prod.snd).getD navigator
  | .ask command point => (navigator.ask command point).2
  | .pump => navigator.pump.2
  | .setCursor surface cell position =>
      ((navigator.withJumper? surface fun jumper history =>
        let (known, moved) := jumper.setCursor cell position
        (known, moved, history)).map Prod.snd).getD navigator
  | .setText surface cell text =>
      ((navigator.withJumper? surface fun jumper history =>
        (true, jumper.setText cell text, history)).map Prod.snd).getD navigator
  | .serve number action =>
      ((navigator.withServer? number fun connection =>
        ((), action.apply connection)).map Prod.snd).getD navigator

/-! ### What actions preserve -/

theorem getD_preserves {motive : Navigator → Prop} {navigator : Navigator}
    (initially : motive navigator) {α : Type} {outcome : Option (α × Navigator)}
    (all : ∀ answer after, outcome = some (answer, after) → motive after) :
    motive ((outcome.map Prod.snd).getD navigator) := by
  cases outcome with
  | none => exact initially
  | some pair => exact all pair.1 pair.2 rfl

theorem getD_snd_preserves {motive : Navigator → Prop} {navigator : Navigator}
    (initially : motive navigator) {α : Type} {outcome : Option (α × Navigator)} {otherwise : α}
    (all : ∀ answer after, outcome = some (answer, after) → motive after) :
    motive (outcome.getD (otherwise, navigator)).2 := by
  cases outcome with
  | none => exact initially
  | some pair => exact all pair.1 pair.2 rfl

def run (navigator : Navigator) (actions : List Action) : Navigator :=
  actions.foldl act navigator

/-- A run along which a condition holds keeps what every action keeps under that condition. -/
theorem run_preserves_under {condition motive : Navigator → Prop}
    (preserved : ∀ (navigator : Navigator) (action : Action), condition navigator →
      motive navigator → motive (navigator.act action))
    {navigator : Navigator} (initially : motive navigator) {actions : List Action}
    (throughout : ∀ earlier, earlier <+: actions → condition (navigator.run earlier)) :
    motive (navigator.run actions) := by
  induction actions generalizing navigator with
  | nil => exact initially
  | cons action rest ih =>
      have now : condition navigator := throughout [] List.nil_prefix
      refine ih (preserved navigator action now initially) ?_
      intro earlier isEarlier
      exact throughout (action :: earlier) (List.cons_prefix_cons.mpr ⟨rfl, isEarlier⟩)

theorem run_preserves {motive : Navigator → Prop}
    (preserved : ∀ (navigator : Navigator) (action : Action), motive navigator →
      motive (navigator.act action))
    {navigator : Navigator} (initially : motive navigator) (actions : List Action) :
    motive (navigator.run actions) :=
  run_preserves_under (fun navigator action (_ : True) => preserved navigator action) initially
    fun _ _ => trivial

end Navigator

end SymbolJump
