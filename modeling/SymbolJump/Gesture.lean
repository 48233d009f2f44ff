/-
Gestures that ask for a jump.

A press of the pointer counts while the trigger modifier is held; the key
binding acts on the caret. A hook ties gestures to one editor, and the registry
has at most one hook for an editor.
-/

import SymbolJump.Jumper.Basic

namespace SymbolJump

open Text

/-- The modifier keys held, one bit each. -/
structure Modifiers where
  bits : UInt8
  deriving DecidableEq, Repr

namespace Modifiers

def control : UInt8 := 1
def alt : UInt8 := 2
def shift : UInt8 := 4
def command : UInt8 := 8

def none : Modifiers := ⟨0⟩

def isEmpty (held : Modifiers) : Bool :=
  held.bits == 0

/-- Whether all of the given keys are held; no key at all does not count. -/
def contains (held : Modifiers) (wanted : UInt8) : Bool :=
  wanted != 0 && (held.bits &&& wanted) == wanted

def insert (held : Modifiers) (more : UInt8) : Modifiers :=
  ⟨held.bits ||| more⟩

/-- The single bits held, in increasing order. -/
def members (held : Modifiers) : List Nat :=
  [1, 2, 4, 8, 16, 32, 64, 128].filter fun bit => held.contains bit.toUInt8

end Modifiers

/-- The key that turns a press of the pointer into a jump. -/
inductive Trigger where
  | alt
  | control
  | shift
  | command
  | accelerator
  deriving DecidableEq, Repr

namespace Trigger

def all : List Trigger := [alt, control, shift, command, accelerator]

/-- The key's name in settings. -/
def name : Trigger → String
  | alt => "Alt"
  | control => "Control"
  | shift => "Shift"
  | command => "Meta"
  | accelerator => "AccelKey"

def ofName? (name : String) : Option Trigger :=
  all.find? (·.name == name)

/-- The bit of the key. The accelerator is the control key, as on every platform but macOS;
the branch for macOS, where it is the command key, is left out. -/
def bits : Trigger → UInt8
  | alt => Modifiers.alt
  | control => Modifiers.control
  | shift => Modifiers.shift
  | command => Modifiers.command
  | accelerator => Modifiers.control

end Trigger

inductive Gesture where
  | pointer (point : Point) (held : Modifiers)
  | keybinding

/-- The token a gesture means in an editor. -/
def Gesture.token? (gesture : Gesture) (trigger : Trigger) (editor : Editor) : Option Token :=
  match gesture with
  | pointer point held =>
      if held.contains trigger.bits then (editor.positionUnder? point).map editor.tokenAt
      else none
  | keybinding => some editor.tokenAtCursor

/-- Listens to the gestures on one editor. -/
structure Hook where
  editorId : String
  deriving DecidableEq, Repr

/-- The usage a gesture means on the hooked editor. -/
def Hook.usage? (hook : Hook) (trigger : Trigger) (gesture : Gesture) (jumper : Jumper) :
    Option Usage := do
  let index ← jumper.editors.findIdx? (·.id == hook.editorId)
  let editor ← jumper.editors[index]?
  let token ← gesture.token? trigger editor
  if token.isEmpty then none else return { token := token, cell := some index }

/-- Jumps to the definition of the token a gesture means. -/
def Hook.handle (hook : Hook) (trigger : Trigger) (gesture : Gesture) (jumper : Jumper)
    (history : History) : Bool × Jumper × History :=
  match hook.usage? trigger gesture jumper with
  | some usage => jumper.jumpToDefinition history usage
  | none => (false, jumper, history)

/-- The hooks by the ids of their editors. -/
structure Hooks where
  table : Keyed String Hook
  deriving Repr

namespace Hooks

def empty : Hooks := ⟨.empty⟩

def isRegistered (hooks : Hooks) (editorId : String) : Bool :=
  hooks.table.contains editorId

/-- Hooks an editor; false if it already was. -/
def register (hooks : Hooks) (editorId : String) : Bool × Hooks :=
  if hooks.isRegistered editorId then (false, hooks)
  else (true, ⟨hooks.table.insert editorId ⟨editorId⟩⟩)

/-- Drops the hook of an editor; false if there was none. -/
def unregister (hooks : Hooks) (editorId : String) : Bool × Hooks :=
  (hooks.isRegistered editorId, ⟨hooks.table.erase editorId⟩)

def size (hooks : Hooks) : Nat :=
  hooks.table.size

/-- Hands a gesture to the hook of its editor; without one nothing happens. -/
def dispatch (hooks : Hooks) (trigger : Trigger) (editorId : String) (gesture : Gesture)
    (jumper : Jumper) (history : History) : Bool × Jumper × History :=
  match hooks.table.get? editorId with
  | some hook => hook.handle trigger gesture jumper history
  | none => (false, jumper, history)

end Hooks

end SymbolJump
