/-
The settings and how new ones come into effect.

A document gives the trigger by its name, or by a table with the name as only
key and nothing under it; without it the trigger is the alt key. Other keys are
left to others. A document that cannot be used changes nothing.
-/

import SymbolJump.Gesture
import SymbolJump.Toml.Value

namespace SymbolJump

structure Settings where
  trigger : Trigger := .alt
  deriving DecidableEq, Repr

/-- Why no document could be had from the settings files. -/
inductive LoadError where
  | unreadable (path : Path)
  | malformed (path : Path)
  deriving DecidableEq, Repr

def LoadError.path : LoadError → Path
  | unreadable path => path
  | malformed path => path

namespace Settings

/-- Whether nothing stands under a name. -/
def isHollow : Toml.Value → Bool
  | .array [] => true
  | .table [] => true
  | _ => false

/-- The trigger that a value names. -/
def triggerOf? : Toml.Value → Option Trigger
  | .string name => Trigger.ofName? name
  | .table [(name, value)] => if isHollow value then Trigger.ofName? name else none
  | _ => none

/-- The settings of a document. -/
def decode? (document : Toml.Value) : Option Settings :=
  match document.get? "modifier" with
  | none => some {}
  | some value => (triggerOf? value).map fun trigger => { trigger := trigger }

/-- Why settings stay as they are. -/
inductive Warning where
  | unloaded
  | invalid
  deriving DecidableEq, Repr

def Warning.message : Warning → String
  | unloaded => "failed to load settings, keeping previous values"
  | invalid => "invalid settings, keeping previous values"

/-- The settings after a reload and the trigger then in effect. -/
structure Reloaded where
  settings : Settings
  trigger : Trigger
  warning : Option Warning := none
  deriving DecidableEq, Repr

/-- Brings a loaded document into effect. On failure the current settings and the trigger
in effect stay. -/
def reload (current : Settings) (trigger : Trigger) :
    Except LoadError Toml.Value → Reloaded
  | .error _ => { settings := current, trigger := trigger, warning := some .unloaded }
  | .ok document =>
      match decode? document with
      | some settings => { settings := settings, trigger := settings.trigger }
      | none => { settings := current, trigger := trigger, warning := some .invalid }

end Settings

end SymbolJump
