/-
The history of jumps: where to return to.

Every editing surface has a stack of its own, which outlives the widget that
shows the surface.
-/

import SymbolJump.Keyed
import SymbolJump.Jump.Destination

namespace SymbolJump

/-- A surface that is edited: a file or a notebook, by its id. -/
inductive Surface where
  | file (id : String)
  | notebook (id : String)
  deriving DecidableEq, Repr

namespace Surface

/-- The surface as it appears in the history. -/
def label : Surface → String
  | file id => "file:" ++ id
  | notebook id => "notebook:" ++ id

/-- The surface as a widget. -/
def widgetLabel : Surface → String
  | file id => "file editor " ++ id
  | notebook id => "notebook " ++ id

end Surface

/-- The stacks of all surfaces, the latest destination of each first. A stack that was
emptied by returning is still known. -/
structure History where
  stored : Keyed Surface (List Destination)
  deriving Repr

namespace History

def empty : History := ⟨.empty⟩

/-- The destinations stored for a surface, the latest first. -/
def stack (history : History) (surface : Surface) : List Destination :=
  (history.stored.get? surface).getD []

def depth (history : History) (surface : Surface) : Nat :=
  (history.stack surface).length

/-- The number of destinations of all surfaces. -/
def size (history : History) : Nat :=
  history.stored.values.flatten.length

def isEmpty (history : History) : Bool :=
  history.size == 0

def store (history : History) (surface : Surface) (destination : Destination) : History :=
  ⟨history.stored.insert surface (destination :: history.stack surface)⟩

/-- Takes back the latest destination. -/
def recollect (history : History) (surface : Surface) : Option Destination × History :=
  match history.stack surface with
  | [] => (none, history)
  | latest :: rest => (some latest, ⟨history.stored.insert surface rest⟩)

/-- Drops the stack of a surface that was closed; says whether it was known. -/
def forget (history : History) (surface : Surface) : Bool × History :=
  (history.stored.contains surface, ⟨history.stored.erase surface⟩)

/-! ### The stack of one surface -/

@[simp] theorem stack_empty (surface : Surface) : empty.stack surface = [] := rfl

@[simp] theorem stack_store_self (history : History) (surface : Surface)
    (destination : Destination) :
    (history.store surface destination).stack surface = destination :: history.stack surface := by
  simp [store, stack]

theorem stack_store_of_ne (history : History) {surface other : Surface}
    (different : other ≠ surface) (destination : Destination) :
    (history.store surface destination).stack other = history.stack other := by
  simp [store, stack, Keyed.get?_insert_of_ne _ different]

@[simp] theorem recollect_fst (history : History) (surface : Surface) :
    (history.recollect surface).1 = (history.stack surface).head? := by
  unfold recollect
  split <;> simp [*]

@[simp] theorem stack_recollect_self (history : History) (surface : Surface) :
    (history.recollect surface).2.stack surface = (history.stack surface).tail := by
  unfold recollect
  split
  · simp [*]
  · next latest rest found =>
      rw [found]
      simp [stack]

theorem stack_recollect_of_ne (history : History) {surface other : Surface}
    (different : other ≠ surface) :
    (history.recollect surface).2.stack other = history.stack other := by
  unfold recollect
  split
  · rfl
  · simp [stack, Keyed.get?_insert_of_ne _ different]

@[simp] theorem stack_forget_self (history : History) (surface : Surface) :
    (history.forget surface).2.stack surface = [] := by
  simp [forget, stack]

theorem stack_forget_of_ne (history : History) {surface other : Surface}
    (different : other ≠ surface) :
    (history.forget surface).2.stack other = history.stack other := by
  simp [forget, stack, Keyed.get?_erase_of_ne _ different]

end History

end SymbolJump
