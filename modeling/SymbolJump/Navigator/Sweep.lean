/-
Sweeps over freshly opened notebooks.

The cells of a new notebook cannot be hooked right away, so a sweep over them
is due a fixed time after the notebook came. Times are milliseconds.
-/

import SymbolJump.Keyed

namespace SymbolJump

/-- The time from the opening of a notebook to its sweep. -/
def sweepDelay : Nat := 2000

/-- The deadlines of the sweeps that have not run. -/
structure Sweeps where
  deadlines : Keyed String Nat
  deriving Repr

namespace Sweeps

def empty : Sweeps := ⟨.empty⟩

def isScheduled (sweeps : Sweeps) (notebook : String) : Bool :=
  sweeps.deadlines.contains notebook

/-- Schedules a sweep and gives its deadline; one already scheduled keeps its own. -/
def schedule (sweeps : Sweeps) (notebook : String) (now : Nat) : Nat × Sweeps :=
  match sweeps.deadlines.get? notebook with
  | some deadline => (deadline, sweeps)
  | none => (now + sweepDelay, ⟨sweeps.deadlines.insert notebook (now + sweepDelay)⟩)

/-- Drops a sweep; false if there was none. -/
def cancel (sweeps : Sweeps) (notebook : String) : Bool × Sweeps :=
  (sweeps.isScheduled notebook, ⟨sweeps.deadlines.erase notebook⟩)

/-- The earliest deadline. -/
def next? (sweeps : Sweeps) : Option Nat :=
  sweeps.deadlines.values.min?

/-- Earlier deadlines come first, and at one deadline the ids decide. -/
def comesBefore (left right : String × Nat) : Bool :=
  left.2 < right.2 || (left.2 == right.2 && decide (left.1 ≤ right.1))

/-- Takes out the notebooks whose deadline has come, in order. -/
def due (sweeps : Sweeps) (now : Nat) : List String × Sweeps :=
  let ready := sweeps.deadlines.entries.filter fun entry => entry.2 ≤ now
  ((ready.mergeSort comesBefore).map Prod.fst,
    ⟨⟨sweeps.deadlines.entries.filter fun entry => now < entry.2⟩⟩)

end Sweeps

end SymbolJump
