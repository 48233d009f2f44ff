/-
What a program sees of a disk.

The operations are those of any monad, so that the same program runs on a real
disk and on a tree of files in memory.
-/

import SymbolJump.Path

namespace SymbolJump

/-- What a path leads to. -/
inductive Found where
  | absent
  /-- The path goes through something that is not a directory, or is no path at all. -/
  | blocked
  | directory
  | file (bytes : ByteArray)

namespace Found

/-- Whether there is something at the path. -/
def isThere : Found → Bool
  | absent => false
  | blocked => false
  | directory => true
  | file _ => true

/-- The text of a file in UTF-8. -/
def text? : Found → Option String
  | file bytes => String.fromUTF8? bytes
  | _ => none

end Found

structure Disk (m : Type → Type) where
  look : Path → m Found
  /-- Adds text to the end of a file, which is made if need be; false if that fails. -/
  append : Path → String → m Bool

/-- Whether a path leads to something. -/
def Disk.contains {m : Type → Type} [Monad m] (disk : Disk m) (path : Path) : m Bool :=
  return (← disk.look path).isThere

/-- A disk with states, on which looking shows a view of the state and leaves it. -/
structure Disk.Shows {σ : Type} (disk : Disk (StateM σ)) (view : σ → Path → Found) : Prop where
  run_look : ∀ path state, (disk.look path).run state = (view state path, state)

theorem Disk.Shows.run_look_bind {σ α : Type} {disk : Disk (StateM σ)} {view : σ → Path → Found}
    (shows : disk.Shows view) (path : Path) (next : Found → StateM σ α) (state : σ) :
    (disk.look path >>= next).run state = (next (view state path)).run state := by
  rw [StateT.run_bind, shows.run_look]
  rfl

end SymbolJump
