import Notebook.Text.Basic

/-! # Events of a run

What an observer of runs is told, and the latch that lets the end of a run be told only once: a
process that exits and a cancellation may both try to end the same run.
-/

namespace Notebook.Run

/-- What an observer is told; each event names the position of the cell. -/
inductive Event where
  | started (position : Nat)
  /-- The output so far. -/
  | output (position : Nat) (text : Text)
  | finished (position : Nat) (success : Bool)
  deriving DecidableEq, Repr

/-- Guards the end of one run. -/
structure Latch where
  isDone : Bool
  deriving DecidableEq, Repr

/-- A latch of a run that has not ended. -/
def Latch.new : Latch := ⟨false⟩

/-- Reports the end of a run unless it has been reported. -/
def Latch.finish (latch : Latch) (position : Nat) (success : Bool) : Latch × List Event :=
  (⟨true⟩, if latch.isDone then [] else [.finished position success])

end Notebook.Run
