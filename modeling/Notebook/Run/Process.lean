import Notebook.Run.Outcome
import Notebook.SystemError

/-! # Processes as their readers see them

Of a running process, a reader sees chunks of two output streams until both have ended, and then
its exit. Meanwhile someone else may cancel the run. All of this is data here, in the order in which
it comes, so a statement about every process is a statement about every such value.

What a process does to the world depends on when it is told to stop, so the world it would leave
then is kept with each moment.
-/

namespace Notebook.Run

/-- The output streams of a process. -/
inductive Stream where
  | output
  | error
  deriving DecidableEq, Repr

/-- What a reader can notice of a running process. -/
inductive Sign where
  | chunk (stream : Stream) (bytes : List UInt8)
  /-- The stream has ended, or cannot be read any more. -/
  | ended (stream : Stream)
  /-- The run is cancelled by someone else. -/
  | cancelled
  deriving DecidableEq, Repr

/-- A sign, and the world that the process leaves if it is told to stop right after it. A process
that does not stop within the grace, given in milliseconds, is killed. -/
structure Moment (σ : Type) where
  sign : Sign
  stopped : (grace : Nat) → σ

/-- A process that has been started: what is noticed of it, how it ends if it is left alone, and the
world that it leaves then. When nothing is left to be noticed, both streams have ended. -/
structure Process (σ : Type) where
  moments : List (Moment σ)
  exit : Except SystemError Exit
  world : σ

end Notebook.Run
