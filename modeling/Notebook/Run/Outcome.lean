import Notebook.Text.Basic

/-! # Outcomes of runs

A run goes through a few states and ends in one that it cannot leave. What it leaves behind is its
outcome: how it ended, whether that counts as success, and the output to keep.
-/

namespace Notebook.Run

/-- How a process ended. -/
inductive Exit where
  | code (value : Nat)
  /-- Killed by a signal. -/
  | signal
  deriving DecidableEq, Repr

/-- The text of an exit. -/
def Exit.render : Exit → Text
  | .code value => "exit code " ++ Text.ofNat value
  | .signal => "terminated by signal"

/-- The process ended well. -/
def Exit.isSuccess (exit : Exit) : Bool :=
  exit = .code 0

/-- The states of a run. -/
inductive State where
  | idle
  /-- The process is there. -/
  | started
  /-- Some output has come. -/
  | streaming
  /-- The process has ended on its own. -/
  | closed
  /-- The process could not be started. -/
  | errored
  /-- The run was cancelled before the process ended. -/
  | cancelled
  deriving DecidableEq, Repr

namespace State

/-- A run in this state can no longer change it. -/
def isTerminal : State → Bool
  | .closed | .errored | .cancelled => true
  | .idle | .started | .streaming => false

/-- The text of a state. -/
def render : State → Text
  | .idle => "idle"
  | .started => "started"
  | .streaming => "streaming"
  | .closed => "closed"
  | .errored => "errored"
  | .cancelled => "cancelled"

end State

/-- What a run leaves behind. -/
structure Outcome where
  state : State
  success : Bool
  /-- The output to keep in the document, if there is any to keep. -/
  output : Option Text
  /-- Only of a process that ended on its own. -/
  exit : Option Exit
  deriving DecidableEq, Repr

namespace Outcome

/-- The outcome of a run that needs no process. -/
def immediate : Outcome := ⟨.closed, true, none, none⟩

/-- The outcome of a cancelled run. -/
def cancelled : Outcome := ⟨.cancelled, false, none, none⟩

end Outcome

end Notebook.Run
