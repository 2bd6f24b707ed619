import Notebook.Run.Process
import Notebook.Text.Utf8
import Notebook.World.Basic

/-! # State of a shell

A shell changes files and writes to its descriptors. What it writes to the streams of its process
is logged together with its pauses, since a reader sees the output between two pauses at once.

A shell that is told to terminate during a pause leaves the files that it would leave then, which
may depend on how long it may still take.
-/

namespace Notebook.Shell

open Run

/-- Where a descriptor leads. -/
inductive Descriptor where
  /-- What is written to it is lost. -/
  | nothing
  /-- An output stream of the process. -/
  | stream (stream : Stream)
  | file (place : Place)
  deriving DecidableEq, Repr

/-- What a process has done, seen from outside. -/
inductive Entry where
  | wrote (stream : Stream) (bytes : List UInt8)
  /-- It pauses, and leaves these files if it is told to terminate now. -/
  | paused (stopped : (grace : Nat) → FileTree)

/-- Why a shell does not go on to its next command. -/
inductive Interruption where
  | exits
  | killed (signal : Nat)
  /-- It never ends. -/
  | hangs
  deriving DecidableEq, Repr

/-- The state of a shell. -/
structure State where
  files : FileTree
  cwd : Place
  bindings : List (Text × Text)
  exported : List Text
  /-- What the script is called by. -/
  name : Text
  arguments : List Text
  status : Nat
  /-- The line of the current command. -/
  line : Nat
  descriptors : List (Nat × Descriptor)
  /-- What is done about signals. -/
  traps : List (Nat × Text)
  /-- The newest entry first. -/
  log : List Entry

/-- A step of a shell. -/
abbrev Task := ExceptT Interruption (StateM State)

/-- The process number that scripts see. -/
def processNumber : Nat := 4242

/-- The signal that asks a process to terminate. -/
def terminateSignal : Nat := 15

/-- The signal that no process can do anything about. -/
def killSignal : Nat := 9

/-- The number of a signal, given by number or name. -/
def signalNumber? (text : Text) : Option Nat :=
  let signals : List (Text × Nat) :=
    [("HUP", 1), ("INT", 2), ("QUIT", 3), ("KILL", killSignal), ("TERM", terminateSignal)]
  (signals.lookup (Text.dropOne text "SIG")).or (Text.toNat? text)

namespace State

/-- The value of a variable. -/
def getVar? (state : State) (name : Text) : Option Text :=
  state.bindings.lookup name

/-- Gives a variable a value. -/
def setVar (state : State) (name value : Text) : State :=
  { state with bindings := (name, value) :: state.bindings.filter (·.1 ≠ name) }

/-- Lets a descriptor lead somewhere, or nowhere. -/
def setDescriptor (state : State) (number : Nat) (descriptor : Option Descriptor) : State :=
  let others := state.descriptors.filter (·.1 ≠ number)
  { state with descriptors := (descriptor.toList.map (number, ·)) ++ others }

/-- Writes to a descriptor, unless it is closed. -/
def write? (state : State) (number : Nat) (bytes : List UInt8) : Option State :=
  if bytes = [] then some state
  else
    (state.descriptors.lookup number).map fun descriptor =>
      match descriptor with
      | .nothing => state
      | .stream stream => { state with log := .wrote stream bytes :: state.log }
      | .file place =>
        match state.files.get? place with
        | some (.file contents isExecutable) =>
          { state with files := state.files.set place (.file (contents ++ bytes) isExecutable) }
        | _ => state

/-- The state in which a program starts that a shell runs. Of what the shell does about signals,
only that it ignores some stays. -/
def forProgram (state : State) (name : Text) : State :=
  { state with
    bindings := state.bindings.filter fun (name, _) => state.exported.contains name
    name := name
    arguments := []
    line := 1
    traps := state.traps.filter fun (_, action) => action = [] }

/-- The state of a process that starts in a world. -/
def ofWorld (world : World) (name : Text) : State where
  files := world.files
  cwd := world.cwd
  bindings := world.bindings ++ [(("PWD" : Text), (Path.ofKey world.cwd).text)]
  exported := world.bindings.map (·.1)
  name := name
  arguments := []
  status := 0
  line := 1
  descriptors := [(1, .stream .output), (2, .stream .error)]
  traps := []
  log := []

end State

/-- Stops the shell. -/
def interrupt {α : Type} (interruption : Interruption) : Task α :=
  throw interruption

/-- Sets the status. -/
def setStatus (status : Nat) : Task Unit :=
  modify fun state => { state with status := status }

/-- Writes to a descriptor; tells whether it is open. -/
def put (number : Nat) (bytes : List UInt8) : Task Bool := do
  match (← get).write? number bytes with
  | some state =>
    set state
    return true
  | none => return false

/-- Reports an error of the current command. -/
def complain (message : Text) : Task Unit := do
  let state ← get
  let place : Text := state.name ++ ": " ++ Text.ofNat state.line ++ ": "
  let _ ← put 2 (Utf8.encode (place ++ message ++ "\n"))

/-- Reports an error that ends the shell. -/
def abort {α : Type} (message : Text) : Task α := do
  complain message
  setStatus 2
  interrupt .exits

/-- The outcome of a step that starts in a state. -/
def Task.outcome (task : Task Unit) (state : State) : Except Interruption Unit × State :=
  task.run.run state

/-- Repeats a step as long as it asks for it, at most as often as the limit; beyond that the shell
counts as one that never ends. -/
def repeatWhile (step : Task Bool) : Nat → Task Unit
  | 0 => interrupt .hangs
  | limit + 1 => do if ← step then repeatWhile step limit

/-- Runs a step as a process of its own, of which only the files, the output and the status stay. -/
def asChild (task : Task Unit) : Task Unit := do
  let parent ← get
  let (result, child) := task.outcome parent
  set { parent with files := child.files, log := child.log, status := child.status }
  match result with
  | .error .hangs => interrupt .hangs
  | .error (.killed signal) =>
    setStatus (128 + signal)
    if signal = killSignal then let _ ← put 2 (Utf8.encode ("Killed\n" : Text))
    if signal = terminateSignal then let _ ← put 2 (Utf8.encode ("Terminated\n" : Text))
  | _ => pure ()

end Notebook.Shell
