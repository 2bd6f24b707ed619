import Notebook.Output.Segment
import Notebook.Program.Basic
import Notebook.Failure
import Notebook.Run.Event
import Notebook.Run.Process

/-! # Supervising a process

A launch is supervised from its first preparation step to the end of its main process. Output is
collected as it comes, and the observer is told the output of the current cell whenever it has
changed. The run is cancelled as soon as its token is, which is looked at before each preparation
step, before the main process is started, and before anything is read or waited for; so a
cancellation wins over whatever is there at the same time.

The token may be cancelled by the observer, whenever it is told something, and by the world around.
-/

namespace Notebook.Run

/-- What a run finds around it, in a world that each preparation step and each process changes. -/
structure Surroundings (σ : Type) where
  /-- Someone has cancelled the run by now. -/
  isCancelled : σ → Bool
  /-- Runs a preparation step to its end; how it ends does not matter. -/
  prepare : σ → Invocation → σ
  /-- Starts a process. -/
  start : σ → Invocation → Except SystemError (Process σ)
  /-- How long a cancelled process may take to stop, in milliseconds. -/
  grace : Nat

/-- An observer is told events, and may cancel the run whenever it is told one. -/
abbrev Observer := Event → Bool

/-- How far the observer has been told about a run, and whether the run is cancelled. -/
structure Progress where
  isCancelled : Bool
  latch : Latch
  events : List Event
  deriving DecidableEq, Repr

namespace Progress

/-- A run of which nothing has been told. -/
def new (isCancelled : Bool) : Progress := ⟨isCancelled, Latch.new, []⟩

/-- Tells the observer an event. -/
def tell (progress : Progress) (observer : Observer) (event : Event) : Progress :=
  { progress with
    isCancelled := progress.isCancelled || observer event
    events := progress.events ++ [event] }

/-- Tells the observer the end of the run, unless it has been told. -/
def finish (progress : Progress) (observer : Observer) (position : Nat) (success : Bool) :
    Progress :=
  let (latch, events) := progress.latch.finish position success
  events.foldl (fun progress event => progress.tell observer event) { progress with latch := latch }

/-- Notes whether someone else has cancelled the run. -/
def heed (progress : Progress) (isCancelled : Bool) : Progress :=
  { progress with isCancelled := progress.isCancelled || isCancelled }

end Progress

/-- One launch to supervise, for the cell at a position. -/
structure Request where
  position : Nat
  launch : Launch
  /-- Number of the segment that holds the output of the cell. -/
  targetSegment : Nat
  suppressOutput : Bool
  deriving DecidableEq, Repr

/-- The launch of a program. -/
def Request.ofProgram (position : Nat) (launch : Launch) (program : Program) : Request :=
  ⟨position, launch, program.targetSegment, program.suppressOutput⟩

/-- What has been read of a process. -/
structure Reading where
  state : State
  /-- The streams that have ended. -/
  ended : List Stream
  collector : Output.Collector
  /-- The output that the observer was told last. -/
  shown : Option Text
  deriving DecidableEq, Repr

namespace Reading

/-- Nothing has been read. -/
def new (targetSegment : Nat) : Reading :=
  ⟨.started, [], Output.Collector.new targetSegment, none⟩

/-- Reads a chunk, and gives the output if it is to be told. -/
def receive (reading : Reading) (suppressOutput : Bool) (bytes : List UInt8) :
    Reading × Option Text :=
  let collector := reading.collector.push bytes
  let news :=
    if suppressOutput then none
    else collector.visible?.filter fun text => reading.shown ≠ some text
  ({ reading with
      state := .streaming
      collector := collector
      shown := news.or reading.shown }, news)

/-- Notices one sign; nothing comes from a stream that has ended. -/
def notice (reading : Reading) (suppressOutput : Bool) : Sign → Reading × Option Text
  | .chunk stream bytes =>
    if stream ∈ reading.ended then (reading, none) else reading.receive suppressOutput bytes
  | .ended stream =>
    if stream ∈ reading.ended then (reading, none)
    else ({ reading with ended := stream :: reading.ended }, none)
  | .cancelled => (reading, none)

end Reading

/-- How a supervised run ended. -/
structure Supervised (σ : Type) where
  result : Except Failure Outcome
  /-- The states that the run went through, in order. -/
  states : List State
  /-- The main process was started. -/
  hasStarted : Bool
  progress : Progress
  world : σ

section

variable {σ : Type}

/-- Runs the preparation steps, until one finds the run cancelled. -/
def prepare (surroundings : Surroundings σ) :
    Progress → σ → List Invocation → Progress × σ
  | progress, world, [] => (progress.heed (surroundings.isCancelled world), world)
  | progress, world, step :: rest =>
    let progress := progress.heed (surroundings.isCancelled world)
    if progress.isCancelled then (progress, world)
    else prepare surroundings progress (surroundings.prepare world step) rest

/-- The end of a cancelled run. -/
def endCancelled (observer : Observer) (position : Nat) (states : List State) (hasStarted : Bool)
    (progress : Progress) (world : σ) : Supervised σ :=
  ⟨.ok .cancelled, states ++ [.cancelled], hasStarted, progress.finish observer position false,
    world⟩

/-- The states of a run that has read so much. -/
def Reading.states (reading : Reading) : List State :=
  if reading.state = .streaming then [.idle, .started, .streaming] else [.idle, .started]

/-- The end of a run whose process has been waited for. -/
def endClosed (observer : Observer) (request : Request) (reading : Reading) (progress : Progress)
    (world : σ) : Except SystemError Exit → Supervised σ
  | .error cause => ⟨.error (.system cause), reading.states, true, progress, world⟩
  | .ok exit =>
    let success := exit.isSuccess || reading.collector.hasOutput
    let output := if request.suppressOutput then none else reading.collector.final?
    ⟨.ok ⟨.closed, success, output, some exit⟩, reading.states ++ [.closed], true,
      progress.finish observer request.position success, world⟩

/-- Reads a process to its end. -/
def follow (observer : Observer) (grace : Nat) (request : Request)
    (exit : Except SystemError Exit) (world : σ) :
    Progress → Reading → List (Moment σ) → Supervised σ
  | progress, reading, [] => endClosed observer request reading progress world exit
  | progress, reading, moment :: rest =>
    let (reading, news) := reading.notice request.suppressOutput moment.sign
    let progress := progress.heed (decide (moment.sign = .cancelled))
    let progress :=
      match news with
      | some text => progress.tell observer (.output request.position text)
      | none => progress
    if progress.isCancelled then
      endCancelled observer request.position reading.states true progress (moment.stopped grace)
    else follow observer grace request exit world progress reading rest

/-- Supervises a launch. -/
def supervise (surroundings : Surroundings σ) (observer : Observer) (request : Request)
    (progress : Progress) (world : σ) : Supervised σ :=
  let (progress, world) := prepare surroundings progress world request.launch.preparation
  if progress.isCancelled then
    endCancelled observer request.position [.idle] false progress world
  else
    match surroundings.start world request.launch.main with
    | .error cause =>
      ⟨.error (.spawn request.launch.main.program cause), [.idle, .errored], false,
        progress.finish observer request.position false, world⟩
    | .ok process =>
      follow observer surroundings.grace request process.exit process.world progress
        (Reading.new request.targetSegment) process.moments

end

end Notebook.Run
