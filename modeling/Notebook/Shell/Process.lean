import Notebook.Program.Basic
import Notebook.Shell.Evaluation

/-! # Starting processes in a world

A process is run to its end in the files that it starts with, and what it does is given as what its
readers notice of it. They see what is written between two pauses at once, the output stream before
the error stream, in chunks of limited size.
-/

namespace Notebook.Shell

open Run

/-- The largest number of bytes that is read at once. -/
def chunkSize : Nat := 8192

/-- The chunks in which bytes are read, given how many there may be. -/
def chunksWithin : Nat → List UInt8 → List (List UInt8)
  | 0, _ | _, [] => []
  | n + 1, bytes => bytes.take chunkSize :: chunksWithin n (bytes.drop chunkSize)

/-- The chunks in which bytes are read. -/
def chunks (bytes : List UInt8) : List (List UInt8) :=
  chunksWithin bytes.length bytes

/-- The moments at which written pieces are noticed, the newest piece first. -/
def burst (stopped : Nat → FileTree) (output error : List (List UInt8)) : List (Moment FileTree) :=
  let moments (stream : Stream) (pieces : List (List UInt8)) : List (Moment FileTree) :=
    (chunks pieces.reverse.flatten).map fun bytes => ⟨.chunk stream bytes, stopped⟩
  moments .output output ++ moments .error error

/-- The moments that a log stands for, given what has been written since the last pause and what
stopping the process after the last entry leaves. -/
def momentsFrom (last : Nat → FileTree) :
    List (List UInt8) → List (List UInt8) → List Entry → List (Moment FileTree)
  | output, error, [] => burst last output error
  | output, error, .wrote .output bytes :: rest => momentsFrom last (bytes :: output) error rest
  | output, error, .wrote .error bytes :: rest => momentsFrom last output (bytes :: error) rest
  | output, error, .paused stopped :: rest =>
    burst stopped output error ++ momentsFrom last [] [] rest

/-- Runs an executable in a directory of a world to its end. -/
def runProcess (world : World) (executable : Executable) : Process FileTree :=
  let (result, state) :=
    (runExecutable depthBound executable).outcome (.ofWorld world executable.name)
  let last (_ : Nat) : FileTree :=
    match result with
    | .error .hangs => ((receive depthBound terminateSignal).outcome state).2.files
    | _ => state.files
  let exit :=
    match result with
    | .error (.killed _) => .signal
    | _ => .code (state.status % 256)
  ⟨momentsFrom last [] [] state.log.reverse, .ok exit, state.files⟩

/-- Starts a process. Its program is looked for from its own directory. -/
def start (world : World) (invocation : Invocation) : Except SystemError (Process World) := do
  match ← world.files.stat world.cwd invocation.cwd with
  | (_, .file _ _) => .error .notADirectory
  | (place, .directory) =>
    let executable ← Executable.find world.files place ((world.getVar? "PATH").getD [])
      invocation.program.text invocation.args
    let process := runProcess { world with cwd := place } executable
    let inWorld (files : FileTree) : World := { world with files := files }
    let moments := process.moments.map fun moment =>
      ⟨moment.sign, fun grace => inWorld (moment.stopped grace)⟩
    return ⟨moments, process.exit, inWorld process.world⟩

end Notebook.Shell
