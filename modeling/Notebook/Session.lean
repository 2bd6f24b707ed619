import Notebook.Image
import Notebook.Program.Build
import Notebook.Run.Supervision
import Notebook.Toolchain

/-! # Sessions

A session runs cells of one document. Running a cell builds the program of its history, writes it to
the workspace, finds a tool for it and supervises the tool. A run that succeeds leaves its output in
the cell and gives the images of a following prose cell new versions.

Whatever becomes of a run, its observer is told the end of it once, and last.
-/

namespace Notebook

open Run

/-- What a session finds around it, beyond what supervising a process takes. -/
structure Environment (σ : Type) extends Surroundings σ where
  /-- Writes a file of the workspace, unless it is there already and is not to be replaced. -/
  write : σ → (path : Path) → (contents : Text) → (overwrite : Bool) → Except SystemError Unit × σ
  /-- Finds a tool that runs a family. -/
  locate : σ → Family → Except Failure Toolchain

/-- A session of a document. -/
structure Session where
  /-- Root of the workspace. -/
  workspace : Path
  /-- The family that a program was written for last. -/
  lastFamily : Option Family
  deriving DecidableEq, Repr

namespace Session

/-- A session in which nothing has run. -/
def new (workspace : Path) : Session := ⟨workspace, none⟩

/-- The entry file of the program that was written last. -/
def mainFile? (session : Session) : Option Path :=
  session.lastFamily.map (ProgramContext.mk session.workspace none).entryPath

/-- What the run of a cell leaves. -/
structure CellRun (σ : Type) where
  result : Except Failure Outcome
  session : Session
  cells : List Cell
  /-- The main process was started. -/
  hasStarted : Bool
  progress : Progress
  world : σ

/-- The run ends here, for a reason that needs no process. -/
def CellRun.ended {σ : Type} (run : CellRun σ) (result : Except Failure Outcome) : CellRun σ :=
  { run with result := result }

/-- Gives the images of a prose cell new versions. -/
def withNewImages (cell : Cell) : Cell :=
  if cell.isCode then cell
  else { cell with content := (bumpImages? cell.content).getD cell.content }

/-- The cells after a run of one of them has succeeded. -/
def keepOutput (cells : List Cell) (position : Nat) (output : Option Text) : List Cell :=
  let cells :=
    match output with
    | some text => cells.modify position fun cell => cell.setOutput (some text)
    | none => cells
  cells.modify (position + 1) withNewImages

/-- The cells after a run of one of them that got as far as finding a tool. The old output is given
up; there is a new one only if the run has succeeded. -/
def cellsAfter (cells : List Cell) (position : Nat) (result : Except Failure Outcome) : List Cell :=
  let cleared := cells.modify position fun cell => cell.setOutput none
  match result with
  | .ok outcome => if outcome.success then keepOutput cleared position outcome.output else cleared
  | .error _ => cleared

section

variable {σ : Type}

/-- Writes files of the workspace, up to the first that cannot be written. -/
def writeFiles (environment : Environment σ) : σ → List ScaffoldFile → Except SystemError Unit × σ
  | world, [] => (.ok (), world)
  | world, file :: rest =>
    match environment.write world file.path file.contents file.overwrite with
    | (.error cause, world) => (.error cause, world)
    | (.ok (), world) => writeFiles environment world rest

/-- Writes a program to the workspace and supervises it. -/
def runProgram (environment : Environment σ) (observer : Observer) (context : ProgramContext)
    (position : Nat) (family : Family) (program : Program) (run : CellRun σ) : CellRun σ :=
  let entry : ScaffoldFile := ⟨family.entryFile, program.source, true⟩
  match writeFiles environment run.world (entry :: program.files) with
  | (.error cause, world) => { run with world := world, result := .error (.system cause) }
  | (.ok (), world) =>
    let session := { run.session with lastFamily := some family }
    let run := { run with world := world, session := session }
    match environment.locate world family with
    | .error failure => run.ended (.error failure)
    | .ok toolchain =>
      let launch := Program.launch family context toolchain.path program
      let supervised := supervise environment.toSurroundings observer
        (.ofProgram position launch program) run.progress world
      { run with
        result := supervised.result
        cells := cellsAfter run.cells position supervised.result
        hasStarted := supervised.hasStarted
        progress := supervised.progress
        world := supervised.world }

/-- The program that a code cell is run by, with its family. -/
def programFor (context : ProgramContext) (cells : List Cell) (position : Nat) (cell : Cell) :
    Except Failure (Family × Program) :=
  let language := cell.language.getD []
  match Family.ofLanguage? language with
  | none => .error (.unsupportedLanguage language)
  | some family =>
    match History.collect cells position with
    | .error cause => .error (.ofHistoryError cause)
    | .ok history => .ok (family, Program.build family context history)

/-- Runs a code cell as its directive and its language ask for. -/
def runCode (environment : Environment σ) (observer : Observer) (documentDir : Option Path)
    (position : Nat) (cell : Cell) (run : CellRun σ) : CellRun σ :=
  match cell.directive with
  | some .skip => run.ended (.ok .immediate)
  | some (.create file) =>
    let (written, world) := environment.write run.world ⟨file⟩ cell.content true
    { run with
      world := world
      result := (written.map fun _ => .immediate).mapError .system }
  | _ =>
    let context : ProgramContext := ⟨run.session.workspace, documentDir⟩
    match programFor context run.cells position cell with
    | .error failure => run.ended (.error failure)
    | .ok (family, program) => runProgram environment observer context position family program run

/-- Runs the cell at a position, up to the report of its end. -/
def attempt (environment : Environment σ) (observer : Observer) (documentDir : Option Path)
    (session : Session) (cells : List Cell) (position : Nat) (isCancelled : Bool) (world : σ) :
    CellRun σ :=
  let run : CellRun σ :=
    ⟨.error (.cellNotFound position), session, cells, false, .new isCancelled, world⟩
  match cells[position]? with
  | none => run
  | some cell =>
    if cell.isCode then
      runCode environment observer documentDir position cell
        { run with progress := run.progress.tell observer (.started position) }
    else run.ended (.error (.notACodeCell position))

/-- The result counts as success. -/
def isSuccess : Except Failure Outcome → Bool
  | .ok outcome => outcome.success
  | .error _ => false

/-- Runs the cell at a position. -/
def runCell (environment : Environment σ) (observer : Observer) (documentDir : Option Path)
    (session : Session) (cells : List Cell) (position : Nat) (isCancelled : Bool) (world : σ) :
    CellRun σ :=
  let run := attempt environment observer documentDir session cells position isCancelled world
  { run with progress := run.progress.finish observer position (isSuccess run.result) }

/-- What running the cells of a document leaves. -/
structure DocumentRun (σ : Type) where
  results : List (Nat × Except Failure Outcome)
  session : Session
  cells : List Cell
  isCancelled : Bool
  events : List Event
  world : σ

/-- The positions of the cells that can be run. -/
def runnablePositions (cells : List Cell) : List Nat :=
  cells.zipIdx.filterMap fun (cell, position) =>
    if cell.isCode ∧ (cell.language.bind Family.ofLanguage?).isSome then some position else none

/-- Runs the cells at some positions, until the run is cancelled. -/
def runPositions (environment : Environment σ) (observer : Observer) (documentDir : Option Path) :
    DocumentRun σ → List Nat → DocumentRun σ
  | done, [] => done
  | done, position :: rest =>
    let isCancelled := done.isCancelled || environment.isCancelled done.world
    if isCancelled then { done with isCancelled := true }
    else
      let run := runCell environment observer documentDir done.session done.cells position
        isCancelled done.world
      runPositions environment observer documentDir
        ⟨done.results ++ [(position, run.result)], run.session, run.cells,
          run.progress.isCancelled, done.events ++ run.progress.events, run.world⟩ rest

/-- Runs every cell that can be run, in the order of the document. -/
def runAll (environment : Environment σ) (observer : Observer) (documentDir : Option Path)
    (session : Session) (cells : List Cell) (isCancelled : Bool) (world : σ) : DocumentRun σ :=
  runPositions environment observer documentDir ⟨[], session, cells, isCancelled, [], world⟩
    (runnablePositions cells)

end

end Session

end Notebook
