import Notebook.Family
import Notebook.History

/-! # Programs

A program replays a history from scratch: before the content of each entry it prints the boundary
marker, so that the output can be cut into one segment for each entry. Building a program is plain
text assembly and never fails; malformed cells are reported by the language's own tools.
-/

namespace Notebook

/-- Where a program is built for. -/
structure ProgramContext where
  /-- Root of the workspace that programs are written to. -/
  workspace : Path
  /-- Directory of the document, if it has one. -/
  documentDir : Option Path
  deriving DecidableEq, Repr

namespace ProgramContext

/-- Directory for programs that read files next to the document. -/
def workingDir (context : ProgramContext) : Path :=
  context.documentDir.getD context.workspace

/-- The family's entry file. -/
def entryPath (context : ProgramContext) (family : Family) : Path :=
  context.workspace.join family.entryFile

/-- The family's directory. -/
def familyDir (context : ProgramContext) (family : Family) : Path :=
  context.workspace.join family.dir

end ProgramContext

/-- A file written beside the entry file. -/
structure ScaffoldFile where
  /-- Seen from the workspace. -/
  path : Path
  contents : Text
  /-- Replaces a file that exists. -/
  overwrite : Bool
  deriving DecidableEq, Repr

/-- A program that replays a history. -/
@[ext]
structure Program where
  /-- Text of the entry file. -/
  source : Text
  /-- The output is not kept. -/
  suppressOutput : Bool
  /-- Number of markers the program prints. -/
  boundaries : Nat
  /-- Number of the segment that holds the output of the current cell. -/
  targetSegment : Nat
  /-- Packages the program needs. -/
  dependencies : List Text
  files : List ScaffoldFile
  deriving DecidableEq, Repr

/-- A program with one boundary for each entry of the history. -/
def Program.ofHistory (history : History) (source : Text) : Program :=
  ⟨source, history.suppressesOutput, history.length, history.length, [], []⟩

/-- A process to run. -/
structure Invocation where
  program : Path
  args : List Text
  cwd : Path
  deriving DecidableEq, Repr

/-- The process as a command line. -/
def Invocation.render (invocation : Invocation) : Text :=
  invocation.program.text ++ invocation.args.flatMap (' ' :: ·)

/-- How a program is run. -/
structure Launch where
  /-- Processes that are run to their end first. -/
  preparation : List Invocation
  main : Invocation
  deriving DecidableEq, Repr

/-- Adds what a list does not have yet, in order. -/
def addNew (known more : List Text) : List Text :=
  more.foldl (fun known item => if item ∈ known then known else known ++ [item]) known

/-- What one entry adds to a program whose cells are split by where their statements belong. -/
structure Contribution where
  imports : List Text
  /-- Text at module scope. -/
  outer : Text
  /-- Text inside the entry point, after the entry's marker. -/
  body : Text
  deriving DecidableEq, Repr

namespace Contribution

/-- What an entry that is left out adds. -/
def empty : Contribution := ⟨[], [], []⟩

/-- The imports of all contributions, each once. -/
def allImports (first : List Text) (contributions : List Contribution) : List Text :=
  contributions.foldl (fun known contribution => addNew known contribution.imports) first

/-- The text at module scope of all contributions. -/
def allOuter (contributions : List Contribution) : Text :=
  contributions.flatMap (·.outer)

/-- The bodies of all contributions, each behind a marker statement. -/
def allBodies (indent : Text) (family : Family) (contributions : List Contribution) : Text :=
  contributions.flatMap fun contribution =>
    indent ++ family.markerStatement ++ contribution.body

end Contribution

end Notebook
