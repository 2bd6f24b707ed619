import Notebook.Cell

/-! # History of a run

A run of a cell replays the earlier cells of its language. The history lists them in document
order, ending at the cell itself, and the plan gives each entry its role in the program. Whatever
its role, an entry owns one boundary of the output, so output segments and entries have the same
numbers.
-/

namespace Notebook

/-- A code cell of the history. -/
structure HistoryEntry where
  /-- Number in the history, from one, and of the output segment. -/
  index : Nat
  /-- Position in the document. -/
  position : Nat
  content : Text
  directive : Option Directive
  deriving DecidableEq, Repr

/-- How an entry takes part in a program. -/
inductive Role where
  /-- Before the last `restart`. -/
  | dropped
  /-- Left out by its own directive. -/
  | skipped
  /-- At module scope. -/
  | global
  /-- Inside the entry point. -/
  | body
  deriving DecidableEq, Repr

/-- The entry's content is part of the program. -/
def Role.contributes : Role → Bool
  | .global | .body => true
  | .dropped | .skipped => false

/-- An entry with its role. -/
structure PlannedEntry where
  entry : HistoryEntry
  role : Role
  /-- The entry is the cell being run. -/
  isCurrent : Bool
  deriving DecidableEq, Repr

/-- Why a position has no history. -/
inductive HistoryError where
  | missing (position : Nat)
  | notCode (position : Nat)
  deriving DecidableEq, Repr

/-- The cells of one language up to the cell being run. -/
structure History where
  entries : List HistoryEntry
  deriving DecidableEq, Repr

namespace History

/-- Numbers sources, each with its position, content and directive. -/
def number (sources : List (Nat × Text × Option Directive)) : History :=
  ⟨sources.zipIdx.map fun ((position, content, directive), i) =>
    ⟨i + 1, position, content, directive⟩⟩

/-- The history of sources that are not in a document. -/
def ofSources (sources : List (Text × Option Directive)) : History :=
  number (sources.zipIdx.map fun ((content, directive), i) => (i, content, directive))

/-- The code cells of a language among the first cells of a document, with their positions. -/
def sourcesOf (language : Option Text) (cells : List Cell) : List (Nat × Text × Option Directive) :=
  cells.zipIdx.filterMap fun (cell, position) =>
    if cell.isCode ∧ cell.language = language then
      some (position, cell.content, cell.directive)
    else none

/-- The history of the code cell at a position. -/
def collect (cells : List Cell) (position : Nat) : Except HistoryError History :=
  match cells[position]? with
  | none => .error (.missing position)
  | some cell =>
    if cell.isCode then .ok (number (sourcesOf cell.language (cells.take (position + 1))))
    else .error (.notCode position)

/-- The entry of the cell being run. -/
def current? (history : History) : Option HistoryEntry :=
  history.entries.getLast?

/-- Number of entries. -/
def length (history : History) : Nat :=
  history.entries.length

/-- The cell being run asks for its output to be left alone. -/
def suppressesOutput (history : History) : Bool :=
  history.current?.any fun entry => entry.directive = some .clear

/-- Number of entries before the last `restart`. -/
def restartBase (history : History) : Nat :=
  let restarts := history.entries.zipIdx.filter fun (entry, _) => entry.directive = some .restart
  (restarts.getLast?.map (·.2)).getD 0

/-- The role of an entry, given whether it is before the last `restart` and whether it is
current. -/
def roleOf (isDropped isCurrent : Bool) (directive : Option Directive) : Role :=
  if isDropped then .dropped
  else
    match directive with
    | some .skip | some (.create _) => .skipped
    | some .once => if isCurrent then .body else .skipped
    | some .global => .global
    | _ => .body

/-- The entries with their roles. -/
def plan (history : History) : List PlannedEntry :=
  history.entries.zipIdx.map fun (entry, i) =>
    let isCurrent := decide (i + 1 = history.length)
    ⟨entry, roleOf (decide (i < history.restartBase)) isCurrent entry.directive, isCurrent⟩

end History

end Notebook
