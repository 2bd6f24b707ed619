import Notebook.Program.Basic
import Notebook.Text.Quoted

/-! # Python programs

Python has no entry point, so cells follow each other at module scope under a header that makes
modules beside the document and in the workspace importable. Calls of `print` flush, so that output
appears as it is made, and a last line that is a bare value is printed. A cell whose first line is
`# file: name` is also written to that file.
-/

namespace Notebook.Python

/-- The lines before the first cell. -/
def header (context : ProgramContext) : Text :=
  let appendPath (dir : Path) : Text := "sys.path.append(" ++ dir.text.quoted ++ ")\n"
  "import sys\n" ++ (context.documentDir.map appendPath).getD [] ++
    appendPath context.workspace ++ "from builtins import *\n"

/-- The name after `# file:`. -/
def fileName? (line : Text) : Option Text :=
  if ("#file:" : Text).isPrefixOf (line.filter fun c => !isBlank c) then
    (line.cut? ':').bind fun (_, name) => if name.trim = [] then none else some name.trim
  else none

/-- Adds `flush=True` to a line that is one call of `print`. -/
def flushLine (line : Text) : Text :=
  match ("print(" : Text).isPrefixOf? line.trimStart with
  | none => line
  | some _ =>
    if line.trimEnd.getLast? = some ')' ∧ !line.hasPhrase "flush=" then
      let close := line.trimEnd.length - 1
      let opened := (line.takeWhile isBlank).length + ("print(" : Text).length
      let arguments := (line.take close).drop opened
      line.take close ++
        (if Text.trim arguments = [] then "flush=True" else ", flush=True") ++ line.drop close
    else line

/-- Adds `flush=True` to every line that is one call of `print`. -/
def addFlush (content : Text) : Text :=
  Text.ofPieces (content.pieces.map flushLine)

/-- Names that are statements and have no value. -/
def statementWords : List Text :=
  ["pass", "break", "continue", "return", "raise", "else", "try", "finally"]

/-- A line that is a value to print, with an optional `!` in front. -/
def isBareValue (line : Text) : Bool :=
  let value := line.dropOne "!"
  value ≠ [] && !(line.head? = some ' ' || line.head? = some '\t') && !line.contains '#' &&
    !line.trim.contains ' ' && line.getLast? ≠ some ')' &&
    !(value.contains '=' || value.contains ':' || value.contains '(') &&
    !statementWords.contains value

/-- Prints the last line of a cell if it is a bare value, prettily if it has a `!` in front. -/
def printValue (line : Text) : Text :=
  if isBareValue line then
    match ("!" : Text).isPrefixOf? line with
    | some value => "from pprint import pprint\npprint(" ++ value ++ ")\nsys.stdout.flush()"
    | none => "print(" ++ line ++ ", flush=True)"
  else line

/-- Prints the value of the last line. -/
def printLast : List Text → List Text
  | [] => []
  | [line] => [printValue line]
  | line :: rest => line :: printLast rest

/-- The lines of a cell in the program; a `# file:` line is left out. -/
def cellLines (content : Text) : List Text :=
  let lines := (addFlush content.trim).pieces
  match lines with
  | [] => []
  | line :: rest => if (fileName? line).isSome then printLast rest else printLast lines

/-- The file that a cell is written to. -/
def cellFile? (content : Text) : Option ScaffoldFile :=
  let name := (addFlush content.trim).pieces.head?.bind fileName?
  (name.filter (· ≠ ("main.py" : Text))).map fun name =>
    ⟨⟨name⟩, content.trim ++ ['\n'], true⟩

/-- The text of an entry after its marker. -/
def block (planned : PlannedEntry) : Text :=
  if planned.role.contributes then Text.ofLines (cellLines planned.entry.content) else []

/-- The program of a history. -/
def program (context : ProgramContext) (history : History) : Program :=
  let source := header context ++ history.plan.flatMap fun planned =>
    '\n' :: Family.python.markerStatement ++ block planned
  { Program.ofHistory history source with
    files := (history.plan.filter (·.role.contributes)).filterMap fun planned =>
      cellFile? planned.entry.content }

/-- How a Python program is run. -/
def launch (context : ProgramContext) (tool : Path) : Launch :=
  ⟨[], ⟨tool, [(context.entryPath .python).text], context.workingDir⟩⟩

end Notebook.Python
