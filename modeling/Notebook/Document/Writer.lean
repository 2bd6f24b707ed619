import Notebook.Cell
import Notebook.Fence
import Notebook.Language

/-! # Writing a document

Cells are written in order, each on a line of its own after its blank lines. A code cell keeps the
info text it was read with as long as that text still describes the cell; otherwise the info is
built from the abbreviation of the language and the directive.
-/

namespace Notebook.Document

/-- A line break of either kind. -/
def isLineBreak (c : Char) : Bool :=
  c = '\n' || c = '\r'

/-- The info text built from the language and the directive. -/
def freshInfo (cell : Cell) : Text :=
  tagOfLanguage (cell.language.getD []) ++
    match cell.directive with
    | some directive => " :" ++ directive.render
    | none => []

/-- The stored info text still describes the cell. -/
def infoDescribes (cell : Cell) (info : Text) : Bool :=
  languageOfTag (Fence.splitInfo info).1 = cell.language.getD [] ∧
    (Fence.splitInfo info).2 = cell.directive

/-- The info text of a code cell. -/
def writtenInfo (cell : Cell) : Text :=
  match cell.info with
  | some info => if infoDescribes cell info then info else freshInfo cell
  | none => freshInfo cell

/-- A fenced block; the body is empty or ends with a newline. -/
def fenced (indent info body : Text) : Text :=
  indent ++ Fence.mark ++ info ++ ['\n'] ++ body ++ indent ++ Fence.mark

/-- Adds the newline that a text lacks at its end. -/
def endLine (text : Text) : Text :=
  if text.getLast? = some '\n' then text else text ++ ['\n']

/-- The body of a code block: an empty content is no line, or one empty line. -/
def codeBody (cell : Cell) : Text :=
  if cell.content = [] ∧ !cell.blankBody then [] else cell.content ++ ['\n']

/-- The output block after a code cell; an empty output leaves none. -/
def outputBlock (cell : Cell) : Text :=
  match cell.output with
  | some output =>
    if output = [] then []
    else "\n\n" ++ fenced cell.outputIndent Fence.outputTag (endLine output)
  | none => []

/-- A cell without the blank lines around it. -/
def cellText (cell : Cell) : Text :=
  match cell.kind with
  | .prose => Text.dropEndWhile isLineBreak (cell.content.dropWhile isLineBreak)
  | .code => fenced cell.indent (writtenInfo cell) (codeBody cell) ++ outputBlock cell

/-- The cells after the first, each behind a newline and its blank lines. -/
def followingText (cells : List Cell) : Text :=
  cells.flatMap fun cell => '\n' :: cell.leading ++ cellText cell

/-- Writes cells as a text. -/
def serialize (cells : List Cell) : Text :=
  match cells with
  | [] => []
  | first :: rest =>
    cellText first ++ followingText rest ++ (cells.getLast?.map (·.trailing)).getD []

end Notebook.Document
