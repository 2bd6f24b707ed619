import Notebook.Cell
import Notebook.Document.Block
import Notebook.Language

/-! # Reading a document

The blocks of a document become cells in order. A block tagged `text` right after a code cell of
another language is the output of that cell, unless the cell has an output already; prose without
a visible character is left out. Empty lines in front of a block go to the cell made from it, and
those after the last block to the last cell. Empty lines at the start of the document are dropped,
and a text without a newline has no cells.
-/

namespace Notebook.Document

/-- Cells read so far, latest first, and the empty lines in front of the next block. -/
structure Reading where
  cells : List Cell
  blanks : Nat

namespace Reading

/-- A `text` block right after this cell is its output. -/
def acceptsOutput (cell : Cell) : Bool :=
  cell.isCode && cell.language ≠ some Fence.outputTag && cell.output.isNone

/-- The cell of a code block. -/
def codeCell (blanks : Nat) (opener : Fence.Opener) (body : List Text) : Cell :=
  { Cell.code (languageOfTag (Fence.splitInfo opener.info).1) (Text.ofPieces body) with
    directive := (Fence.splitInfo opener.info).2
    leading := List.replicate blanks '\n'
    indent := opener.indent
    blankBody := body = [[]]
    info := some opener.info }

/-- The cell of a prose stretch. -/
def proseCell (blanks : Nat) (lines : List Text) : Cell :=
  { Cell.prose (Text.ofPieces lines) with leading := List.replicate blanks '\n' }

/-- The cells after one more block. -/
def addBlock (cells : List Cell) (blanks : Nat) : Block → List Cell
  | .prose lines =>
    if (Text.ofPieces lines).isBlank then cells else proseCell blanks lines :: cells
  | .fenced opener body =>
    match cells with
    | previous :: earlier =>
      if (Fence.splitInfo opener.info).1 = Fence.outputTag ∧ acceptsOutput previous then
        { previous with output := some (Text.ofLines body), outputIndent := opener.indent } ::
          earlier
      else codeCell blanks opener body :: cells
    | [] => [codeCell blanks opener body]

/-- Takes up one block. -/
def add (reading : Reading) (placed : PlacedBlock) : Reading :=
  ⟨addBlock reading.cells reading.blanks placed.block, placed.blanks⟩

/-- The cells in order; the empty lines left over go to the last one. -/
def finish (reading : Reading) : List Cell :=
  match reading.cells with
  | last :: earlier =>
    ({ last with trailing := List.replicate reading.blanks '\n' } :: earlier).reverse
  | [] => []

end Reading

/-- Lines of a text as the reader sees them: a carriage return at the end does not count. -/
def readerLines (text : Text) : List Text :=
  text.pieces.map Text.dropReturn

/-- Reads a text into cells. -/
def parse (text : Text) : List Cell :=
  let lines := readerLines text
  if lines.length < 2 then []
  else ((Block.ofLines (lines.dropWhile List.isEmpty)).foldl Reading.add ⟨[], 0⟩).finish

end Notebook.Document
