import Notebook.Directive

/-! # Cells

A document is a list of cells. A cell is a stretch of prose or a code block; it keeps, beside its
content, what is needed to write the document back with its own spacing, indentation and tags.
Cells have no identifier: the position in the document is the identity.
-/

namespace Notebook

/-- Prose or code. -/
inductive CellKind where
  | prose
  | code
  deriving DecidableEq, Repr

/-- One cell of a document. -/
structure Cell where
  kind : CellKind
  /-- The language of a code cell, with abbreviations resolved. -/
  language : Option Text
  directive : Option Directive
  /-- The lines between the fences, or the prose. -/
  content : Text
  /-- Blank lines in front of the cell, a newline for each. -/
  leading : Text
  /-- Blank lines after the last cell. -/
  trailing : Text
  /-- The output block after a code cell. -/
  output : Option Text
  /-- Indentation of the fences. -/
  indent : Text
  /-- Indentation of the fences of the output block. -/
  outputIndent : Text
  /-- The block holds one empty line; an empty content alone does not tell. -/
  blankBody : Bool
  /-- The info text as written. -/
  info : Option Text
  deriving DecidableEq, Repr

namespace Cell

/-- A prose cell, set off by one blank line. -/
def prose (content : Text) : Cell where
  kind := .prose
  language := none
  directive := none
  content := content
  leading := ['\n']
  trailing := []
  output := none
  indent := []
  outputIndent := []
  blankBody := false
  info := none

/-- A code cell, set off by one blank line. -/
def code (language content : Text) : Cell :=
  { prose content with kind := .code, language := some language }

/-- The cell is a code block. -/
def isCode (cell : Cell) : Bool :=
  cell.kind = .code

/-- Replaces the output; an empty text leaves none. -/
def setOutput (cell : Cell) (output : Option Text) : Cell :=
  { cell with output := output.filter (· ≠ []) }

end Cell

end Notebook
