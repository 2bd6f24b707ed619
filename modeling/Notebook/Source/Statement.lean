import Notebook.Source.Mask

/-! # Statements of a cell

The lines of a cell are grouped into statements by the bracket depth of the masked source: a
statement starts at a line where the depth is zero and runs until the depth is zero again. Where a
statement belongs in a program is decided from its first line, masked and trimmed.
-/

namespace Notebook.Source

/-- Where a statement belongs in a program. -/
inductive Placement where
  /-- Among the imports. -/
  | imported
  /-- At module scope. -/
  | outer
  /-- Inside the entry point. -/
  | inner
  deriving DecidableEq, Repr

/-- What a character does to the bracket depth. -/
def depthStep (depth : Int) (c : Char) : Int :=
  if c = '{' ∨ c = '(' ∨ c = '[' then depth + 1
  else if c = '\x7d' ∨ c = ')' ∨ c = ']' then depth - 1
  else depth

/-- The depth after a line; closing brackets without an opening one do not count beyond it. -/
def lineDepth (depth : Nat) (line : List Glyph) : Nat :=
  ((Glyph.shownText line).foldl depthStep depth).toNat

/-- The lines of a source as glyphs, without their newlines. -/
def glyphLines (lexicon : Lexicon) (source : Text) : List (List Glyph) :=
  (glyphs lexicon source).splitOnP (·.shown = '\n')

/-- Groups lines into statements, given the depth before the first line. -/
def groupLines : Nat → List (List Glyph) → List (List (List Glyph))
  | _, [] => []
  | depth, line :: rest =>
    if lineDepth depth line = 0 then [line] :: groupLines 0 rest
    else
      match groupLines (lineDepth depth line) rest with
      | [] => [[line]]
      | statement :: others => (line :: statement) :: others

/-- The statements of a source. -/
def statements (lexicon : Lexicon) (source : Text) : List (List (List Glyph)) :=
  groupLines 0 (glyphLines lexicon source)

/-- The line that decides where a statement belongs. -/
def leadLine (statement : List (List Glyph)) : Text :=
  Text.trim (Glyph.shownText (statement.headD []))

/-- The source of a statement, each line ended by a newline. -/
def statementText (statement : List (List Glyph)) : Text :=
  Text.ofLines (statement.map Glyph.sourceText)

/-- A cell split by where its statements belong. -/
structure Routed where
  imports : List Text
  outer : Text
  inner : Text
  deriving DecidableEq, Repr

/-- Splits a source by a classifier of lead lines. -/
def route (lexicon : Lexicon) (classify : Text → Placement) (source : Text) : Routed :=
  let placed (placement : Placement) : List (List (List Glyph)) :=
    (statements lexicon source).filter fun statement => classify (leadLine statement) = placement
  ⟨(placed .imported).map fun statement => Text.trimEnd (statementText statement),
    (placed .outer).flatMap statementText, (placed .inner).flatMap statementText⟩

end Notebook.Source
