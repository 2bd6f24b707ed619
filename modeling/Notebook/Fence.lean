import Notebook.Directive

/-! # Fences

A code block opens with a line of three backticks and an info text, indented by nothing, a tab or
four spaces, and ends at the first line that starts, after blanks, with three backticks. The info
text is a language tag with an optional directive after a colon.
-/

namespace Notebook.Fence

/-- The mark of a fence line. -/
def mark : Text := "```"

/-- The tag of a block that holds the output of the cell before it. -/
def outputTag : Text := "text"

/-- The opening line of a code block. -/
structure Opener where
  /-- What stands before the backticks. -/
  indent : Text
  /-- What stands after the backticks, as written. -/
  info : Text
  deriving DecidableEq, Repr

/-- Takes the indentation off a line: four spaces, a tab, or nothing. -/
def unindent (line : Text) : Text × Text :=
  match (("    " : Text).isPrefixOf? line) with
  | some rest => ("    ", rest)
  | none =>
    match (['\t'].isPrefixOf? line) with
    | some rest => (['\t'], rest)
    | none => ([], line)

/-- Reads a line as an opener; a fence mark without info opens nothing. -/
def opener? (line : Text) : Option Opener :=
  let (indent, rest) := unindent line
  match mark.isPrefixOf? rest with
  | some info => if Text.isBlank info then none else some ⟨indent, info⟩
  | none => none

/-- The line ends an open block. -/
def isCloser (line : Text) : Bool :=
  mark.isPrefixOf line.trimStart

/-- The line that opens a block. -/
def Opener.render (opener : Opener) : Text :=
  opener.indent ++ mark ++ opener.info

/-- Splits an info text into tag and directive. -/
def splitInfo (info : Text) : Text × Option Directive :=
  match info.cut? ':' with
  | some (tag, raw) => (tag.trim, Directive.parse? raw)
  | none => (info.trim, none)

end Notebook.Fence
