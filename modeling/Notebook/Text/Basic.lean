import Notebook.Text.Blank

/-! # Text

A text is the list of its characters, so that every rule about documents and programs is a
recursion over characters. `String` occurs where text enters and leaves the library, and string
literals stand for texts through a coercion.

The operations here are the vocabulary of the other modules: trimming, cutting at the first
occurrence of a character or a phrase, lines and words.
-/

namespace Notebook

/-- A text, character by character. -/
abbrev Text := List Char

instance coeString : Coe String (List Char) := ⟨String.toList⟩

namespace Text

/-- Number of bytes of the text in UTF-8. -/
def byteLength (text : Text) : Nat :=
  text.foldl (fun total c => total + c.utf8Size) 0

/-- Leaves out the longest run of characters of the class at the end. -/
def dropEndWhile (p : Char → Bool) (text : Text) : Text :=
  text.foldr (fun c rest => if rest.isEmpty && p c then [] else c :: rest) []

/-- Leaves out blanks at the start. -/
def trimStart (text : Text) : Text :=
  text.dropWhile isBlank

/-- Leaves out blanks at the end. -/
def trimEnd (text : Text) : Text :=
  text.dropEndWhile isBlank

/-- Leaves out blanks at both ends. -/
def trim (text : Text) : Text :=
  text.trimStart.trimEnd

/-- The text holds nothing but blanks. -/
def isBlank (text : Text) : Bool :=
  text.all Notebook.isBlank

/-- Cuts at the first occurrence of a character, which is in neither part. -/
def cut? (mark : Char) : Text → Option (Text × Text)
  | [] => none
  | c :: rest =>
    if c = mark then some ([], rest)
    else (cut? mark rest).map fun (before, after) => (c :: before, after)

/-- Cuts at the first occurrence of a phrase, which is in neither part. -/
def cutPhrase? (text phrase : Text) : Option (Text × Text) :=
  match phrase.isPrefixOf? text with
  | some after => some ([], after)
  | none =>
    match text with
    | [] => none
    | c :: rest => (cutPhrase? rest phrase).map fun (before, after) => (c :: before, after)

/-- The phrase occurs in the text. -/
def hasPhrase (text phrase : Text) : Bool :=
  (text.cutPhrase? phrase).isSome

/-- The text after a phrase at its start, or the whole text. -/
def dropOne (text phrase : Text) : Text :=
  (phrase.isPrefixOf? text).getD text

/-- Leaves out occurrences of a phrase at the start, at most as many as the bound. -/
def dropRepeated (phrase : Text) : Nat → Text → Text
  | 0, text => text
  | bound + 1, text =>
    match phrase.isPrefixOf? text with
    | some rest => dropRepeated phrase bound rest
    | none => text

/-- Leaves out every occurrence of a non-empty phrase at the start. -/
def dropLeading (text phrase : Text) : Text :=
  dropRepeated phrase text.length text

/-- The pieces between newlines; there is always at least one. -/
def pieces (text : Text) : List Text :=
  text.splitOn '\n'

/-- Leaves out one carriage return at the end. -/
def dropReturn (line : Text) : Text :=
  (['\r'].isSuffixOf? line).getD line

/-- Joins lines by newlines. -/
def ofPieces (lines : List Text) : Text :=
  ['\n'].intercalate lines

/-- The lines of a text: a newline ends a line, with a carriage return before it, and text after
the last newline is a line as it stands. -/
def lines (text : Text) : List Text :=
  let pieces := text.pieces
  pieces.dropLast.map dropReturn ++ pieces.getLast?.toList.filter (· ≠ [])

/-- The words of a text, separated by blanks. -/
def words (text : Text) : List Text :=
  (text.splitOnP Notebook.isBlank).filter (· ≠ [])

/-- The text shown with every line ended by a newline. -/
def ofLines (lines : List Text) : Text :=
  lines.flatMap (· ++ ['\n'])

/-- The decimal digits of a number. -/
def ofNat (n : Nat) : Text :=
  n.repr.toList

/-- The number that a text of decimal digits stands for. -/
def toNat? (text : Text) : Option Nat :=
  if text ≠ [] ∧ text.all Char.isDigit then
    some (text.foldl (fun n c => 10 * n + (c.toNat - '0'.toNat)) 0)
  else none

/-- The text with spaces before it, up to a width. -/
def alignRight (width : Nat) (text : Text) : Text :=
  List.replicate (width - text.length) ' ' ++ text

/-- The text with spaces after it, up to a width. -/
def alignLeft (width : Nat) (text : Text) : Text :=
  text ++ List.replicate (width - text.length) ' '

end Text

end Notebook
