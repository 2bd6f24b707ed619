import Notebook.Text.CaseFold
import Notebook.World.Basic

/-! # Searching notes

Notes are the Markdown files below a directory, except those in hidden directories. A search gives
the lines that mention a phrase regardless of case, file by file in the order of their names. A file
that is no text mentions nothing.
-/

namespace Notebook.Notes

/-- A line that mentions what is searched for. -/
structure Hit where
  /-- The names that lead to the file from the directory of the notes. -/
  file : Place
  /-- Number of the line, counted from one. -/
  line : Nat
  text : Text
  deriving DecidableEq, Repr

/-- The name is that of a Markdown file. -/
def isMarkdown (name : Text) : Bool :=
  match (".md" : Text).isSuffixOf? name with
  | some stem => stem ≠ []
  | none => false

/-- The name is that of a hidden file or directory. -/
def isHidden (name : Text) : Bool :=
  name.head? = some '.'

/-- The names lead to a note. -/
def isNote (place : Place) : Bool :=
  match place.getLast? with
  | some name => isMarkdown name && !place.dropLast.any isHidden
  | none => false

/-- The notes below a directory, in the order of their names. -/
def filesBelow (files : FileTree) (dir : Place) : List (Place × List UInt8) :=
  ((files.filesBelow dir).filter fun (place, _) => isNote place).mergeSort
    fun first second => (compare first.1 second.1).isLE

/-- The lines of a file that mention a phrase. -/
def hitsIn (phrase : Text) (place : Place) (contents : List UInt8) : List Hit :=
  match Utf8.decode? contents with
  | none => []
  | some text =>
    text.lines.zipIdx.filterMap fun (line, index) =>
      if Text.mentions line phrase then some ⟨place, index + 1, line⟩ else none

/-- The lines of the notes below a directory that mention a phrase. -/
def search (files : FileTree) (dir : Place) (phrase : Text) : List Hit :=
  (filesBelow files dir).flatMap fun (place, contents) => hitsIn phrase place contents

end Notebook.Notes
