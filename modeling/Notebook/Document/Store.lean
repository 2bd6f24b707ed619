import Notebook.Document.Reader
import Notebook.Document.Writer
import Notebook.Failure
import Notebook.World.Basic

/-! # Documents in files

Reading a document from a file of a world and writing it back.
-/

namespace Notebook.Document

/-- Reads the document at a path. -/
def load (world : World) (path : Path) : Except Failure (List Cell) :=
  match world.files.readText world.cwd path with
  | .ok text => .ok (parse text)
  | .error cause => .error (.readDocument path cause.message)

/-- Writes a document to the file at a path. -/
def save (world : World) (path : Path) (cells : List Cell) : Except Failure World :=
  match world.files.write world.cwd path (Utf8.encode (serialize cells)) with
  | .ok files => .ok { world with files := files }
  | .error cause => .error (.writeDocument path cause.message)

end Notebook.Document
