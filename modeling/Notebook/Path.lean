import Notebook.Text.Basic

/-! # Paths

A path is a text of components between slashes. Joining an absolute path to another replaces it;
the parent of a path leaves out its last component. Where the components of a path lead, from a
directory that is itself given by its components, is `Path.resolved`.
-/

namespace Notebook

/-- A path of the file system. -/
structure Path where
  text : Text
  deriving DecidableEq, Repr

namespace Path

instance : Coe String Path := ⟨fun literal => ⟨literal.toList⟩⟩

/-- The path starts at the root of the file system. -/
def isAbsolute (path : Path) : Bool :=
  path.text.head? = some '/'

/-- The path of `other` seen from `path`. -/
def join (path other : Path) : Path :=
  if other.isAbsolute then other
  else if path.text = [] ∨ path.text.getLast? = some '/' then ⟨path.text ++ other.text⟩
  else ⟨path.text ++ '/' :: other.text⟩

/-- The names between slashes; empty ones do not count. -/
def names (path : Path) : List Text :=
  (path.text.splitOn '/').filter (· ≠ [])

/-- A name that stands for the directory it is in. -/
def isHere (name : Text) : Bool :=
  name = [] ∨ name = ['.']

/-- The path without the names at its ends that stand for the directory they are in. -/
def stripped (path : Path) : Path :=
  let names := (path.text.splitOn '/').dropWhile isHere
  ⟨['/'].intercalate (names.reverse.dropWhile isHere).reverse⟩

/-- The path seen from `base`, which is a single name, if it lies there. -/
def below? (base : Text) (path : Path) : Option Path :=
  match path.text.splitOn '/' with
  | first :: rest => if first = base then some (stripped ⟨['/'].intercalate rest⟩) else none
  | [] => none

/-- The path without its last component; a root and an empty path have no parent. -/
def parent? (path : Path) : Option Path :=
  let names := path.text.splitOn '/'
  match names.reverse.dropWhile isHere with
  | [] => if path.text.head? = some '.' then some ⟨[]⟩ else none
  | _ :: before =>
    let isRooted := path.isAbsolute
    match before.dropWhile isHere with
    | [] =>
      if isRooted then some "/"
      else if names.head? = some ['.'] then some "." else some ⟨[]⟩
    | kept => some ⟨['/'].intercalate kept.reverse⟩

/-- The last component of a path, unless it is a way up. -/
def fileName? (path : Path) : Option Text :=
  match ((path.text.splitOn '/').filter (!isHere ·)).getLast? with
  | some name => if name = [ '.', '.'] then none else some name
  | none => none

/-- Takes one step along a path: `.` stays, `..` goes up, and the root is its own parent. -/
def step (key : List Text) (name : Text) : List Text :=
  if name = ['.'] then key
  else if name = ['.', '.'] then key.dropLast
  else key ++ [name]

/-- Where a path leads from a directory. -/
def resolved (base : List Text) (path : Path) : List Text :=
  path.names.foldl step (if path.isAbsolute then [] else base)

/-- The absolute path of the place that names lead to from the root. -/
def ofKey (key : List Text) : Path :=
  if key = [] then "/" else ⟨key.flatMap ('/' :: ·)⟩

end Path

end Notebook
