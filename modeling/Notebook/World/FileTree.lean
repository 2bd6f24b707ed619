import Notebook.Path
import Notebook.SystemError
import Notebook.Text.Utf8

/-! # File trees

A file tree holds directories and files at the places that names lead to from the root. An
operation takes the directory it starts from and a path; it walks the path name by name and fails
with the error of the first step that cannot be taken. There are no links, so where a path leads
does not depend on the tree.
-/

namespace Notebook

/-- The names that lead from the root to a place. -/
abbrev Place := List Text

/-- What is at a place. -/
inductive FileEntry where
  | directory
  | file (contents : List UInt8) (isExecutable : Bool)
  deriving DecidableEq, Repr

/-- Files and directories by place; the root is always a directory. -/
structure FileTree where
  entries : List (Place × FileEntry)
  deriving Repr

namespace FileTree

/-- The beginnings of a place, the place itself among them. -/
def beginnings (place : Place) : List Place :=
  (List.range (place.length + 1)).map fun n => place.take n

/-- A tree with nothing but the root. -/
def empty : FileTree := ⟨[]⟩

/-- What is at a place. -/
def get? (tree : FileTree) (place : Place) : Option FileEntry :=
  if place = [] then some .directory else tree.entries.lookup place

/-- Puts an entry at a place. -/
def set (tree : FileTree) (place : Place) (entry : FileEntry) : FileTree :=
  if tree.entries.any (·.1 = place) then
    ⟨tree.entries.map fun known => if known.1 = place then (place, entry) else known⟩
  else ⟨tree.entries ++ [(place, entry)]⟩

/-- Puts an entry at a place, with the directories that lead there. -/
def plant (tree : FileTree) (place : Place) (entry : FileEntry) : FileTree :=
  let missing := (beginnings place).dropLast.filter fun above => (tree.get? above).isNone
  (missing.foldl (fun tree above => tree.set above .directory) tree).set place entry

/-- Removes a place and all below it. -/
def remove (tree : FileTree) (place : Place) : FileTree :=
  ⟨tree.entries.filter fun known => !place.isPrefixOf known.1⟩

/-- The files below a place, by the names that lead there from it. -/
def filesBelow (tree : FileTree) (place : Place) : List (Place × List UInt8) :=
  tree.entries.filterMap fun (known, entry) =>
    match entry, place.isPrefixOf? known with
    | .file contents _, some rest => some (rest, contents)
    | _, _ => none

/-- Fails unless there is a directory at the place. -/
def needDirectory (tree : FileTree) (place : Place) : Except SystemError Unit :=
  match tree.get? place with
  | some .directory => .ok ()
  | some (.file _ _) => .error .notADirectory
  | none => .error .notFound

/-- The longest name the system takes, in bytes. -/
def maxNameLength : Nat := 255

/-- Walks along names; every step starts from a directory. -/
def walk (tree : FileTree) (place : Place) : List Text → Except SystemError Place
  | [] => .ok place
  | name :: rest => do
    tree.needDirectory place
    if name.byteLength > maxNameLength then .error .nameTooLong
    else walk tree (Path.step place name) rest

/-- The place of a path, which may be empty; the way there exists. -/
def locate (tree : FileTree) (start : Place) (path : Path) : Except SystemError Place := do
  if path.text.contains '\x00' then .error .nulInPath
  else if path.text = [] then .error .notFound
  else tree.walk (if path.isAbsolute then [] else start) path.names

/-- A path that ends with a slash names a directory. -/
def endsWithSlash (path : Path) : Bool :=
  path.text.getLast? = some '/'

/-- What a path leads to, with its place. -/
def stat (tree : FileTree) (start : Place) (path : Path) :
    Except SystemError (Place × FileEntry) := do
  let place ← tree.locate start path
  match tree.get? place with
  | none => .error .notFound
  | some entry =>
    if endsWithSlash path ∧ entry ≠ .directory then .error .notADirectory
    else .ok (place, entry)

/-- There is something at the path. -/
def pathExists (tree : FileTree) (start : Place) (path : Path) : Bool :=
  match tree.stat start path with
  | .ok _ => true
  | .error _ => false

/-- There is a directory at the path. -/
def isDirectory (tree : FileTree) (start : Place) (path : Path) : Bool :=
  match tree.stat start path with
  | .ok (_, .directory) => true
  | _ => false

/-- There is a file at the path. -/
def isFile (tree : FileTree) (start : Place) (path : Path) : Bool :=
  match tree.stat start path with
  | .ok (_, .file _ _) => true
  | _ => false

/-- There is a file at the path that can be run. -/
def isRunnable (tree : FileTree) (start : Place) (path : Path) : Bool :=
  match tree.stat start path with
  | .ok (_, .file _ isExecutable) => isExecutable
  | _ => false

/-- The bytes of the file at a path. -/
def read (tree : FileTree) (start : Place) (path : Path) : Except SystemError (List UInt8) := do
  match ← tree.stat start path with
  | (_, .file contents _) => .ok contents
  | (_, .directory) => .error .isADirectory

/-- The text of the file at a path. -/
def readText (tree : FileTree) (start : Place) (path : Path) : Except SystemError Text := do
  match Utf8.decode? (← tree.read start path) with
  | some text => .ok text
  | none => .error .notUtf8

/-- Makes a directory in one that exists. -/
def makeDirectory (tree : FileTree) (start : Place) (path : Path) :
    Except SystemError FileTree := do
  let place ← tree.locate start path
  if (tree.get? place).isSome then .error .alreadyExists
  else .ok (tree.set place .directory)

/-- Makes a directory and those on the way to it, given how many there may be. -/
def makeDirectories (tree : FileTree) (start : Place) : Nat → Path → Except SystemError FileTree
  | 0, _ => .ok tree
  | bound + 1, path =>
    if path.text = [] then .ok tree
    else
      match tree.makeDirectory start path with
      | .ok made => .ok made
      | .error .notFound =>
        match path.parent? with
        | none => .error .notFound
        | some parent => do
          let tree ← tree.makeDirectories start bound parent
          match tree.makeDirectory start path with
          | .ok made => .ok made
          | .error cause => if tree.isDirectory start path then .ok tree else .error cause
      | .error cause => if tree.isDirectory start path then .ok tree else .error cause

/-- Makes a directory and those on the way to it. -/
def makeAllDirectories (tree : FileTree) (start : Place) (path : Path) :
    Except SystemError FileTree :=
  tree.makeDirectories start (path.text.length + 1) path

/-- Writes a file into a directory that exists. -/
def write (tree : FileTree) (start : Place) (path : Path) (contents : List UInt8) :
    Except SystemError FileTree := do
  let place ← tree.locate start path
  match tree.get? place with
  | some .directory => .error .isADirectory
  | some (.file _ isExecutable) =>
    if endsWithSlash path then .error .notADirectory
    else .ok (tree.set place (.file contents isExecutable))
  | none =>
    if endsWithSlash path then .error .isADirectory
    else .ok (tree.set place (.file contents false))

/-- Removes the directory at a path with all below it. -/
def removeAll (tree : FileTree) (start : Place) (path : Path) : Except SystemError FileTree := do
  match ← tree.stat start path with
  | (place, .directory) => .ok (tree.remove place)
  | (_, .file _ _) => .error .notADirectory

end FileTree

end Notebook
