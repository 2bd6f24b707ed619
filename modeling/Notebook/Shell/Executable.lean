import Notebook.Shell.Utility
import Notebook.World.Basic

/-! # Executables

What a path leads to that is run as a program: a utility, the shell, or a script that names the
program it is run by in its first line.
-/

namespace Notebook.Shell

/-- A program with its arguments; the first is the name it is called by. -/
structure Executable where
  /-- The utility, unless the program is the shell. -/
  utility : Option Utility
  name : Text
  arguments : List Text
  deriving DecidableEq, Repr

namespace Executable

/-- The program that a script names in its first line, with the argument that may follow. -/
def interpreter? (contents : List UInt8) : Option (Text × List Text) :=
  match Utf8.decodeLossy contents with
  | '#' :: '!' :: rest =>
    let line : Text := Text.trim (rest.takeWhile (· ≠ '\n'))
    let program := line.takeWhile fun c => c ≠ ' ' && c ≠ '\t'
    let argument := Text.trim (line.drop program.length)
    if program = [] then none else some (program, [argument].filter (· ≠ []))
  | _ => none

/-- What a path is run as, given how many interpreters may run one another. -/
def resolveWithin (files : FileTree) (cwd : Place) :
    Nat → Path → Text → List Text → Except SystemError Executable
  | 0, _, _, _ => .error (.other "Too many levels of symbolic links (os error 40)")
  | n + 1, path, name, arguments => do
    match ← files.stat cwd path with
    | (_, .directory) => .error .permissionDenied
    | (place, .file contents isExecutable) =>
      let program? := Utility.programName? place
      if !isExecutable then .error .permissionDenied
      else if program? = some ("sh" : Text) then .ok ⟨none, name, arguments⟩
      else
        match program?.bind (List.lookup · Utility.names), interpreter? contents with
        | some utility, _ => .ok ⟨some utility, name, arguments⟩
        | none, some (program, options) =>
          resolveWithin files cwd n ⟨program⟩ program (options ++ path.text :: arguments)
        | none, none => .error .badExecutable

/-- The paths at which a program is looked for: the path itself, or its name in each directory of
the search path. -/
def candidates (searchPath : Text) (program : Text) : List Path :=
  if '/' ∈ program then [⟨program⟩]
  else (searchPath.splitOn ':').map fun directory =>
    (if directory = [] then "." else ⟨directory⟩ : Path).join ⟨program⟩

/-- Finds a program. Without one that can be run, the error is that of the last path that is there,
or else that there is none. -/
def find (files : FileTree) (cwd : Place) (searchPath program : Text) (arguments : List Text) :
    Except SystemError Executable :=
  let tried := (candidates searchPath program).map fun path =>
    resolveWithin files cwd 5 path path.text arguments
  match tried.find? fun result => result.toBool with
  | some found => found
  | none =>
    match tried.filterMap fun result =>
      match result with
      | .error cause => if cause = .notFound then none else some cause
      | .ok _ => none with
    | [] => .error .notFound
    | causes => .error (causes.getLast?.getD .notFound)

end Executable

end Notebook.Shell
