import Notebook.Failure
import Notebook.Family
import Notebook.World.Basic

/-! # Toolchains

The program that runs a language is looked for by name in the directories of the search path, and
then at the places where its installer may have put it.
-/

namespace Notebook

/-- A program that was found, by its name and its path. -/
structure Toolchain where
  program : Text
  path : Path
  deriving DecidableEq, Repr

namespace Toolchain

/-- The paths at which a program may be. A name with a directory in it is not searched for. -/
def candidates (world : World) (program : Text) : List Path :=
  let names := (Path.mk program).names
  let isPath := (Path.mk program).isAbsolute ∨ names.length > 1
  if program = [] then []
  else if isPath then
    if (Path.mk program).isAbsolute then [⟨program⟩]
    else [(Path.ofKey world.cwd).join ⟨['/'].intercalate (names.dropWhile (· = ['.']))⟩]
  else (world.searchPath.filter (·.text ≠ [])).map fun dir => dir.join ⟨program⟩

/-- The path of a program that can be run. -/
def find? (world : World) (program : Text) : Option Path :=
  (candidates world program).find? fun path => world.files.isRunnable world.cwd path

/-- Finds the first of the programs that is there, or else the first of the fallbacks. -/
def locate (world : World) (programs : List Text) (fallbacks : List Path) (installUrl : Text) :
    Except Failure Toolchain :=
  match programs.findSome? fun program => (find? world program).map fun path => ⟨program, path⟩ with
  | some toolchain => .ok toolchain
  | none =>
    match fallbacks.find? fun path => world.files.isFile world.cwd path with
    | some path => .ok ⟨path.fileName?.getD [], path⟩
    | none => .error (.toolchainMissing (programs.head?.getD []) installUrl)

/-- Finds the program of a family. -/
def ofFamily (world : World) (family : Family) : Except Failure Toolchain :=
  locate world family.programs ((world.home?.map family.fallbacks).getD []) family.installUrl

/-- Finds the program of a family; a program named in the settings is the only candidate. -/
def select (world : World) (python jai : Option Text) (family : Family) :
    Except Failure Toolchain :=
  let chosen :=
    match family with
    | .python => python
    | .jai => jai
    | _ => none
  match chosen with
  | some program => locate world [program] [] family.installUrl
  | none => ofFamily world family

end Toolchain

end Notebook
