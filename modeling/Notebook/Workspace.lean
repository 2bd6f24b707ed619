import Notebook.Failure
import Notebook.Family
import Notebook.World.Basic

/-! # The workspace

Programs and files of cells are written below one directory. A file that has the wanted contents
already is not written again, and one that a tool keeps up to date itself is written only once.
-/

namespace Notebook.Workspace

/-- The path of a file of the workspace; an absolute path stays. -/
def resolve (root path : Path) : Path :=
  root.join path

/-- The file has the contents already, or is not to be replaced. -/
def isSettled (world : World) (path : Path) (contents : Text) (overwrite : Bool) : Bool :=
  world.files.pathExists world.cwd path &&
    (!overwrite ||
      match world.files.readText world.cwd path with
      | .ok known => known = contents
      | .error _ => false)

/-- Writes a file of the workspace, making the directories on the way. -/
def write (root : Path) (world : World) (path : Path) (contents : Text) (overwrite : Bool) :
    Except SystemError Path × World :=
  let target := resolve root path
  if isSettled world target contents overwrite then (.ok target, world)
  else
    match target.parent?.elim (.ok world.files) (world.files.makeAllDirectories world.cwd) with
    | .error cause => (.error cause, world)
    | .ok files =>
      match files.write world.cwd target (Utf8.encode contents) with
      | .ok files => (.ok target, { world with files := files })
      | .error cause => (.error cause, { world with files := files })

/-- Removes the workspace; tells whether there was one. -/
def clean (root : Path) (world : World) : Except SystemError Bool × World :=
  if world.files.pathExists world.cwd root then
    match world.files.removeAll world.cwd root with
    | .ok files => (.ok true, { world with files := files })
    | .error cause => (.error cause, world)
  else (.ok false, world)

end Notebook.Workspace
