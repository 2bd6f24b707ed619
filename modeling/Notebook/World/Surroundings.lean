import Notebook.Session
import Notebook.Shell.Process
import Notebook.Workspace

/-! # Sessions in a world

What a session finds around it in a world of files and programs: a workspace to write to, tools on
the search path, and processes.
-/

namespace Notebook.World

/-- How long a cancelled process may take to stop unless something else is asked for. -/
def defaultGrace : Nat := 2000

/-- Runs a preparation step. -/
def prepare (world : World) (step : Invocation) : World :=
  match Shell.start world step with
  | .ok process => process.world
  | .error _ => world

/-- What supervising a process finds in a world, in which nobody else cancels anything. -/
def surroundings (grace : Nat) : Run.Surroundings World where
  isCancelled _ := false
  prepare := prepare
  start := Shell.start
  grace := grace

/-- What a session with a workspace finds in a world; `python` and `jai` name tools that are used
instead of those of the families. -/
def environment (workspace : Path) (python jai : Option Text) (grace : Nat) :
    Environment World where
  toSurroundings := surroundings grace
  write world path contents overwrite :=
    let (written, world) := Workspace.write workspace world path contents overwrite
    (written.map fun _ => (), world)
  locate world family := Toolchain.select world python jai family

end Notebook.World
