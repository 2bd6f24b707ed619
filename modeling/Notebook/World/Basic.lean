import Notebook.World.FileTree

/-! # The world of a run

What a run finds around it: the file tree, the directory it is in, and the environment variables.
-/

namespace Notebook

/-- Files, working directory and environment variables. -/
structure World where
  files : FileTree
  cwd : Place
  bindings : List (Text × Text)
  deriving Repr

namespace World

/-- The value of an environment variable. -/
def getVar? (world : World) (name : Text) : Option Text :=
  world.bindings.lookup name

/-- The home directory. -/
def home? (world : World) : Option Path :=
  (world.getVar? "HOME").map Path.mk

/-- The directory for temporary files. -/
def tempDir (world : World) : Path :=
  ((world.getVar? "TMPDIR").map Path.mk).getD "/tmp"

/-- The directory for settings of programs. -/
def settingsDir? (world : World) : Option Path :=
  ((world.getVar? "XDG_CONFIG_HOME").bind fun dir =>
    if (Path.mk dir).isAbsolute then some ⟨dir⟩ else none).or
    (world.home?.map fun home => home.join ".config")

/-- The directories that programs are searched in. -/
def searchPath (world : World) : List Path :=
  (((world.getVar? "PATH").getD []).splitOn ':').map Path.mk

end World

end Notebook
