import Notebook.Failure
import Notebook.Toml.Reader
import Notebook.Toml.Writer
import Notebook.World.Basic

/-! # Settings

Settings come from a file in which every key may be left out, and are overridden by environment
variables. A path that starts with `~` lies in the home directory.
-/

namespace Notebook

/-- What a user can set. -/
structure Settings where
  /-- Directory of the user's documents. -/
  basePath : Path
  /-- The document that is the start of the others, seen from there. -/
  baseFile : Text
  /-- Root of the workspace. -/
  tempPath : Path
  /-- Program that runs Python. -/
  python : Option Text
  /-- Program that runs Jai. -/
  jai : Option Text
  deriving DecidableEq, Repr

namespace Settings

/-- The settings of a user who has set nothing. -/
def default (world : World) : Settings where
  basePath := (world.home?.getD ".").join "mdl"
  baseFile := "index.md"
  tempPath := world.tempDir.join "mdl"
  python := none
  jai := none

/-- The path of the start document. -/
def baseFilePath (settings : Settings) : Path :=
  settings.basePath.join ⟨settings.baseFile⟩

/-- Resolves `~` at the start of a path. -/
def expandHome (world : World) (path : Path) : Path :=
  match path.below? ['~'], world.home? with
  | some rest, some home => home.join rest
  | _, _ => path

/-- The text that a document gives to a key: absent, there, or not a text. -/
def textField (document : Toml.Definitions) (key : Text) : Except Unit (Option Text) :=
  match document.lookup [key] with
  | none => .ok none
  | some (.value (.text contents)) => .ok (some contents)
  | some _ => .error ()

/-- The settings that a document holds; what it leaves out is as it is by default. -/
def ofDocument (world : World) (document : Toml.Definitions) : Except Unit Settings := do
  let known := default world
  let basePath ← textField document "base_path"
  let baseFile ← textField document "base_file"
  let tempPath ← textField document "temp_path"
  return {
    basePath := expandHome world ((basePath.map Path.mk).getD known.basePath)
    baseFile := baseFile.getD known.baseFile
    tempPath := expandHome world ((tempPath.map Path.mk).getD known.tempPath)
    python := ← textField document "python"
    jai := ← textField document "jai" }

/-- Reads the settings file at a path, if there is one. -/
def read? (world : World) (path : Path) : Except Failure (Option Settings) :=
  if world.files.pathExists world.cwd path then
    match world.files.readText world.cwd path with
    | .error cause => .error (.settings path cause.message)
    | .ok text =>
      match (Toml.read? text).map (ofDocument world) with
      | some (.ok settings) => .ok (some settings)
      | _ => .error (.malformedSettings path)
  else .ok none

/-- The value of an environment variable that is not empty. -/
def override? (world : World) (name : Text) : Option Text :=
  (world.getVar? name).filter (· ≠ [])

/-- The settings with what environment variables override. -/
def withOverrides (world : World) (settings : Settings) : Settings :=
  { settings with
    basePath := ((override? world "MDLAB_BASE_PATH").map fun path =>
      expandHome world ⟨path⟩).getD settings.basePath
    baseFile := (override? world "MDLAB_BASE_FILE").getD settings.baseFile
    tempPath := ((override? world "MDLAB_TEMP_PATH").map fun path =>
      expandHome world ⟨path⟩).getD settings.tempPath }

/-- The path of the user's settings file. -/
def userPath? (world : World) : Option Path :=
  world.settingsDir?.map fun dir => (dir.join "mdlab").join "config.toml"

/-- The settings of a run: of a named file, which must be there, or of the user's file. -/
def load (world : World) (named : Option Path) : Except Failure Settings := do
  let settings ←
    match named with
    | some path =>
      match ← read? world path with
      | some settings => .ok settings
      | none => .error (.settings path "file not found")
    | none =>
      match userPath? world with
      | some path => pure ((← read? world path).getD (default world))
      | none => pure (default world)
  return settings.withOverrides world

/-- The text of a settings file. -/
def render (settings : Settings) : Text :=
  Toml.renderField "base_path" settings.basePath.text ++
    Toml.renderField "base_file" settings.baseFile ++
    Toml.renderField "temp_path" settings.tempPath.text ++
    (settings.python.map (Toml.renderField "python")).getD [] ++
    (settings.jai.map (Toml.renderField "jai")).getD []

/-- Writes the settings to a file, making the directories on the way. -/
def save (settings : Settings) (world : World) (path : Path) : Except SystemError World := do
  let files ← path.parent?.elim (.ok world.files) (world.files.makeAllDirectories world.cwd)
  return { world with files := ← files.write world.cwd path (Utf8.encode settings.render) }

end Settings

end Notebook
