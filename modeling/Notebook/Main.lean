import Notebook.CommandLine.Answer

/-! # The program

The files that a command line may be about are read into a world: those below the working directory,
the settings, the notes, the workspace, and the tools on the search path. The command line is
answered in that world, and what has changed in it is written back.
-/

namespace Notebook.Main

/-- The environment variables that are looked at. -/
def variableNames : List String :=
  ["HOME", "PATH", "TMPDIR", "XDG_CONFIG_HOME", "MDLAB_BASE_PATH", "MDLAB_BASE_FILE",
    "MDLAB_TEMP_PATH"]

/-- The environment variables that are set. -/
def readVariables : IO (List (Text × Text)) :=
  variableNames.filterMapM fun name => do
    return (← IO.getEnv name).map fun value => (name.toList, value.toList)

/-- Reads what is at a path and below it, down to a depth; what cannot be read is left out. -/
def readBelow : Nat → FileTree → Path → IO FileTree
  | 0, files, _ => return files
  | depth + 1, files, path => do
    let here := (← IO.currentDir) / String.ofList path.text
    try
      if ← here.isDir then
        let entries ← here.readDir
        entries.foldlM (fun files entry =>
            readBelow depth files (path.join ⟨entry.fileName.toList⟩))
          (files.plant path.names .directory)
      else
        let contents ← IO.FS.readBinFile here
        return files.plant path.names (.file contents.toList false)
    catch _ => return files

/-- How deep directories may lie in one another. -/
def depthBound : Nat := 32

/-- Reads the tool at a path. Of one that is no script only its presence is known. -/
def readTool (files : FileTree) (path : Path) : IO FileTree := do
  let here := (← IO.currentDir) / String.ofList path.text
  try
    let handle ← IO.FS.Handle.mk here .read
    let mark ← handle.read 2
    let contents ← if mark.toList = [35, 33] then IO.FS.readBinFile here else pure .empty
    return files.plant path.names (.file contents.toList true)
  catch _ => return files

/-- Reads some paths into a world. -/
def readPaths (reader : FileTree → Path → IO FileTree) (world : World) (paths : List Path) :
    IO World := do
  let files ← paths.foldlM (fun files path => reader files ((Path.ofKey world.cwd).join path))
    world.files
  return { world with files := files }

/-- The paths at which the tools of families may be. -/
def toolPaths (world : World) : List Path :=
  (Family.languages.map (·.2)).eraseDups.flatMap fun family =>
    family.programs.flatMap (Toolchain.candidates world) ++
      (world.home?.map family.fallbacks).getD []

/-- The settings file that a command line names. -/
def namedSettings? : CommandLine.Call → Option Path
  | .request settings _ => settings
  | _ => none

/-- Reads the world that a command line is answered in. -/
def readWorld (arguments : List Text) : IO World := do
  let cwd := (Path.mk (← IO.currentDir).toString.toList).names
  let utilities := Shell.Utility.places.foldl (fun files place => files.plant place (.file [] true))
    FileTree.empty
  let world : World := ⟨utilities.plant cwd .directory, cwd, ← readVariables⟩
  let named := namedSettings? (.ofArguments arguments)
  let documents := (arguments.map Path.mk).filter Path.isAbsolute
  let world ← readPaths (readBelow depthBound) world
    (⟨[]⟩ :: documents ++ named.toList ++ (Settings.userPath? world).toList)
  let world ← readPaths readTool world (toolPaths world)
  match Settings.load world named with
  | .ok settings => readPaths (readBelow depthBound) world [settings.basePath, settings.tempPath]
  | .error _ => return world

/-- The entries are the same. -/
def isSame : FileEntry → FileEntry → Bool
  | .directory, .directory => true
  | .file first _, .file second _ => first.toArray == second.toArray
  | _, _ => false

/-- Writes back what has changed. -/
def writeChanges (before after : FileTree) : IO Unit := do
  let root ← IO.currentDir
  for (place, entry) in after.entries do
    let here := root / String.ofList (Path.ofKey place).text
    if !(before.get? place).any (isSame entry) then
      match entry with
      | .directory => IO.FS.createDirAll here
      | .file contents _ => IO.FS.writeBinFile here ⟨contents.toArray⟩
  for (place, entry) in before.entries.reverse do
    let here := root / String.ofList (Path.ofKey place).text
    if (after.get? place).isNone then
      match entry with
      | .directory => IO.FS.removeDir here
      | .file _ _ => IO.FS.removeFile here

end Notebook.Main

open Notebook

/-- Answers a command line. -/
def main (arguments : List String) : IO UInt32 := do
  let arguments := arguments.map String.toList
  let world ← Main.readWorld arguments
  let answer := CommandLine.answer world arguments
  Main.writeChanges world.files answer.world.files
  IO.print (String.ofList answer.printed)
  IO.eprint (String.ofList answer.reported)
  return UInt32.ofNat answer.exit
