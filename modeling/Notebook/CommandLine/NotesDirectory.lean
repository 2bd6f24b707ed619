import Notebook.CommandLine.Response
import Notebook.CommandLine.Style
import Notebook.Notes.Search
import Notebook.Notes.Welcome
import Notebook.Settings

/-! # Commands on the notes directory

Searching the notes of a user, and starting them.
-/

namespace Notebook.CommandLine

/-- The line that shows a hit. -/
def describeHit (hit : Notes.Hit) : Text :=
  Style.cyan.apply (['/'].intercalate hit.file) ++ ":" ++ Style.dim.apply (Text.ofNat hit.line) ++
    ": " ++ Text.trim hit.text

/-- Searches the notes for a phrase. -/
def search (settings : Settings) (world : World) (phrase : Text) : Response :=
  match world.files.stat world.cwd settings.basePath with
  | .ok (dir, .directory) =>
    .done world (Text.ofLines
      (match Notes.search world.files dir phrase with
      | [] => [Style.yellow.apply ("No matches for \"" ++ phrase ++ "\"")]
      | hits => hits.map describeHit))
  | _ => .refused world [] (.missingNotes settings.basePath)

/-- Starts the notes with their first document, unless it is there. -/
def start (settings : Settings) (world : World) : Response :=
  let path := settings.baseFilePath
  if world.files.pathExists world.cwd path then
    .done world (Text.ofLines [path.text ++ " already exists"])
  else
    match world.files.makeAllDirectories world.cwd settings.basePath with
    | .error cause => .refused world [] (.system cause)
    | .ok files =>
      match files.write world.cwd path (Utf8.encode Notes.welcome) with
      | .error cause => .refused { world with files := files } [] (.system cause)
      | .ok files =>
        .done { world with files := files }
          (Text.ofLines [Style.green.apply "Created" ++ " " ++ path.text])

end Notebook.CommandLine
