import Notebook.CommandLine.Response
import Notebook.CommandLine.Style
import Notebook.Document.Store
import Notebook.Settings
import Notebook.World.Surroundings

/-! # Commands on the workspace

Running cells of a document and reporting how they end, telling where the program of a language is
written to, and removing the workspace.

A process of a world takes no time of its own, so every duration is reported as zero.
-/

namespace Notebook.CommandLine

/-- Tells where the program of a language is written to. -/
def entryFile (settings : Settings) (world : World) (language : Text) : Response :=
  match Family.ofLanguage? (languageOfTag language) with
  | none => .failed world (.unsupportedLanguage language)
  | some family =>
    .done world (Text.ofLines [((ProgramContext.mk settings.tempPath none).entryPath family).text])

/-- Removes the workspace. -/
def clean (settings : Settings) (world : World) : Response :=
  let root := settings.tempPath
  match Workspace.clean root world with
  | (.error cause, world) => .failed world (.system cause)
  | (.ok true, world) =>
    .done world (Text.ofLines [Style.green.apply "Removed" ++ " " ++ root.text])
  | (.ok false, world) => .done world (Text.ofLines ["Nothing to clean at " ++ root.text])

/-- The text of a duration. -/
def duration : Text := "0.00s"

/-- The line between the parts of a report. -/
def rule : Text := List.replicate 50 '─'

/-- The lines a run begins with. -/
def heading (document : Path) : List Text :=
  [[], Style.bold.apply "mdlab" ++ " - Running " ++ Style.cyan.apply document.text, rule]

/-- The lines that are printed while cells run. -/
def progressLines (events : List Run.Event) : List Text :=
  events.filterMap fun event =>
    match event with
    | .started position => some (Style.dim.apply ("Running cell " ++ Text.ofNat position ++ "..."))
    | _ => none

/-- The lines on a cell that has been run. -/
def reportOutcome (position : Nat) (language : Text) (outcome : Run.Outcome) : List Text :=
  let style : Style := if outcome.success then .green else .red
  let mark : Text := if outcome.success then "✓" else "✗"
  let exit : Text := (outcome.exit.map fun exit => ',' :: ' ' :: exit.render).getD []
  let line : Text := style.apply (mark ++ " cell " ++ Text.ofNat position) ++ " " ++ language ++
    " (" ++ outcome.state.render ++ exit ++ ", " ++ duration ++ ")"
  [] :: line :: outcome.output.toList

/-- The lines on the result of a cell. -/
def reportResult (cells : List Cell) (position : Nat) : Except Failure Run.Outcome → List Text
  | .ok outcome =>
    reportOutcome position ((cells[position]?.bind (·.language)).getD []) outcome
  | .error cause =>
    [[], Style.red.apply ("✗ cell " ++ Text.ofNat position) ++ " " ++ cause.messageWithHint]

/-- What a run of cells leaves, as far as it is reported. -/
structure Execution where
  results : List (Nat × Except Failure Run.Outcome)
  cells : List Cell
  mainFile : Option Path

namespace Execution

/-- How many cells have failed. -/
def failed (execution : Execution) : Nat :=
  execution.results.countP fun result => !Session.isSuccess result.2

/-- The lines on the results, and on what to look at if there are failures. -/
def report (execution : Execution) : List Text :=
  (execution.results.flatMap fun (position, result) =>
      reportResult execution.cells position result) ++
    match execution.mainFile with
    | some path =>
      if execution.failed = 0 then []
      else [[], Style.dim.apply ("Last synthesized program: " ++ path.text)]
    | none => []

/-- The lines a run ends with. -/
def closing (execution : Execution) : List Text :=
  [[], rule, Style.green.apply "Completed" ++ " " ++ Text.ofNat execution.results.length ++
    " cells in " ++ duration]

/-- The end of a run, with the lines that it has printed so far. -/
def conclude (execution : Execution) (lines : List Text) (path : Path) (dryRun : Bool)
    (world : World) : Response :=
  if execution.results = [] then
    .done world (Text.ofLines (lines ++ [[], Style.yellow.apply "No runnable code cells found."]))
  else
    let lines := lines ++ execution.report
    let saved : Except Failure (List Text × World) :=
      if dryRun then .ok ([[], Style.dim.apply "Dry run, document not modified"], world)
      else (Document.save world path execution.cells).map fun world => ([], world)
    match saved with
    | .error cause => .refused world (Text.ofLines lines) (.failed cause)
    | .ok (note, world) =>
      let printed := Text.ofLines (lines ++ note ++ execution.closing)
      if execution.failed = 0 then .done world printed
      else .refused world printed (.failedCells execution.failed execution.results.length)

end Execution

/-- Runs one cell of a document, or all that can be run, and writes their outputs back into it. -/
def run (settings : Settings) (world : World) (document : Path) (cell : Option Nat)
    (dryRun : Bool) : Response :=
  match world.files.stat world.cwd document with
  | .error cause => .refused world [] (.system cause)
  | .ok (place, _) =>
    let path := Path.ofKey place
    match Document.load world path with
    | .error cause => .failed world cause
    | .ok cells =>
      let environment := World.environment settings.tempPath settings.python settings.jai
        World.defaultGrace
      let session := Session.new settings.tempPath
      let quiet : Run.Observer := fun _ => false
      match cell with
      | some position =>
        let ran := Session.runCell environment quiet path.parent? session cells position false world
        let lines := heading document ++ progressLines ran.progress.events
        match ran.result with
        | .error cause => .refused ran.world (Text.ofLines lines) (.failed cause)
        | .ok outcome =>
          let execution := ⟨[(position, .ok outcome)], ran.cells, ran.session.mainFile?⟩
          Execution.conclude execution lines path dryRun ran.world
      | none =>
        let ran := Session.runAll environment quiet path.parent? session cells false world
        Execution.conclude ⟨ran.results, ran.cells, ran.session.mainFile?⟩
          (heading document ++ progressLines ran.events) path dryRun ran.world

end Notebook.CommandLine
