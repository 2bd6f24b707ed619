import Notebook.CommandLine.Documents
import Notebook.CommandLine.Execution
import Notebook.CommandLine.NotesDirectory
import Notebook.CommandLine.Request

/-! # Answers to command lines

A command line is answered by what is printed, what is reported as an error, and an exit status: `0`
if all went well, `1` if the command is refused, and `2` if the command line itself is wrong.
-/

namespace Notebook.CommandLine

/-- What a command line is answered by. -/
structure Answer where
  exit : Nat
  printed : Text
  reported : Text
  world : World

/-- The name and the version of the program. -/
def versionLine : Text := "mdlab 0.1.0"

/-- How the program is used. -/
def usage : List Text :=
  let row (command : Command) : Text := "  " ++ Text.alignLeft 8 command.name ++ command.summary
  ["Usage: mdlab [OPTIONS] <COMMAND>".toList, [], "Commands:".toList] ++ Command.all.map row ++
    [[], "Options:".toList, "  -v, --verbose          Enable verbose logging".toList,
      "      --config <CONFIG>  Config file to use instead of the default location".toList,
      "  -h, --help             Print help".toList, "  -V, --version          Print version".toList]

/-- Carries out a request. -/
def respond (settings : Settings) (world : World) : Request → Response
  | .run document cell dryRun => run settings world document cell dryRun
  | .list document => list world document
  | .format document check => format world document check
  | .tag document cell directive => tag world document cell directive
  | .entryFile language => entryFile settings world language
  | .clean => clean settings world
  | .search phrase => search settings world phrase
  | .start => start settings world

/-- The answer to a request that has been carried out. -/
def Answer.ofResponse (response : Response) : Answer :=
  match response.refusal with
  | none => ⟨0, response.printed, [], response.world⟩
  | some refusal =>
    ⟨1, response.printed, Text.ofLines ["Error: " ++ refusal.message], response.world⟩

/-- The answer to a call. -/
def Answer.ofCall (world : World) : Call → Answer
  | .help => ⟨0, Text.ofLines usage, [], world⟩
  | .version => ⟨0, Text.ofLines [versionLine], [], world⟩
  | .misuse => ⟨2, [], Text.ofLines usage, world⟩
  | .request named request =>
    match Settings.load world named with
    | .error cause => .ofResponse (.failed world cause)
    | .ok settings => .ofResponse (respond settings world request)

/-- The answer to a command line. -/
def answer (world : World) (arguments : List Text) : Answer :=
  .ofCall world (.ofArguments arguments)

end Notebook.CommandLine
