import Notebook.CommandLine.Argument

/-! # Requests

A command line names a command and gives it options and operands. Some options belong to every
command and may also stand before its name; what stands after it wins.
-/

namespace Notebook.CommandLine

/-- The commands. -/
inductive Command where
  | run
  | list
  | format
  | tag
  | entryFile
  | clean
  | search
  | start
  deriving DecidableEq, Repr

/-- A command with what it is given. -/
inductive Request where
  | run (document : Path) (cell : Option Nat) (dryRun : Bool)
  | list (document : Path)
  | format (document : Path) (check : Bool)
  | tag (document : Path) (cell : Nat) (directive : Option Text)
  | entryFile (language : Text)
  | clean
  | search (phrase : Text)
  | start
  deriving DecidableEq, Repr

/-- What a command line asks for. -/
inductive Call where
  | help
  | version
  | misuse
  /-- A request, with the settings file to use. -/
  | request (settings : Option Path) (request : Request)
  deriving DecidableEq, Repr

/-- The options of every command. -/
def commonOptions : List OptionRule :=
  [⟨"verbose", some 'v', .flag⟩, ⟨"config", none, .takes .path⟩, ⟨"help", some 'h', .help⟩]

/-- What may stand before the name of a command. -/
def frontGrammar : Grammar :=
  ⟨⟨"version", some 'V', .version⟩ :: commonOptions, []⟩

namespace Command

/-- All commands. -/
def all : List Command := [.run, .list, .format, .tag, .entryFile, .clean, .search, .start]

/-- The name of a command. -/
def name : Command → Text
  | .run => "run"
  | .list => "list"
  | .format => "fmt"
  | .tag => "tag"
  | .entryFile => "main"
  | .clean => "clean"
  | .search => "search"
  | .start => "init"

/-- What a command does. -/
def summary : Command → Text
  | .run => "Run code cells and write their output back into the document"
  | .list => "List the cells of a document"
  | .format => "Put a document into canonical form"
  | .tag => "Set or remove the directive of a code cell"
  | .entryFile => "Print the path of the synthesized program for a language"
  | .clean => "Delete the temp workspace"
  | .search => "Search markdown notes under the configured base path"
  | .start => "Create the notes directory and its entry document"

/-- The command of a name. -/
def ofName? (name : Text) : Option Command :=
  all.find? (·.name = name)

/-- The options that belong to a command alone. -/
def ownOptions : Command → List OptionRule
  | .run => [⟨"cell", none, .takes .number⟩, ⟨"dry-run", none, .flag⟩]
  | .format => [⟨"check", none, .flag⟩]
  | _ => []

/-- The operands that a command takes. -/
def operands : Command → List ValueKind
  | .run | .list | .format => [.path]
  | .tag => [.path, .number, .text]
  | .entryFile | .search => [.text]
  | .clean | .start => []

/-- What may stand after the name of a command. -/
def grammar (command : Command) : Grammar :=
  ⟨command.ownOptions ++ commonOptions, command.operands⟩

/-- The request that a command makes of its arguments, if there are enough. -/
def request? (command : Command) (arguments : Arguments) : Option Request :=
  match command, arguments.operands with
  | .run, [.path document] =>
    some (.run document (arguments.number? "cell") (arguments.has "dry-run"))
  | .list, [.path document] => some (.list document)
  | .format, [.path document] => some (.format document (arguments.has "check"))
  | .tag, [.path document, .number cell] => some (.tag document cell none)
  | .tag, [.path document, .number cell, .text directive] =>
    some (.tag document cell (some directive))
  | .entryFile, [.text language] => some (.entryFile language)
  | .clean, [] => some .clean
  | .search, [.text phrase] => some (.search phrase)
  | .start, [] => some .start
  | _, _ => none

end Command

namespace Call

/-- The call that stopping at some argument is. -/
def ofStop : Stop → Call
  | .help => .help
  | .version => .version
  | .misuse => .misuse

/-- Reads what stands after the name of a command. -/
def readCommand (front : Arguments) (command : Command) (arguments : List Text) :
    Except Stop Call := do
  let arguments ← command.grammar.readAll arguments
  match command.request? arguments with
  | some asked => return .request ((arguments.path? "config").or (front.path? "config")) asked
  | none => .error .misuse

/-- Help may be asked for by name, for a command or for itself. -/
def readHelp : List Text → Except Stop Call
  | [] => return .help
  | [name] => if name = ("help" : Text) ∨ (Command.ofName? name).isSome then return .help
    else .error .misuse
  | _ => .error .misuse

/-- Reads a command line, except for what stops it. -/
def read (arguments : List Text) : Except Stop Call := do
  match ← frontGrammar.read .empty arguments with
  | (front, name :: rest, true) =>
    if name = ("help" : Text) then readHelp rest
    else
      match Command.ofName? name with
      | some command => readCommand front command rest
      | none => .error .misuse
  | _ => .error .misuse

/-- What a command line asks for. -/
def ofArguments (arguments : List Text) : Call :=
  match read arguments with
  | .ok call => call
  | .error stop => ofStop stop

end Call

end Notebook.CommandLine
