import Notebook.Path

/-! # Arguments

The arguments of a command line are options, which start with hyphens, and operands. A grammar says
which options there are, which of them take a value, and what operands mean in their order. After a
lone pair of hyphens everything is an operand.

An option may be given once; its value is the rest of its argument after an equals sign, or else the
next argument, which must not look like an option. Arguments are read one by one, so that the first
one that has an effect of its own, like asking for help, or is wrong, decides.
-/

namespace Notebook.CommandLine

/-- What a value is read as. -/
inductive ValueKind where
  | path
  | number
  | text
  deriving DecidableEq, Repr

/-- A value of an option or an operand. -/
inductive Value where
  | path (path : Path)
  | number (value : Nat)
  | text (text : Text)
  deriving DecidableEq, Repr

/-- The greatest number that is accepted. -/
def maxNumber : Nat := 0xFFFFFFFFFFFFFFFF

/-- Reads a number, which may have a plus sign. -/
def readNumber? (text : Text) : Option Nat :=
  (Text.toNat? (Text.dropOne text "+")).filter (· ≤ maxNumber)

/-- Reads a value. A path is never empty. -/
def ValueKind.read? : ValueKind → Text → Option Value
  | .path, raw => if raw = [] then none else some (.path ⟨raw⟩)
  | .number, raw => (readNumber? raw).map .number
  | .text, raw => some (.text raw)

/-- What giving an option does. -/
inductive OptionEffect where
  | help
  | version
  /-- The option is noted. -/
  | flag
  /-- The option is noted with a value. -/
  | takes (kind : ValueKind)
  deriving DecidableEq, Repr

/-- An option, by the name after two hyphens and the letter after one. -/
structure OptionRule where
  name : Text
  letter : Option Char
  effect : OptionEffect
  deriving DecidableEq, Repr

/-- The options of a command line and the kinds of its operands. -/
structure Grammar where
  options : List OptionRule
  operands : List ValueKind
  deriving DecidableEq, Repr

/-- Why a command line is not carried out. -/
inductive Stop where
  | help
  | version
  | misuse
  deriving DecidableEq, Repr

/-- What has been read of a command line. -/
structure Arguments where
  options : List (Text × Option Value)
  operands : List Value
  deriving DecidableEq, Repr

namespace Arguments

/-- Nothing has been read. -/
def empty : Arguments := ⟨[], []⟩

/-- The option has been given. -/
def has (arguments : Arguments) (name : Text) : Bool :=
  (arguments.options.lookup name).isSome

/-- The value that an option has been given. -/
def value? (arguments : Arguments) (name : Text) : Option Value :=
  (arguments.options.lookup name).join

/-- The path that an option has been given. -/
def path? (arguments : Arguments) (name : Text) : Option Path :=
  match arguments.value? name with
  | some (.path path) => some path
  | _ => none

/-- The number that an option has been given. -/
def number? (arguments : Arguments) (name : Text) : Option Nat :=
  match arguments.value? name with
  | some (.number value) => some value
  | _ => none

/-- Notes an option. -/
def note (arguments : Arguments) (name : Text) (value : Option Value) : Except Stop Arguments :=
  if arguments.has name then .error .misuse
  else .ok { arguments with options := (name, value) :: arguments.options }

/-- Notes an option with a value. -/
def noteValue (arguments : Arguments) (name : Text) (kind : ValueKind) (text : Text) :
    Except Stop Arguments :=
  match kind.read? text with
  | some value => arguments.note name (some value)
  | none => .error .misuse

/-- Gives an option that stands without a value. -/
def give (arguments : Arguments) (rule : OptionRule) : Except Stop Arguments :=
  match rule.effect with
  | .help => .error .help
  | .version => .error .version
  | .flag => arguments.note rule.name none
  | .takes _ => .error .misuse

end Arguments

/-- An argument, by the way it looks. -/
inductive Shape where
  /-- The pair of hyphens after which everything is an operand. -/
  | ending
  /-- An option by name, with a value after an equals sign. -/
  | named (name : Text) (value : Option Text)
  /-- Options by letter. -/
  | letters (letters : Text)
  | operand
  deriving DecidableEq, Repr

/-- How an argument looks. -/
def Shape.of : Text → Shape
  | ['-', '-'] => .ending
  | '-' :: '-' :: option =>
    match Text.cut? '=' option with
    | some (name, value) => .named name (some value)
    | none => .named option none
  | ['-'] => .operand
  | '-' :: rest => .letters rest
  | _ => .operand

namespace Grammar

/-- The option of a name. -/
def named? (grammar : Grammar) (name : Text) : Option OptionRule :=
  grammar.options.find? (·.name = name)

/-- The option of a letter. -/
def lettered? (grammar : Grammar) (letter : Char) : Option OptionRule :=
  grammar.options.find? (·.letter = some letter)

/-- Gives options by their letters. -/
def giveLetters (grammar : Grammar) : Arguments → Text → Except Stop Arguments
  | arguments, [] => .ok arguments
  | arguments, letter :: rest =>
    match grammar.lettered? letter with
    | none => .error .misuse
    | some rule => do grammar.giveLetters (← arguments.give rule) rest

/-- The kind of the operand that comes next. -/
def nextOperand? (grammar : Grammar) (arguments : Arguments) : Option ValueKind :=
  grammar.operands[arguments.operands.length]?

/-- Reads operands only, up to the first that there is no place for. -/
def readOperands (grammar : Grammar) : Arguments → List Text → Except Stop (Arguments × List Text)
  | arguments, [] => .ok (arguments, [])
  | arguments, text :: rest =>
    match grammar.nextOperand? arguments with
    | none => .ok (arguments, text :: rest)
    | some kind =>
      match kind.read? text with
      | none => .error .misuse
      | some value =>
        grammar.readOperands { arguments with operands := arguments.operands ++ [value] } rest

/-- Reads arguments, up to the first operand that there is no place for. The answer tells also
whether options are still recognized there. -/
def read (grammar : Grammar) :
    Arguments → List Text → Except Stop (Arguments × List Text × Bool)
  | arguments, [] => .ok (arguments, [], true)
  | arguments, text :: rest =>
    match Shape.of text with
    | .ending => do
      let (arguments, rest) ← grammar.readOperands arguments rest
      return (arguments, rest, false)
    | .letters letters => do grammar.read (← grammar.giveLetters arguments letters) rest
    | .named name given =>
      match grammar.named? name with
      | none => .error .misuse
      | some rule =>
        match rule.effect, given with
        | .takes kind, some value => do
          grammar.read (← arguments.noteValue name kind value) rest
        | .takes kind, none =>
          match rest with
          | [] => .error .misuse
          | value :: rest =>
            if Shape.of value = .operand then do
              grammar.read (← arguments.noteValue name kind value) rest
            else .error .misuse
        | _, some _ => .error .misuse
        | _, none => do grammar.read (← arguments.give rule) rest
    | .operand =>
      match grammar.nextOperand? arguments with
      | none => .ok (arguments, text :: rest, true)
      | some kind =>
        match kind.read? text with
        | none => .error .misuse
        | some value =>
          grammar.read { arguments with operands := arguments.operands ++ [value] } rest

/-- Reads arguments of which none may be left over. -/
def readAll (grammar : Grammar) (arguments : List Text) : Except Stop Arguments := do
  match ← grammar.read .empty arguments with
  | (arguments, [], _) => return arguments
  | _ => .error .misuse

end Grammar

end Notebook.CommandLine
