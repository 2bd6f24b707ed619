import Notebook.Shell.Token

/-! # Reading scripts

A script is read one line of commands at a time, so that what comes before a malformed command is
run. The bound that the functions carry is computed from the number of tokens: every step takes one
of them or goes down one level of the grammar.
-/

namespace Notebook.Shell

/-- A script that cannot be read. -/
structure Malformed where
  line : Nat
  message : Text
  deriving DecidableEq, Repr

/-- A step of reading. -/
abbrev Reader := StateT (List Token) (Except Malformed)

namespace Reader

/-- The next token. -/
def peek : Reader Token := do return (← get).head?.getD ⟨.ended, 1⟩

/-- Passes a token. -/
def pass : Reader Unit := modify (List.drop 1)

/-- Passes ends of lines. -/
def passLines : Reader Unit := modify fun tokens => tokens.dropWhile (·.kind = .newline)

/-- Stops reading at something that cannot stand here. -/
def unexpected {α : Type} : Reader α := do
  let token ← peek
  match token.kind with
  | .malformed message => throw ⟨token.line, message⟩
  | _ => throw ⟨token.line, token.describe ++ " unexpected"⟩

/-- Passes a reserved word that has to follow. -/
def expect (word : Text) : Reader Unit := do
  passLines
  if (← peek).keyword? = some word then pass else unexpected

/-- The name and the value that a word assigns. -/
def assignment? : Word → Option (Text × Word)
  | .text chars false :: parts =>
    let name := Token.leadName chars
    match name, chars.drop name.length with
    | _ :: _, '=' :: value => some (name, .text value false :: parts)
    | _, _ => none
  | _ => none

/-- Reads words up to the end of the command. -/
def readWords : Nat → Reader (List Word)
  | 0 => return []
  | n + 1 => do
    match (← peek).kind with
    | .word word =>
      pass
      return word :: (← readWords n)
    | _ => return []

/-- Reads the rest of a simple command. -/
def readSimple (line : Nat) (assignments : List (Text × Word)) (words : List Word)
    (redirections : List Redirection) : Nat → Reader Command
  | 0 => unexpected
  | n + 1 => do
    match (← peek).kind with
    | .word word =>
      pass
      match assignment? word, words with
      | some assigned, [] => readSimple line (assignments ++ [assigned]) words redirections n
      | _, _ => readSimple line assignments (words ++ [word]) redirections n
    | .redirection descriptor kind =>
      pass
      match (← peek).kind with
      | .word target =>
        pass
        readSimple line assignments words (redirections ++ [⟨descriptor, kind, target⟩]) n
      | _ => unexpected
    | _ =>
      if words = [] ∧ assignments = [] ∧ redirections = [] then unexpected
      else return .simple line assignments words redirections

mutual

/-- Reads a command. -/
def readCommand : Nat → Reader Command
  | 0 => unexpected
  | n + 1 => do
    let token ← peek
    match token.keyword? with
    | none => readSimple token.line [] [] [] (n + 1)
    | some keyword =>
      match String.ofList keyword with
      | "!" =>
        pass
        return .negation (← readCommand n)
      | "\x7b" =>
        pass
        let body ← readList n
        expect "\x7d"
        return body
      | "if" =>
        pass
        readConditional n
      | "while" | "until" =>
        pass
        let test ← readList n
        return .loop (keyword = ("until" : Text)) test (← readBody n)
      | "for" =>
        pass
        match ← readWords (n + 1) with
        | [.text name false] :: rest =>
          if (← peek).kind = .operator ";" then pass
          let words := if rest = [] then none else some (rest.drop 1)
          return .each name words (← readBody n)
        | _ => unexpected
      | _ => unexpected

/-- Reads what follows `if`. -/
def readConditional : Nat → Reader Command
  | 0 => unexpected
  | n + 1 => do
    let test ← readList n
    expect "then"
    let positive ← readList n
    passLines
    match (← peek).keyword? with
    | some ['e', 'l', 'i', 'f'] =>
      pass
      return .conditional test positive (← readConditional n)
    | some ['e', 'l', 's', 'e'] =>
      pass
      let negative ← readList n
      expect "fi"
      return .conditional test positive negative
    | _ =>
      expect "fi"
      return .conditional test positive .nothing

/-- Reads the body of a loop. -/
def readBody : Nat → Reader Command
  | 0 => unexpected
  | n + 1 => do
    expect "do"
    let body ← readList n
    expect "done"
    return body

/-- Reads the commands that are joined to one. -/
def readJoined (first : Command) : Nat → Reader Command
  | 0 => unexpected
  | n + 1 => do
    match (← peek).kind with
    | .operator ['&', '&'] =>
      pass
      passLines
      readJoined (.both first (← readCommand n)) n
    | .operator ['|', '|'] =>
      pass
      passLines
      readJoined (.either first (← readCommand n)) n
    | _ => return first

/-- Reads commands, up to a reserved word that no command starts with. -/
def readList : Nat → Reader Command
  | 0 => unexpected
  | n + 1 => do
    passLines
    let closers : List Text := ["do", "done", "elif", "else", "fi", "then", "\x7d"]
    if (← peek).keyword?.any closers.contains then return .nothing
    let command ← readJoined (← readCommand n) n
    match (← peek).kind with
    | .operator [';'] | .newline =>
      pass
      return .sequence command (← readList n)
    | _ => return command

end

/-- Reads the commands up to the end of a line. -/
def readLine : Nat → Reader Command
  | 0 => unexpected
  | n + 1 => do
    let command ← readJoined (← readCommand n) n
    if (← peek).kind = .operator ";" then pass
    else if (← peek).kind ≠ .newline ∧ (← peek).kind ≠ .ended then unexpected
    if (← peek).kind = .newline ∨ (← peek).kind = .ended then return command
    else return .sequence command (← readLine n)

/-- Reads the next line that has commands, if there is one. -/
def readNext : Reader (Option Command) := do
  passLines
  if (← peek).kind = .ended then return none
  else return some (← readLine (4 * (← get).length + 8))

end Reader

end Notebook.Shell
