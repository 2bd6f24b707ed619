import Notebook.Shell.Command

/-! # Tokens of scripts

A script is cut into words, redirections, operators and ends of lines, each with the number of its
line. The last token says that the script ends, or what is wrong with the rest of it, so that the
commands ahead of something malformed can still be run.
-/

namespace Notebook.Shell

/-- What a token is. -/
inductive TokenKind where
  | word (word : Word)
  | redirection (descriptor : Nat) (kind : RedirectionKind)
  | operator (text : Text)
  | newline
  | ended
  | malformed (message : Text)
  deriving DecidableEq, Repr

/-- A token and its line. -/
structure Token where
  kind : TokenKind
  line : Nat
  deriving DecidableEq, Repr

namespace Token

/-- The characters that end a word. -/
def isBreak (c : Char) : Bool :=
  c ∈ [' ', '\t', '\n', ';', '&', '|', '<', '>', '(', ')']

/-- The characters with a meaning of their own inside a word. -/
def isSpecial (c : Char) : Bool :=
  c ∈ ['\'', '"', '\\', '$', '\x60']

/-- A character that a name starts with. -/
def isNameStart (c : Char) : Bool :=
  c.isAlpha || c = '_'

/-- The name at the start of a text. -/
def leadName (text : Text) : Text :=
  if text.head?.any isNameStart then text.takeWhile fun c => isNameStart c || c.isDigit else []

/-- The name of the parameter that a text starts with: that of a variable, or one character. -/
def leadParameter (text : Text) : Text :=
  if leadName text = [] then
    (text.take 1).filter fun c => c.isDigit || c ∈ ['@', '*', '#', '?', '$']
  else leadName text

/-- The text up to two parentheses that close what has not been opened in it, and the rest. -/
def cutArithmetic : Nat → Text → Option (Text × Text)
  | _, [] => none
  | 0, ')' :: ')' :: rest => some ([], rest)
  | depth, c :: rest =>
    let depth := if c = '(' then depth + 1 else if c = ')' then depth - 1 else depth
    (cutArithmetic depth rest).map fun (inner, rest) => (c :: inner, rest)

/-- What a dollar sign stands before, and the rest of the text. -/
def cutDollar (isQuoted : Bool) (text : Text) : Except Text (Part × Text) :=
  match text with
  | '(' :: '(' :: rest =>
    match cutArithmetic 0 rest with
    | some (expression, rest) => .ok (.arithmetic expression, rest)
    | none => .error "Missing '))'"
  | '(' :: _ => .error "Command substitution is not supported"
  | '\x7b' :: rest =>
    let name := leadParameter rest
    match name, rest.drop name.length with
    | _ :: _, '\x7d' :: rest => .ok (.parameter name isQuoted, rest)
    | _, _ => .error "Bad substitution"
  | text =>
    let name := leadParameter text
    if name = [] then .ok (.text ['$'] isQuoted, text)
    else .ok (.parameter name isQuoted, text.drop name.length)

/-- The parts of a word, and the text behind it; between double quotes it ends with the closing one.
The bound is on how many parts there may be. -/
def cutWord (isQuoted : Bool) : Nat → Text → Except Text (Word × Text)
  | 0, _ => .error "Word too long"
  | n + 1, text => do
    let goOn (part : Part) (rest : Text) : Except Text (Word × Text) := do
      let (parts, rest) ← cutWord isQuoted n rest
      return (part :: parts, rest)
    match text with
    | [] => if isQuoted then .error "Unterminated quoted string" else return ([], [])
    | '\\' :: '\n' :: rest => cutWord isQuoted n rest
    | '\\' :: c :: rest =>
      let isEscape := !isQuoted || isSpecial c && c ≠ '\''
      goOn (.text (if isEscape then [c] else ['\\', c]) true) rest
    | '"' :: rest =>
      if isQuoted then return ([], rest)
      let (quoted, rest) ← cutWord true n rest
      let (parts, rest) ← cutWord false n rest
      -- Quotes around nothing are a word, unless all arguments are in them and there are none.
      let mark := if quoted.contains (.parameter ['@'] true) then [] else [.text [] true]
      return (mark ++ quoted ++ parts, rest)
    | '$' :: rest =>
      let (part, rest) ← cutDollar isQuoted rest
      goOn part rest
    | '\x60' :: _ => .error "Command substitution is not supported"
    | c :: rest =>
      if isQuoted then
        let chars := c :: rest.takeWhile fun c => !isSpecial c || c = '\''
        goOn (.text chars true) (text.drop chars.length)
      else if c = '\'' then
        match Text.cut? '\'' rest with
        | some (chars, rest) => goOn (.text chars true) rest
        | none => .error "Unterminated quoted string"
      else if isBreak c then return ([], text)
      else
        let chars := c :: rest.takeWhile fun c => !isBreak c && !isSpecial c
        goOn (.text chars false) (text.drop chars.length)

/-- The redirection operators; a longer one stands before its beginning. -/
def redirections : List (Text × RedirectionKind) :=
  [(">>", .append), (">&", .duplicate), (">", .output)]

/-- The other operators; a longer one stands before its beginning. -/
def operators : List Text := ["&&", "||", ";", "&", "|", "<", "(", ")"]

/-- The operator at the start of a text, and the rest. -/
def cutOperator? (text : Text) : Option (TokenKind × Text) :=
  let digits := text.takeWhile Char.isDigit
  let behind := text.drop digits.length
  match redirections.find? (·.1.isPrefixOf behind) with
  | some (sign, kind) =>
    some (.redirection ((Text.toNat? digits).getD 1) kind, behind.drop sign.length)
  | none =>
    (operators.find? (·.isPrefixOf text)).map fun sign => (.operator sign, text.drop sign.length)

/-- The tokens of a text that starts on a line, given how many there may be. -/
def ofTextWithin : Nat → Nat → Text → List Token
  | 0, line, _ | _, line, [] => [⟨.ended, line⟩]
  | n + 1, line, '\n' :: rest => ⟨.newline, line⟩ :: ofTextWithin n (line + 1) rest
  | n + 1, line, '\\' :: '\n' :: rest => ofTextWithin n (line + 1) rest
  | n + 1, line, '#' :: rest => ofTextWithin n line (rest.dropWhile (· ≠ '\n'))
  | n + 1, line, c :: rest =>
    if c = ' ' ∨ c = '\t' then ofTextWithin n line rest
    else
      match cutOperator? (c :: rest) with
      | some (kind, rest) => ⟨kind, line⟩ :: ofTextWithin n line rest
      | none =>
        let last := line + (c :: rest).count '\n'
        match cutWord false (rest.length + 2) (c :: rest) with
        | .ok (word, behind) =>
          ⟨.word word, line⟩ :: ofTextWithin n (last - behind.count '\n') behind
        | .error message => [⟨.malformed message, last⟩]

/-- The tokens of a script. -/
def ofText (script : Text) : List Token :=
  ofTextWithin (script.length + 1) 1 script

/-- Words with a meaning of their own at the start of a command. -/
def reserved : List Text :=
  ["!", "do", "done", "elif", "else", "fi", "for", "if", "then", "until", "while", "\x7b", "\x7d"]

/-- The reserved word that a token is. -/
def keyword? (token : Token) : Option Text :=
  match token.kind with
  | .word [.text chars false] => if reserved.contains chars then some chars else none
  | _ => none

/-- What a token is, as messages name it. -/
def describe (token : Token) : Text :=
  match token.kind with
  | .word _ =>
    match token.keyword? with
    | some keyword => "\"" ++ keyword ++ "\""
    | none => "word"
  | .redirection _ _ => "redirection"
  | .operator sign => "\"" ++ sign ++ "\""
  | .newline => "newline"
  | .ended | .malformed _ => "end of file"

end Token

end Notebook.Shell
