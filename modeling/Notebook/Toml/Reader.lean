import Notebook.Toml.Literal

/-! # Reading TOML

A document is read line by line into definitions: each key path that a line defines, with the way
it was defined. A path may be defined only once, except that a table which was only on the way to
another may still get its header. Only texts keep their value; other values are checked for their
form.

The readers of nested values take a bound on the depth, which the length of the text always meets.
-/

namespace Notebook.Toml

/-- A value of a document. -/
inductive Value where
  | text (contents : Text)
  | number
  | boolean
  | moment
  | array
  | table
  deriving DecidableEq, Repr

/-- How a path came to be defined. -/
inductive Definition where
  | value (value : Value)
  /-- A table on the way to one with a header. -/
  | implied
  /-- A table with a header of its own. -/
  | header
  /-- A table named by a dotted key. -/
  | dotted
  /-- A list of tables, by its length. -/
  | tables (count : Nat)
  deriving DecidableEq, Repr

/-- The definitions of a document; a table in a list has its number as a name on its path. -/
abbrev Definitions := List (List Text × Definition)

/-- A space or a tab. -/
def isSpace (c : Char) : Bool :=
  c = ' ' || c = '\t'

/-- A character that stands in no text and no comment. -/
def isControl (c : Char) : Bool :=
  (c.toNat < 0x20 && c ≠ '\t') || c.toNat = 0x7F

/-- Takes a newline off the start. -/
def takeNewline? : Text → Option Text
  | '\n' :: rest | '\r' :: '\n' :: rest => some rest
  | _ => none

/-- Takes a comment off the start, if there is one. -/
def takeComment? (text : Text) : Option Text :=
  match text with
  | '#' :: rest =>
    let body := rest.takeWhile (· ≠ '\n')
    let after := rest.dropWhile (· ≠ '\n')
    let visible := if after = [] then body else Text.dropReturn body
    if visible.any isControl then none else some after
  | _ => some text

/-- Takes spaces, a comment and the newline off the start; the end of the text is as good as a
newline. -/
def takeLineEnd? (text : Text) : Option Text :=
  match takeComment? (text.dropWhile isSpace) with
  | some [] => some []
  | some rest => takeNewline? rest
  | none => none

/-- Takes spaces, comments and newlines off the start. -/
def takeGap? : Nat → Text → Option Text
  | 0, text => some text
  | bound + 1, text =>
    match takeComment? (text.dropWhile isSpace) with
    | none => none
    | some rest =>
      match takeNewline? rest with
      | some after => takeGap? bound after
      | none => some rest

/-- The number that hexadecimal digits make. -/
def hexNumber? (digits : Text) : Option Nat :=
  if digits.all isHexDigit then
    some (digits.foldl (fun n c =>
      n * 16 + (if c.isDigit then c.toNat - 48 else c.toLower.toNat - 87)) 0)
  else none

/-- The character of a code point given by a number of hexadecimal digits. -/
def codePoint? (count : Nat) (text : Text) : Option (Char × Text) := do
  if text.length < count then none
  else
    let n ← hexNumber? (text.take count)
    if n.isValidChar then some (Char.ofNat n, text.drop count) else none

/-- The character that an escape stands for, after the backslash. -/
def escape? : Text → Option (Char × Text)
  | 'b' :: rest => some ('\x08', rest)
  | 't' :: rest => some ('\t', rest)
  | 'n' :: rest => some ('\n', rest)
  | 'f' :: rest => some ('\x0c', rest)
  | 'r' :: rest => some ('\r', rest)
  | 'e' :: rest => some ('\x1b', rest)
  | '"' :: rest => some ('"', rest)
  | '\\' :: rest => some ('\\', rest)
  | 'x' :: rest => codePoint? 2 rest
  | 'u' :: rest => codePoint? 4 rest
  | 'U' :: rest => codePoint? 8 rest
  | _ => none

/-- Reads a text in double quotes, after the first. -/
def basicText? : Nat → Text → Option (Text × Text)
  | 0, _ => none
  | bound + 1, text =>
    match text with
    | [] => none
    | '"' :: rest => some ([], rest)
    | '\\' :: rest => do
      let (c, rest) ← escape? rest
      let (more, after) ← basicText? bound rest
      return (c :: more, after)
    | c :: rest =>
      if isControl c then none
      else (basicText? bound rest).map fun (more, after) => (c :: more, after)

/-- Reads a text in single quotes, after the first. -/
def literalText? (text : Text) : Option (Text × Text) :=
  match text.cut? '\'' with
  | some (contents, rest) => if contents.any isControl then none else some (contents, rest)
  | none => none

/-- A run of quotes inside a text that three quotes close: the quotes that belong to the text, and
whether the text ends there. -/
def quoteRun (quote : Char) (text : Text) : Text × Bool × Text :=
  let run := text.takeWhile (· = quote)
  if run.length < 3 then (run, false, text.drop run.length)
  else (List.replicate (min run.length 5 - 3) quote, true, text.drop (min run.length 5))

/-- Takes a backslash's line break with the blanks after it off the start. -/
def takeContinuation? (text : Text) : Option Text :=
  (takeNewline? (text.dropWhile isSpace)).map fun rest =>
    rest.dropWhile fun c => isSpace c || c = '\n' || c = '\r'

/-- Reads a text of several lines, after the three quotes that open it. -/
def longText? (quote : Char) : Nat → Text → Option (Text × Text)
  | 0, _ => none
  | bound + 1, text =>
    match text with
    | [] => none
    | c :: rest =>
      if c = quote then
        let (quotes, isEnd, after) := quoteRun quote text
        if isEnd then some (quotes, after)
        else (longText? quote bound after).map fun (more, after) => (quotes ++ more, after)
      else if c = '\\' ∧ quote = '"' then
        match takeContinuation? rest with
        | some after => longText? quote bound after
        | none => do
          let (c, rest) ← escape? rest
          let (more, after) ← longText? quote bound rest
          return (c :: more, after)
      else if c = '\r' ∧ rest.head? ≠ some '\n' then none
      else if isControl c ∧ c ≠ '\n' ∧ c ≠ '\r' then none
      else (longText? quote bound rest).map fun (more, after) => (c :: more, after)

/-- Reads a text in any of the four kinds of quotes. -/
def text? (text : Text) : Option (Text × Text) :=
  let long (quote : Char) (rest : Text) :=
    longText? quote (rest.length + 1) ((takeNewline? rest).getD rest)
  match text with
  | '"' :: '"' :: '"' :: rest => long '"' rest
  | '"' :: rest => basicText? (rest.length + 1) rest
  | '\'' :: '\'' :: '\'' :: rest => long '\'' rest
  | '\'' :: rest => literalText? rest
  | _ => none

/-- A character of a key without quotes. -/
def isBareKeyChar (c : Char) : Bool :=
  c.isAlphanum || c = '_' || c = '-'

/-- Reads one name of a key. -/
def name? (text : Text) : Option (Text × Text) :=
  match text with
  | '"' :: rest => basicText? (rest.length + 1) rest
  | '\'' :: rest => literalText? rest
  | _ =>
    let name := text.takeWhile isBareKeyChar
    if name = [] then none else some (name, text.dropWhile isBareKeyChar)

/-- Reads a key, which is a path of names with dots between them. -/
def key? : Nat → Text → Option (List Text × Text)
  | 0, _ => none
  | bound + 1, text => do
    let (name, rest) ← name? (text.dropWhile isSpace)
    match rest.dropWhile isSpace with
    | '.' :: after =>
      let (more, rest) ← key? bound after
      return (name :: more, rest)
    | rest => return ([name], rest)

/-- The table that names lead to from another, where a dotted key makes tables on its way and a
header implies them. -/
def descend? (isDotted : Bool) :
    Definitions → List Text → List Text → Option (List Text × Definitions)
  | known, table, [] => some (table, known)
  | known, table, name :: rest =>
    let path := table ++ [name]
    match known.lookup path with
    | none =>
      descend? isDotted ((path, if isDotted then .dotted else .implied) :: known) path rest
    | some (.value _) => none
    | some .header => if isDotted then none else descend? isDotted known path rest
    | some .implied | some .dotted => descend? isDotted known path rest
    | some (.tables count) => descend? isDotted known (path ++ [Text.ofNat count]) rest

/-- Defines the value of a key in a table. -/
def define? (known : Definitions) (table key : List Text) (value : Value) :
    Option Definitions := do
  let (table, known) ← descend? true known table key.dropLast
  let path := table ++ key.getLast?.toList
  if (known.lookup path).isSome then none else some ((path, .value value) :: known)

/-- Opens the table of a header; gives its path. -/
def openTable? (known : Definitions) (key : List Text) : Option (List Text × Definitions) := do
  let (table, known) ← descend? false known [] key.dropLast
  let path := table ++ key.getLast?.toList
  match known.lookup path with
  | none | some .implied => some (path, (path, .header) :: known)
  | _ => none

/-- Opens the next table of a list; gives its path. -/
def openListed? (known : Definitions) (key : List Text) : Option (List Text × Definitions) := do
  let (table, known) ← descend? false known [] key.dropLast
  let path := table ++ key.getLast?.toList
  let next (count : Nat) := some (path ++ [Text.ofNat count], (path, .tables count) :: known)
  match known.lookup path with
  | none => next 0
  | some (.tables count) => next (count + 1)
  | _ => none

/-- A character of a number or a moment. -/
def isLiteralChar (c : Char) : Bool :=
  c.isAlphanum || c = '+' || c = '-' || c = '.' || c = '_' || c = ':'

/-- Reads a number, a moment or a truth value. A date may have its time after a space. -/
def literal? (text : Text) : Option (Value × Text) :=
  let literal := text.takeWhile isLiteralChar
  let rest := text.dropWhile isLiteralChar
  if literal = ("true" : Text) ∨ literal = ("false" : Text) then some (.boolean, rest)
  else if isInteger literal ∨ isFloat literal then some (.number, rest)
  else if takeDate? literal = some [] then
    match rest with
    | ' ' :: a :: more =>
      if a.isDigit then
        let time := more.takeWhile isLiteralChar
        if isMoment (literal ++ ' ' :: a :: time) then some (.moment, more.dropWhile isLiteralChar)
        else none
      else some (.moment, rest)
    | _ => some (.moment, rest)
  else if isMoment literal then some (.moment, rest)
  else none

mutual

/-- Reads a value. -/
def value? (bound : Nat) (text : Text) : Option (Value × Text) :=
  match bound with
  | 0 => none
  | bound + 1 =>
    match text with
    | '[' :: rest => (items? bound rest).map fun rest => (.array, rest)
    | '\x7b' :: rest => (fields? bound [] rest).map fun rest => (.table, rest)
    | c :: _ =>
      if c = '"' ∨ c = '\'' then (text? text).map fun (contents, rest) => (.text contents, rest)
      else literal? text
    | [] => none

/-- Reads the values of an array, after its bracket or a comma. -/
def items? (bound : Nat) (text : Text) : Option Text :=
  match bound with
  | 0 => none
  | bound + 1 => do
    let text ← takeGap? text.length text
    match text with
    | ']' :: rest => some rest
    | _ =>
      let (_, rest) ← value? bound text
      match ← takeGap? rest.length rest with
      | ',' :: rest => items? bound rest
      | ']' :: rest => some rest
      | _ => none

/-- Reads the fields of a table in braces, after its brace or a comma. -/
def fields? (bound : Nat) (known : Definitions) (text : Text) : Option Text :=
  match bound with
  | 0 => none
  | bound + 1 => do
    let text ← takeGap? text.length text
    match text with
    | '\x7d' :: rest => some rest
    | _ =>
      let (key, rest) ← key? (text.length + 1) text
      match rest with
      | '=' :: rest =>
        let (value, rest) ← value? bound (rest.dropWhile isSpace)
        let known ← define? known [] key value
        match ← takeGap? rest.length rest with
        | ',' :: rest => fields? bound known rest
        | '\x7d' :: rest => some rest
        | _ => none
      | _ => none

end

/-- Reads a header between brackets and opens its table. -/
def header? (known : Definitions) (text : Text) : Option (List Text × Definitions × Text) := do
  match text with
  | '[' :: '[' :: rest =>
    let (key, rest) ← key? (rest.length + 1) rest
    match rest with
    | ']' :: ']' :: rest =>
      let (table, known) ← openListed? known key
      return (table, known, rest)
    | _ => none
  | '[' :: rest =>
    let (key, rest) ← key? (rest.length + 1) rest
    match rest with
    | ']' :: rest =>
      let (table, known) ← openTable? known key
      return (table, known, rest)
    | _ => none
  | _ => none

/-- Reads lines, given the definitions so far and the table that the lines belong to. -/
def lines? : Nat → Definitions → List Text → Text → Option Definitions
  | 0, known, _, _ => some known
  | bound + 1, known, table, text =>
    if text = [] then some known
    else
      let start := text.dropWhile isSpace
      match takeLineEnd? start with
      | some rest => lines? bound known table rest
      | none =>
        if start.head? = some '[' then do
          let (table, known, rest) ← header? known start
          lines? bound known table (← takeLineEnd? rest)
        else do
          let (key, rest) ← key? (start.length + 1) start
          match rest with
          | '=' :: rest =>
            let (value, rest) ← value? (rest.length + 1) (rest.dropWhile isSpace)
            lines? bound (← define? known table key value) table (← takeLineEnd? rest)
          | _ => none

/-- Reads a document; a byte order mark in front does not count. -/
def read? (text : Text) : Option Definitions :=
  let text := text.dropOne "\ufeff"
  lines? (text.length + 1) [] [] text

end Notebook.Toml
