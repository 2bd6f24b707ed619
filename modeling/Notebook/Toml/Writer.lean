import Notebook.Text.Quoted

/-! # Writing texts in TOML

A text is written in the first kind of quotes that shows it without escapes: double quotes, single
quotes, three double quotes, three single quotes. If none does, double quotes with escapes are
used, three of them if the text has several lines.
-/

namespace Notebook.Toml

/-- A control character other than a tab or a newline. -/
def needsEscape (c : Char) : Bool :=
  (c.toNat < 0x20 && c ≠ '\t' && c ≠ '\n') || c.toNat = 0x7F

/-- Length of the longest run of a character, given the length of the run under way. -/
def longestRun (mark : Char) : Nat → Text → Nat
  | current, [] => current
  | current, c :: rest =>
    if c = mark then longestRun mark (current + 1) rest
    else max current (longestRun mark 0 rest)

/-- A character by its code point. -/
def escapeCode (c : Char) : Text :=
  let digits := (Text.hexDigits c.toNat).map Char.toUpper
  "\\u" ++ List.replicate (4 - digits.length) '0' ++ digits

/-- A character in double quotes, given how many quotes stand right before it and how many may
follow each other. A newline is kept in a text of several lines. -/
def escapeChar (isLong : Bool) (quotes : Nat) (c : Char) : Text :=
  match c with
  | '"' => if quotes < (if isLong then 2 else 0) then ['"'] else "\\\""
  | '\\' => "\\\\"
  | '\x08' => "\\b"
  | '\t' => "\\t"
  | '\x0c' => "\\f"
  | '\r' => "\\r"
  | '\n' => if isLong then ['\n'] else "\\n"
  | c => if needsEscape c then escapeCode c else [c]

/-- A text in double quotes, without them. -/
def escaped (isLong : Bool) : Nat → Text → Text
  | _, [] => []
  | quotes, c :: rest =>
    let shown := escapeChar isLong quotes c
    shown ++ escaped isLong (if shown = ['"'] then quotes + 1 else 0) rest

/-- A text as it is written. -/
def renderText (text : Text) : Text :=
  let hasControl := text.any needsEscape
  let hasBackslash := text.contains '\\'
  let hasNewline := text.contains '\n'
  let doubles := longestRun '"' 0 text
  let singles := longestRun '\'' 0 text
  let opening : Text := if hasNewline then ['\n'] else []
  let basic : Text := "\"" ++ escaped false 0 text ++ "\""
  let long : Text := "\"\"\"" ++ opening ++ escaped true 0 text ++ "\"\"\""
  if ¬ hasControl ∧ ¬ hasBackslash ∧ doubles = 0 ∧ ¬ hasNewline then basic
  else if ¬ hasControl ∧ singles = 0 ∧ ¬ hasNewline then "'" ++ text ++ "'"
  else if ¬ hasControl ∧ ¬ hasBackslash ∧ doubles ≤ 2 then long
  else if ¬ hasControl ∧ singles ≤ 2 then "'''" ++ opening ++ text ++ "'''"
  else if hasNewline then long
  else basic

/-- A line that gives a text to a key. -/
def renderField (key text : Text) : Text :=
  key ++ " = " ++ renderText text ++ "\n"

end Notebook.Toml
