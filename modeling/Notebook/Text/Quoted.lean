import Notebook.Text.Printable

/-! # Quoted text

A text between double quotes, in which quotes, backslashes and the common control characters are
written with a backslash, and every other character that does not show is written by its code
point.
-/

namespace Notebook.Text

/-- The digits of a number in base sixteen. -/
def hexDigits (n : Nat) : Text :=
  Nat.toDigits 16 n

/-- A character inside quotes. -/
def quoteChar (c : Char) : Text :=
  match c with
  | '\x00' => "\\0"
  | '\t' => "\\t"
  | '\r' => "\\r"
  | '\n' => "\\n"
  | '\\' => "\\\\"
  | '"' => "\\\""
  | c => if isPrintable c then [c] else "\\u\x7b" ++ hexDigits c.toNat ++ "\x7d"

/-- The text between double quotes. -/
def quoted (text : Text) : Text :=
  "\"" ++ text.flatMap quoteChar ++ "\""

end Notebook.Text
