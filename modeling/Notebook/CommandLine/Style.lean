import Notebook.Text.Basic

/-! # Styled text

Parts of what a command prints are set off on the terminal. A styled part starts with the code of
its style and ends with the code that takes every style back.
-/

namespace Notebook.CommandLine

/-- A way to set off a part of a line. -/
inductive Style where
  | bold
  | dim
  | red
  | green
  | yellow
  | cyan
  deriving DecidableEq, Repr

namespace Style

/-- The number by which a terminal knows a style. -/
def code : Style → Nat
  | .bold => 1
  | .dim => 2
  | .red => 31
  | .green => 32
  | .yellow => 33
  | .cyan => 36

/-- The text in a style. -/
def apply (style : Style) (text : Text) : Text :=
  "\x1b[" ++ Text.ofNat style.code ++ "m" ++ text ++ "\x1b[0m"

end Style

end Notebook.CommandLine
