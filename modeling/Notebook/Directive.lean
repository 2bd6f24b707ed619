import Notebook.Text.Basic

/-! # Directives

A directive is the part of a fence's info after the first colon. It says how the cell takes part
in programs: `restart`, `global`, `skip`, `once`, `clear`, or `create=` with a file name. Any other
text is kept, so that it can be written back, and has no effect.
-/

namespace Notebook

/-- What a cell asks for beyond being run. -/
inductive Directive where
  /-- Earlier cells of the language are left out. -/
  | restart
  /-- The content goes to module scope. -/
  | global
  /-- The content is never part of a program. -/
  | skip
  /-- The content is part of the program only when the cell itself is run. -/
  | once
  /-- The content is written to a file instead of being run. -/
  | create (file : Text)
  /-- The output is not kept. -/
  | clear
  /-- Any other text. -/
  | unrecognized (raw : Text)
  deriving DecidableEq, Repr

namespace Directive

/-- Reads the text after the colon of a fence's info; blank text is no directive. -/
def parse? (raw : Text) : Option Directive :=
  let raw := raw.trim
  if raw = [] then none
  else if raw = ("restart" : Text) then some .restart
  else if raw = ("global" : Text) then some .global
  else if raw = ("skip" : Text) then some .skip
  else if raw = ("once" : Text) then some .once
  else if raw = ("clear" : Text) then some .clear
  else match raw.cut? '=' with
    | some (name, file) =>
      if name.trim = ("create" : Text) ∧ file.trim ≠ [] then some (.create file.trim)
      else some (.unrecognized raw)
    | none => some (.unrecognized raw)

/-- The keyword of a directive. -/
def keyword : Directive → Text
  | .restart => "restart"
  | .global => "global"
  | .skip => "skip"
  | .once => "once"
  | .create _ => "create"
  | .clear => "clear"
  | .unrecognized raw => raw

/-- The directive as it is written after the colon. -/
def render : Directive → Text
  | .create file => "create=" ++ file
  | other => other.keyword

end Directive

end Notebook
