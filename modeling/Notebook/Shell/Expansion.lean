import Notebook.Shell.Command
import Notebook.Shell.State

/-! # Expansion of words

A word expands to fields. The value of a parameter that is not quoted is split at blanks, and all
arguments are fields of their own. Arithmetic adds and subtracts integers and variables that hold
them.
-/

namespace Notebook.Shell

/-- The value of a parameter. -/
def parameterValue (state : State) (name : Text) : Text :=
  match name with
  | ['#'] => Text.ofNat state.arguments.length
  | ['?'] => Text.ofNat state.status
  | ['$'] => Text.ofNat processNumber
  | ['0'] => state.name
  | ['@'] | ['*'] => [' '].intercalate state.arguments
  | name =>
    match Text.toNat? name with
    | some position => state.arguments[position - 1]?.getD []
    | none => (state.getVar? name).getD []

/-! ## Arithmetic -/

/-- The number that a value stands for; no value stands for zero. -/
def numberOf (value : Text) : Except Text Int :=
  if value = [] then .ok 0
  else
    match (String.ofList value).toInt? with
    | some number => .ok number
    | none => .error ("Illegal number: " ++ value)

/-- The value of a sum of numbers and variables, given how many there may be. -/
def sumWithin (state : State) : Nat → Text → Except Text Int
  | 0, _ => .error "expression too long"
  | n + 1, text => do
    let isNegative := text.head? = some '-'
    let text := if isNegative ∨ text.head? = some '+' then text.drop 1 else text
    let word := text.takeWhile fun c => c.isAlphanum || c = '_'
    let rest := text.drop word.length
    let value ← numberOf (if word.all Char.isDigit then word else (state.getVar? word).getD [])
    let others ← if rest = [] then pure 0 else sumWithin state n rest
    if word = [] then .error "expecting primary"
    else return (if isNegative then -value else value) + others

/-- The value of an arithmetic expression, of which there are sums alone. -/
def arithmeticValue (state : State) (text : Text) : Except Text Int :=
  let plain := text.filter fun c => c ≠ ' ' ∧ c ≠ '$'
  (sumWithin state (plain.length + 1) plain).mapError fun message =>
    "arithmetic expression: " ++ message ++ ": \"" ++ text ++ "\""

/-! ## Fields -/

/-- The fields that parts of a word have come to: those that are complete, and the last one if it
may go on. -/
structure Fields where
  complete : List Text
  last : Option Text

namespace Fields

/-- Goes on with the last field. -/
def extend (fields : Fields) (text : Text) : Fields :=
  { fields with last := some (fields.last.getD [] ++ text) }

/-- Completes the last field. -/
def close (fields : Fields) : Fields :=
  ⟨fields.complete ++ fields.last.toList, none⟩

/-- Goes on with a value, which is split at blanks unless it is quoted. -/
def add (isQuoted : Bool) (fields : Fields) (value : Text) : Fields :=
  if isQuoted then fields.extend value
  else
    value.foldl (fun fields c => if c ∈ [' ', '\t', '\n'] then fields.close else fields.extend [c])
      fields

/-- Goes on with values that stay apart. -/
def addEach (isQuoted : Bool) (fields : Fields) : List Text → Fields
  | [] => fields
  | value :: rest =>
    rest.foldl (fun fields value => fields.close.add isQuoted value) (fields.add isQuoted value)

/-- Goes on with a part of a word. -/
def addPart (state : State) (fields : Fields) : Part → Except Text Fields
  | .text chars _ => .ok (fields.extend chars)
  | .parameter name isQuoted =>
    if name = ['@'] ∨ (name = ['*'] ∧ !isQuoted) then
      .ok (fields.addEach isQuoted state.arguments)
    else .ok (fields.add isQuoted (parameterValue state name))
  | .arithmetic expression => do
    return fields.extend (toString (← arithmeticValue state expression)).toList

end Fields

/-- The fields of a word. -/
def wordFields (state : State) (word : Word) : Except Text (List Text) := do
  return (← word.foldlM (Fields.addPart state) ⟨[], none⟩).close.complete

/-- The text of a word that is not split. -/
def wordText (state : State) (word : Word) : Except Text Text := do
  let quoted := word.map fun part =>
    match part with
    | .parameter name _ => .text (parameterValue state name) true
    | part => part
  return (← wordFields state quoted).flatten

/-- Makes the errors of an expansion end the shell. -/
def expanded {α : Type} (expand : State → Except Text α) : Task α := do
  match expand (← get) with
  | .ok value => return value
  | .error message => abort message

end Notebook.Shell
