import Notebook.Text.Basic

/-! # Numbers and moments in TOML

The forms of numbers, dates and times. A settings file is checked for them, and nothing reads their
values.
-/

namespace Notebook.Toml

/-- Digits of a class with single underscores between them. -/
def isDigitRun (isDigit : Char → Bool) : Text → Bool
  | [] => false
  | [c] => isDigit c
  | c :: '_' :: rest => isDigit c && isDigitRun isDigit rest
  | c :: rest => isDigit c && isDigitRun isDigit rest

/-- A digit of a number in base sixteen. -/
def isHexDigit (c : Char) : Bool :=
  c.isDigit || ('a' ≤ c && c ≤ 'f') || ('A' ≤ c && c ≤ 'F')

/-- The text without a sign in front. -/
def unsigned (text : Text) : Text :=
  match text with
  | '+' :: rest | '-' :: rest => rest
  | _ => text

/-- A run of decimal digits that has no zero in front unless it is zero. -/
def isDecimal (text : Text) : Bool :=
  isDigitRun Char.isDigit text && (text.head? ≠ some '0' || text.length = 1)

/-- An integer, in base ten with a sign or in another base without. -/
def isInteger (text : Text) : Bool :=
  match text with
  | '0' :: 'x' :: digits => isDigitRun isHexDigit digits
  | '0' :: 'o' :: digits => isDigitRun (fun c => '0' ≤ c && c ≤ '7') digits
  | '0' :: 'b' :: digits => isDigitRun (fun c => c = '0' || c = '1') digits
  | _ => isDecimal (unsigned text)

/-- The exponent of a number, after the letter. -/
def isExponent (text : Text) : Bool :=
  isDigitRun Char.isDigit (unsigned text)

/-- A number with a fraction or an exponent, or one that is not finite. -/
def isFloat (text : Text) : Bool :=
  let magnitude := unsigned text
  if magnitude = ("inf" : Text) ∨ magnitude = ("nan" : Text) then true
  else
    let isMark (c : Char) : Bool := c = 'e' || c = 'E'
    let mantissa := magnitude.takeWhile (!isMark ·)
    let exponent := magnitude.dropWhile (!isMark ·)
    let whole := mantissa.takeWhile (· ≠ '.')
    let fraction := mantissa.dropWhile (· ≠ '.')
    isDecimal whole && (fraction ≠ [] || exponent ≠ []) &&
      (fraction = [] || isDigitRun Char.isDigit (fraction.drop 1)) &&
      (exponent = [] || isExponent (exponent.drop 1))

/-- The number that two digits make. -/
def twoDigits? (a b : Char) : Option Nat :=
  if a.isDigit && b.isDigit then some ((a.toNat - 48) * 10 + (b.toNat - 48)) else none

/-- Number of days of a month. -/
def daysOfMonth (year month : Nat) : Nat :=
  if month = 2 then
    if year % 4 = 0 ∧ (year % 100 ≠ 0 ∨ year % 400 = 0) then 29 else 28
  else if month ∈ [4, 6, 9, 11] then 30
  else 31

/-- Takes a date off the start of a text. -/
def takeDate? : Text → Option Text
  | a :: b :: c :: d :: '-' :: e :: f :: '-' :: g :: h :: rest => do
    let year := (← twoDigits? a b) * 100 + (← twoDigits? c d)
    let month ← twoDigits? e f
    let day ← twoDigits? g h
    if 1 ≤ month ∧ month ≤ 12 ∧ 1 ≤ day ∧ day ≤ daysOfMonth year month then some rest else none
  | _ => none

/-- Takes the seconds of a time, which may be absent, off the start of a text. -/
def takeSeconds? : Text → Option Text
  | ':' :: a :: b :: rest => do
    let second ← twoDigits? a b
    if second > 60 then none
    else
      match rest with
      | '.' :: c :: more => if c.isDigit then some (more.dropWhile Char.isDigit) else none
      | ['.'] => none
      | _ => some rest
  | text => some text

/-- Takes a time off the start of a text. -/
def takeTime? : Text → Option Text
  | a :: b :: ':' :: c :: d :: rest => do
    let hour ← twoDigits? a b
    let minute ← twoDigits? c d
    if hour ≤ 23 ∧ minute ≤ 59 then takeSeconds? rest else none
  | _ => none

/-- The distance from universal time, which may be absent. -/
def isOffset : Text → Bool
  | [] | ['Z'] | ['z'] => true
  | sign :: a :: b :: ':' :: c :: [d] =>
    (sign = '+' || sign = '-') && (twoDigits? a b).any (· ≤ 23) && (twoDigits? c d).any (· ≤ 59)
  | _ => false

/-- A date, a time, or both. -/
def isMoment (text : Text) : Bool :=
  match takeDate? text with
  | some [] => true
  | some (mark :: rest) =>
    (mark = 'T' || mark = 't' || mark = ' ') && (takeTime? rest).any isOffset
  | none => takeTime? text = some []

end Notebook.Toml
