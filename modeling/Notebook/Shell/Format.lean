import Notebook.Text.Utf8

/-! # Formats

What `echo` and `printf` make of their arguments. Both write bytes: an octal escape may stand for a
byte that is no character.
-/

namespace Notebook.Shell.Format

/-- The characters of escapes that stand for a control character. -/
def controls : List (Char × UInt8) :=
  [('\\', 92), ('a', 7), ('b', 8), ('f', 12), ('n', 10), ('r', 13), ('t', 9), ('v', 11)]

/-- What an escape stands for and what follows it, given the text behind its backslash and how many
octal digits it may have. What is no escape stands for itself. -/
def escape (digits : Nat) (text : Text) : List UInt8 × Text :=
  let octal := (text.take digits).takeWhile fun c => '0' ≤ c && c ≤ '7'
  match octal, text with
  | _ :: _, _ =>
    let value := octal.foldl (fun value c => value * 8 + (c.toNat - '0'.toNat)) 0
    ([UInt8.ofNat value], text.drop octal.length)
  | [], c :: rest =>
    match controls.lookup c with
    | some byte => ([byte], rest)
    | none => ([92], text)
  | [], [] => ([92], [])

/-- The bytes of a text with the escapes of `echo`, and whether one of them asks to stop there;
given how many characters may be read. -/
def escapedWithin : Nat → Text → List UInt8 × Bool
  | 0, _ | _, [] => ([], false)
  | _ + 1, '\\' :: 'c' :: _ => ([], true)
  | n + 1, '\\' :: rest =>
    let (first, rest) := escape (if rest.head? = some '0' then 4 else 0) rest
    let (bytes, stops) := escapedWithin n rest
    (first ++ bytes, stops)
  | n + 1, c :: rest =>
    let (bytes, stops) := escapedWithin n rest
    (Utf8.encode [c] ++ bytes, stops)

/-- What `echo` writes. That of the shell reads escapes, and the program does not. -/
def echo (readsEscapes : Bool) (arguments : List Text) : List UInt8 :=
  let isBare := arguments.head? = some ['-', 'n']
  let text := [' '].intercalate (if isBare then arguments.drop 1 else arguments)
  let (bytes, stops) :=
    if readsEscapes then escapedWithin text.length text else (Utf8.encode text, false)
  if isBare || stops then bytes else bytes ++ [10]

/-- What a format writes once, and the arguments that it leaves; given how many characters may be
read. -/
def printOnce : Nat → Text → List Text → List UInt8 × List Text
  | 0, _, arguments | _, [], arguments => ([], arguments)
  | n + 1, c :: rest, arguments =>
    let (first, rest, left) :=
      match c, rest with
      | '\\', _ =>
        let (bytes, rest) := escape 3 rest
        (bytes, rest, arguments)
      | '%', 's' :: rest => (Utf8.encode (arguments.head?.getD []), rest, arguments.drop 1)
      | '%', '%' :: rest => ([37], rest, arguments)
      | _, _ => (Utf8.encode [c], rest, arguments)
    let (bytes, left) := printOnce n rest left
    (first ++ bytes, left)

/-- What `printf` writes: the format again and again, as long as each time uses up some of the
arguments that are left, and at most as often as the bound. -/
def printWithin (format : Text) : Nat → List Text → List UInt8
  | 0, _ => []
  | n + 1, arguments =>
    let (bytes, left) := printOnce format.length format arguments
    if left = [] ∨ left = arguments then bytes else bytes ++ printWithin format n left

/-- What `printf` writes. -/
def printf (format : Text) (arguments : List Text) : List UInt8 :=
  printWithin format (arguments.length + 1) arguments

end Notebook.Shell.Format
