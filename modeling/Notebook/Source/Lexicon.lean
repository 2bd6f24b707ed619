import Notebook.Text.Basic
import Notebook.Text.Letter

/-! # Lexical rules

Cells are never parsed. To read bracket depth and keywords off source code it is enough to know
which stretches of it are comments and literals. A lexicon holds the rules of a language for that,
and `Lexicon.hiddenLength` says how many characters the comment or literal at the start of a text
takes up; a comment or literal that is not closed takes up the rest of the text.
-/

namespace Notebook.Source

/-- What a language hides in comments and literals. -/
structure Lexicon where
  lineComment : Text
  blockComment : Option (Text × Text)
  /-- Characters that open a literal closed by the same character. -/
  quotes : List Char
  /-- A backtick literal takes no escapes. -/
  rawBacktick : Bool
  /-- Literals such as `r"..."` and `r#"..."#`. -/
  rawStrings : Bool
  /-- Literals such as `'x'`; an apostrophe that opens none is code. -/
  charLiterals : Bool
  /-- What opens a literal that runs to the end of the line. -/
  lineString : Option Text
  deriving DecidableEq, Repr

namespace Lexicon

def rust : Lexicon := ⟨"//", some ("/*", "*/"), ['"'], false, true, true, none⟩

def go : Lexicon := ⟨"//", some ("/*", "*/"), ['"', '\x60'], true, false, true, none⟩

def zig : Lexicon := ⟨"//", none, ['"'], false, false, true, some "\\\\"⟩

def jai : Lexicon := ⟨"//", some ("/*", "*/"), ['"'], false, false, false, none⟩

/-- Length of the line at the start of a text, without its newline. -/
def lineLength (text : Text) : Nat :=
  (text.takeWhile (· ≠ '\n')).length

/-- Length through the first occurrence of a phrase, or the whole length. -/
def lengthThrough (phrase : Text) : Text → Nat
  | [] => 0
  | c :: rest =>
    if phrase.isPrefixOf (c :: rest) then phrase.length else lengthThrough phrase rest + 1

/-- Length through the first closing quote, or the whole length; a backslash protects the character
after it if escapes are on. -/
def quotedLength (quote : Char) (escapes : Bool) : Text → Nat
  | [] => 0
  | [_] => 1
  | c :: d :: rest =>
    if escapes ∧ c = '\\' then quotedLength quote escapes rest + 2
    else if c = quote then 1
    else quotedLength quote escapes (d :: rest) + 1

/-- Length of a raw literal, given what follows its `r`. -/
def rawLength? (text : Text) : Option Nat :=
  let hashes := text.takeWhile (· = '#')
  match text.dropWhile (· = '#') with
  | '"' :: body => some (1 + hashes.length + 1 + lengthThrough ('"' :: hashes) body)
  | _ => none

/-- Length of a character literal, given what follows its apostrophe. An escape may take up to ten
characters. -/
def charLength? : Text → Option Nat
  | '\\' :: rest =>
    let body := (rest.drop 1).take 9
    if body.contains '\'' then some (4 + (body.takeWhile (· ≠ '\'')).length) else none
  | c :: '\'' :: _ => if c ≠ '\'' ∧ c ≠ '\n' then some 3 else none
  | _ => none

/-- Length of the comment or literal at the start of a text, zero if the text starts with code. The
character before decides whether `r` can open a raw literal. -/
def hiddenLength (lexicon : Lexicon) (previous : Option Char) (text : Text) : Nat :=
  match text with
  | [] => 0
  | c :: rest =>
    if lexicon.lineComment.isPrefixOf text ∨
        lexicon.lineString.any (fun opening => opening.isPrefixOf text) then lineLength text
    else
      match lexicon.blockComment.bind fun (opening, closing) =>
          (opening.isPrefixOf? text).map fun body =>
            opening.length + lengthThrough closing body with
      | some length => length
      | none =>
        match (if lexicon.rawStrings ∧ c = 'r' ∧ ¬ previous.any isIdentifierChar
            then rawLength? rest else none) with
        | some length => length
        | none =>
          if lexicon.quotes.contains c then
            1 + quotedLength c (!(lexicon.rawBacktick && c = '\x60')) rest
          else if lexicon.charLiterals ∧ c = '\'' then (charLength? rest).getD 0
          else 0

end Lexicon

end Notebook.Source
