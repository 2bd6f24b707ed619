import Notebook.Text.Digit

/-! # Image versions

A cell may write an image that the prose after it shows. Giving the source of each
`<img src="...">` a new `?version=` number makes a viewer load the file again. An image starts
with `<img`, `src`, `=` and a quote, with blanks allowed between them, and ends at the next quote;
the version is a run of digits between `?version=` and that quote.
-/

namespace Notebook

/-- An image tag up to the quote that closes its source. -/
structure Image where
  /-- The text up to the opening quote and with it. -/
  head : Text
  /-- The source without the version. -/
  source : Text
  /-- The digits of the version. -/
  version : Option Text
  deriving DecidableEq, Repr

namespace Image

/-- What stands before the digits of a version. -/
def versionMark : Text := "?version="

/-- Splits the text between the quotes into source and version digits. -/
def splitVersion : Text → Text × Option Text
  | [] => ([], none)
  | c :: rest =>
    match versionMark.isPrefixOf? (c :: rest) with
    | some digits =>
      if digits ≠ [] ∧ digits.all isDigit then ([], some digits)
      else ((c :: (splitVersion rest).1), (splitVersion rest).2)
    | none => ((c :: (splitVersion rest).1), (splitVersion rest).2)

/-- Takes blanks and then a phrase off the start. -/
def dropSpaced? (phrase text : Text) : Option (Text × Text) :=
  (phrase.isPrefixOf? text.trimStart).map fun rest => (text.takeWhile isBlank ++ phrase, rest)

/-- Takes the image at the start of a text. -/
def match? (text : Text) : Option (Image × Text) := do
  let afterTag ← ("<img" : Text).isPrefixOf? text
  let (name, afterName) ← dropSpaced? "src" afterTag
  let (equals, afterEquals) ← dropSpaced? "=" afterName
  let (quote, afterQuote) ← dropSpaced? "\"" afterEquals
  let (body, rest) ← Text.cut? '"' afterQuote
  let (source, version) := splitVersion body
  return (⟨"<img" ++ name ++ equals ++ quote, source, version⟩, rest)

/-- The image as text. -/
def render (image : Image) : Text :=
  image.head ++ image.source ++
    (match image.version with
    | some digits => versionMark ++ digits
    | none => []) ++ ['"']

/-- The largest version number. -/
def maxVersion : Nat := 0xFFFFFFFFFFFFFFFF

/-- The number of a version; digits outside ASCII and numbers that are too large have none. -/
def versionNumber? (digits : Text) : Option Nat :=
  if digits.all Char.isDigit then
    let n := digits.foldl (fun n c => 10 * n + (c.toNat - '0'.toNat)) 0
    if n ≤ maxVersion then some n else none
  else none

/-- The number of the next version, which stays at the largest one. -/
def nextVersion (image : Image) : Nat :=
  match image.version.bind versionNumber? with
  | some n => min (n + 1) maxVersion
  | none => 1

/-- The image with its next version. -/
def bump (image : Image) : Image :=
  { image with version := some (Text.ofNat image.nextVersion) }

end Image

/-- A text seen as characters and images. -/
inductive ImageText where
  | char (c : Char)
  | image (shown : Image)
  deriving DecidableEq, Repr

namespace ImageText

/-- The piece as text. -/
def render : ImageText → Text
  | .char c => [c]
  | .image shown => shown.render

/-- The piece with the next version if it is an image. -/
def bump : ImageText → ImageText
  | .char c => .char c
  | .image shown => .image shown.bump

/-- The piece is an image. -/
def isImage : ImageText → Bool
  | .char _ => false
  | .image _ => true

theorem cut?_length {mark : Char} {text before after : Text}
    (found : text.cut? mark = some (before, after)) : after.length < text.length := by
  induction text generalizing before with
  | nil => simp [Text.cut?] at found
  | cons c rest ih =>
    rw [Text.cut?] at found
    split at found
    · simp only [Option.some.injEq, Prod.mk.injEq] at found
      simp [← found.2]
    · simp only [Option.map_eq_some_iff, Prod.mk.injEq] at found
      obtain ⟨⟨before', after'⟩, found, -, rfl⟩ := found
      exact Nat.lt_succ_of_lt (ih found)

theorem isPrefixOf?_length {phrase text rest : Text}
    (found : phrase.isPrefixOf? text = some rest) : rest.length ≤ text.length := by
  induction phrase generalizing text with
  | nil => exact Option.some.inj found ▸ Nat.le_refl _
  | cons c phrase ih =>
    cases text with
    | nil => cases found
    | cons d text =>
      change (if c == d then phrase.isPrefixOf? text else none) = some rest at found
      split at found
      · exact Nat.le_succ_of_le (ih found)
      · cases found

theorem dropSpaced?_length {phrase text taken rest : Text}
    (found : Image.dropSpaced? phrase text = some (taken, rest)) :
    rest.length ≤ text.length := by
  simp only [Image.dropSpaced?, Option.map_eq_some_iff, Prod.mk.injEq] at found
  obtain ⟨rest', found, -, rfl⟩ := found
  have bound := isPrefixOf?_length found
  have := (List.dropWhile_sublist isBlank (l := text)).length_le
  simp only [Text.trimStart] at bound
  omega

theorem match?_length {text rest : Text} {image : Image}
    (found : Image.match? text = some (image, rest)) : rest.length < text.length := by
  simp only [Image.match?, bind, Option.bind_eq_some_iff, pure, Option.some.injEq,
    Prod.mk.injEq] at found
  obtain ⟨afterTag, tag, ⟨_, afterName⟩, name, ⟨_, afterEquals⟩, equals,
    ⟨_, afterQuote⟩, quote, ⟨_, rest'⟩, cut, -, rfl⟩ := found
  have := isPrefixOf?_length tag
  have := dropSpaced?_length name
  have := dropSpaced?_length equals
  have := dropSpaced?_length quote
  have := cut?_length cut
  dsimp only at *
  omega

/-- Reads a text from left to right, taking each image that starts where the last one ended or
later. -/
def scan (text : Text) : List ImageText :=
  match text with
  | [] => []
  | c :: rest =>
    match _ : Image.match? (c :: rest) with
    | some (shown, after) => .image shown :: scan after
    | none => .char c :: scan rest
termination_by text.length
decreasing_by
  · exact match?_length ‹_›
  · simp

end ImageText

/-- The text with the next version in each image, or none if it has no image. -/
def bumpImages? (text : Text) : Option Text :=
  let pieces := ImageText.scan text
  if pieces.any ImageText.isImage then some (pieces.flatMap fun piece => piece.bump.render)
  else none

end Notebook
