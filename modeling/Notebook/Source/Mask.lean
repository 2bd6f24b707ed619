import Notebook.Source.Lexicon

/-! # Masked source

Masking blanks out comments and literals: a newline stays, and every other hidden character becomes
as many blanks as it has bytes in UTF-8, so that an offset means the same in the masked text as in
the source. The masked text is kept glyph by glyph beside the source it stands for, so that a cut
between glyphs cuts both.
-/

namespace Notebook.Source

/-- A character of the masked text with the source character it stands for; of the blanks for one
hidden character the first carries it. -/
structure Glyph where
  shown : Char
  source : Option Char
  deriving DecidableEq, Repr

namespace Glyph

/-- A character of code, which is shown as it is. -/
def code (c : Char) : Glyph :=
  ⟨c, some c⟩

/-- The glyphs of a hidden character. -/
def hidden (c : Char) : List Glyph :=
  if c = '\n' then [⟨'\n', some '\n'⟩]
  else ⟨' ', some c⟩ :: List.replicate (c.utf8Size - 1) ⟨' ', none⟩

/-- The masked text of glyphs. -/
def shownText (glyphs : List Glyph) : Text :=
  glyphs.map shown

/-- The source text of glyphs. -/
def sourceText (glyphs : List Glyph) : Text :=
  glyphs.filterMap source

end Glyph

/-- Marks each character of a source as code or hidden, given how many characters are still hidden
by what came before, and the character before. -/
def shade (lexicon : Lexicon) : Nat → Option Char → Text → List (Char × Bool)
  | _, _, [] => []
  | pending + 1, _, c :: rest => (c, false) :: shade lexicon pending (some c) rest
  | 0, previous, c :: rest =>
    match lexicon.hiddenLength previous (c :: rest) with
    | 0 => (c, true) :: shade lexicon 0 (some c) rest
    | length + 1 => (c, false) :: shade lexicon length (some c) rest

/-- The glyphs of a source. -/
def glyphs (lexicon : Lexicon) (source : Text) : List Glyph :=
  (shade lexicon 0 none source).flatMap fun (c, isCode) =>
    if isCode then [Glyph.code c] else Glyph.hidden c

/-- The source with comments and literals blanked out. -/
def mask (lexicon : Lexicon) (source : Text) : Text :=
  Glyph.shownText (glyphs lexicon source)

theorem Glyph.sourceText_hidden (c : Char) : Glyph.sourceText (Glyph.hidden c) = [c] := by
  by_cases newline : c = '\n'
  · simp [Glyph.hidden, Glyph.sourceText, newline]
  · simp [Glyph.hidden, Glyph.sourceText, newline]

theorem map_fst_shade (lexicon : Lexicon) (pending : Nat) (previous : Option Char)
    (source : Text) : (shade lexicon pending previous source).map (·.1) = source := by
  induction source generalizing pending previous with
  | nil => cases pending <;> simp [shade]
  | cons c rest ih =>
    cases pending with
    | succ pending => simp [shade, ih]
    | zero =>
      rw [shade]
      split <;> simp [ih]

/-- The glyphs of a source stand for that source. -/
theorem sourceText_glyphs (lexicon : Lexicon) (source : Text) :
    Glyph.sourceText (glyphs lexicon source) = source := by
  have expand : ∀ marks : List (Char × Bool),
      Glyph.sourceText (marks.flatMap fun (c, isCode) =>
        if isCode then [Glyph.code c] else Glyph.hidden c) = marks.map (·.1) := by
    intro marks
    induction marks with
    | nil => rfl
    | cons mark rest ih =>
      rcases mark with ⟨c, isCode⟩
      simp only [Glyph.sourceText, List.flatMap_cons, List.filterMap_append, List.map_cons] at ih ⊢
      rw [ih]
      have single := Glyph.sourceText_hidden c
      rw [Glyph.sourceText] at single
      cases isCode with
      | true => simp [Glyph.code]
      | false => simp [single]
  rw [glyphs, expand, map_fst_shade]

end Notebook.Source
