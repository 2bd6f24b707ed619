import Mathlib.Data.List.Chain
import Notebook.Proofs.Source.Sealed
import Notebook.Proofs.Text.Phrase

/-! # Cutting glyphs and texts

The mask of a text and the text itself determine its glyphs, so what holds of masks put together
holds of glyphs put together. Where glyphs are cut ahead of a character, and the text up to there is
sealed, both parts are the glyphs of their own texts. A word is always code, so a text behind a word
is read in the same way whatever the word is.
-/

namespace Notebook.Source

/-! ## Glyphs of marked characters -/

/-- The glyphs of a character that is marked as code or hidden. -/
def glyphsOf (mark : Char × Bool) : List Glyph :=
  if mark.2 then [Glyph.code mark.1] else Glyph.hidden mark.1

theorem glyphs_eq_flatMap (lexicon : Lexicon) (source : Text) :
    glyphs lexicon source = (shade lexicon 0 none source).flatMap glyphsOf :=
  rfl

/-- A hidden character that is shown as itself has the glyph of code. -/
theorem hidden_of_shown {c : Char} {rest text : Text}
    (same : Glyph.shownText (Glyph.hidden c) ++ rest = c :: text) :
    Glyph.hidden c = [Glyph.code c] := by
  by_cases newline : c = '\n'
  · rw [newline]
    rfl
  · rw [Glyph.hidden, if_neg newline] at same
    obtain rfl : ' ' = c := List.head_eq_of_cons_eq same
    rfl

theorem glyphsOf_inj {c : Char} {isCode isOther : Bool} {rest text : Text}
    (same : Glyph.shownText (glyphsOf (c, isCode)) ++ rest =
      Glyph.shownText (glyphsOf (c, isOther)) ++ text) :
    glyphsOf (c, isCode) = glyphsOf (c, isOther) := by
  cases isCode <;> cases isOther
  · rfl
  · exact hidden_of_shown same
  · exact (hidden_of_shown same.symm).symm
  · rfl

/-- The glyphs of a text are determined by how they show. -/
theorem flatMap_glyphsOf_inj {marks others : List (Char × Bool)}
    (chars : marks.map (·.1) = others.map (·.1))
    (shown : Glyph.shownText (marks.flatMap glyphsOf) = Glyph.shownText (others.flatMap glyphsOf)) :
    marks.flatMap glyphsOf = others.flatMap glyphsOf := by
  induction marks generalizing others with
  | nil =>
    rw [List.map_nil, eq_comm, List.map_eq_nil_iff] at chars
    rw [chars]
  | cons mark marks ih =>
    cases others with
    | nil => cases chars
    | cons other others =>
      obtain ⟨c, isCode⟩ := mark
      obtain ⟨d, isOther⟩ := other
      obtain ⟨same, charsBehind⟩ := List.cons_eq_cons.mp chars
      obtain rfl : c = d := same
      rw [List.flatMap_cons, List.flatMap_cons, Glyph.shownText, Glyph.shownText, List.map_append,
        List.map_append] at shown
      have first := glyphsOf_inj shown
      rw [first] at shown
      rw [List.flatMap_cons, List.flatMap_cons, first,
        ih charsBehind (List.append_cancel_left shown)]

/-- Where masks are put together, glyphs are. -/
theorem glyphs_append_of_mask {lexicon : Lexicon} {text rest : Text}
    (masks : mask lexicon (text ++ rest) = mask lexicon text ++ mask lexicon rest) :
    glyphs lexicon (text ++ rest) = glyphs lexicon text ++ glyphs lexicon rest := by
  have together : glyphs lexicon text ++ glyphs lexicon rest =
      (shade lexicon 0 none text ++ shade lexicon 0 none rest).flatMap glyphsOf :=
    List.flatMap_append.symm
  rw [together]
  apply flatMap_glyphsOf_inj
  · rw [List.map_append, map_fst_shade, map_fst_shade, map_fst_shade]
  · rw [← together, Glyph.shownText, Glyph.shownText, List.map_append]
    exact masks

theorem Sealed.glyphs_append {lexicon : Lexicon} {text : Text} (whole : Sealed lexicon text)
    (rest : Text) : glyphs lexicon (text ++ rest) = glyphs lexicon text ++ glyphs lexicon rest :=
  glyphs_append_of_mask (whole rest)

theorem sealed_of_glyphs {lexicon : Lexicon} {text : Text}
    (apart : ∀ rest, glyphs lexicon (text ++ rest) = glyphs lexicon text ++ glyphs lexicon rest) :
    Sealed lexicon text := by
  intro rest
  rw [mask, apart, Glyph.shownText, List.map_append]
  rfl

/-! ## Cuts ahead of characters -/

/-- The glyphs start with a character, and not within one. -/
def StartsChar (list : List Glyph) : Prop :=
  ∀ glyph ∈ list.head?, glyph.source ≠ none

theorem glyphsOf_hidden {c : Char} (other : c ≠ '\n') :
    glyphsOf (c, false) = ⟨' ', some c⟩ :: List.replicate (c.utf8Size - 1) ⟨' ', none⟩ :=
  if_neg other

theorem startsChar_glyphsOf (mark : Char × Bool) (rest : List Glyph) :
    StartsChar (glyphsOf mark ++ rest) := by
  obtain ⟨c, isCode⟩ := mark
  intro glyph member
  have source : glyph.source = some c := by
    cases isCode with
    | true =>
      obtain rfl : Glyph.code c = glyph := Option.some_inj.mp member
      rfl
    | false =>
      by_cases newline : c = '\n'
      · rw [newline] at member ⊢
        obtain rfl := Option.some_inj.mp member
        rfl
      · rw [glyphsOf_hidden newline] at member
        obtain rfl := Option.some_inj.mp member
        rfl
  rw [source]
  exact Option.some_ne_none c

theorem startsChar_flatMap_glyphsOf (marks : List (Char × Bool)) :
    StartsChar (marks.flatMap glyphsOf) := by
  cases marks with
  | nil => exact nofun
  | cons mark marks => exact startsChar_glyphsOf mark _

theorem startsChar_glyphs (lexicon : Lexicon) (text : Text) : StartsChar (glyphs lexicon text) :=
  startsChar_flatMap_glyphsOf _

/-- Within a character only blanks are shown. -/
theorem isChain_flatMap_glyphsOf (marks : List (Char × Bool)) :
    (marks.flatMap glyphsOf).IsChain fun glyph next =>
      next.source = none → glyph.shown = ' ' ∧ next.shown = ' ' := by
  induction marks with
  | nil => exact .nil
  | cons mark marks ih =>
    obtain ⟨c, isCode⟩ := mark
    rw [List.flatMap_cons, List.isChain_append]
    refine ⟨?_, ih, fun _ _ next member none =>
      absurd none (startsChar_flatMap_glyphsOf marks next member)⟩
    cases isCode with
    | true => exact .singleton _
    | false =>
      by_cases newline : c = '\n'
      · rw [newline]
        exact .singleton _
      · rw [glyphsOf_hidden newline, List.isChain_cons]
        refine ⟨fun next member _ => ⟨rfl, ?_⟩, List.isChain_replicate_of_rel _ fun _ => ⟨rfl, rfl⟩⟩
        rw [List.eq_of_mem_replicate (List.mem_of_mem_head? member)]

/-- A glyph of a hidden character shows a blank. -/
theorem eq_code_of_shown {lexicon : Lexicon} {text : Text} {glyph : Glyph}
    (member : glyph ∈ glyphs lexicon text) (visible : glyph.shown ≠ ' ') :
    glyph = Glyph.code glyph.shown := by
  rw [glyphs_eq_flatMap] at member
  obtain ⟨⟨c, isCode⟩, _, member⟩ := List.mem_flatMap.mp member
  cases isCode with
  | true =>
    obtain rfl := List.mem_singleton.mp member
    rfl
  | false =>
    by_cases newline : c = '\n'
    · rw [newline] at member
      obtain rfl := List.mem_singleton.mp member
      rfl
    · rw [glyphsOf_hidden newline] at member
      rcases List.mem_cons.mp member with rfl | padding
      · exact absurd rfl visible
      · rw [List.eq_of_mem_replicate padding] at visible
        exact absurd rfl visible

/-- A glyph that shows code is a character of its own. -/
theorem startsChar_of_shown {lexicon : Lexicon} {text : Text} {before after : List Glyph}
    {glyph : Glyph} (split : glyphs lexicon text = before ++ glyph :: after)
    (visible : glyph.shown ≠ ' ') : StartsChar (glyph :: after) ∧ StartsChar after := by
  have starts := startsChar_glyphs lexicon text
  have chain := isChain_flatMap_glyphsOf (shade lexicon 0 none text)
  rw [← glyphs_eq_flatMap, split, List.isChain_append, List.isChain_cons] at chain
  obtain ⟨_, ⟨behind, _⟩, joint⟩ := chain
  refine ⟨?_, fun next member none => visible (behind next member none).1⟩
  rintro _ ⟨⟩ none
  rcases List.eq_nil_or_concat before with rfl | ⟨start, last, rfl⟩
  · rw [split] at starts
    exact starts glyph rfl none
  · exact visible (joint last (by simp) glyph rfl none).2

theorem eq_of_startsChar {before after start rest : List Glyph}
    (same : before ++ after = start ++ rest)
    (texts : Glyph.sourceText before = Glyph.sourceText start) (afterStarts : StartsChar after)
    (restStarts : StartsChar rest) : before = start ∧ after = rest := by
  have longer : ∀ {list gap after rest : List Glyph}, after = gap ++ rest → StartsChar after →
      Glyph.sourceText list = Glyph.sourceText (list ++ gap) → gap = [] := by
    intro list gap after rest split starts texts
    cases gap with
    | nil => rfl
    | cons glyph gap =>
      have source := starts glyph (by rw [split]; rfl)
      obtain ⟨c, isChar⟩ := Option.ne_none_iff_exists'.mp source
      rw [Glyph.sourceText, Glyph.sourceText, List.filterMap_append,
        List.filterMap_cons_some isChar] at texts
      simp at texts
  rcases List.append_eq_append_iff.mp same with ⟨gap, rfl, split⟩ | ⟨gap, rfl, split⟩
  · obtain rfl := longer split afterStarts texts
    exact ⟨(List.append_nil _).symm, split⟩
  · obtain rfl := longer split restStarts texts.symm
    exact ⟨List.append_nil _, split.symm⟩

/-- Both parts of a text that is cut behind a sealed one have glyphs of their own. -/
theorem Sealed.cut {lexicon : Lexicon} {text : Text} {before after : List Glyph}
    (whole : Sealed lexicon (Glyph.sourceText before))
    (split : glyphs lexicon text = before ++ after) (starts : StartsChar after) :
    before = glyphs lexicon (Glyph.sourceText before) ∧
      after = glyphs lexicon (Glyph.sourceText after) := by
  have parts : text = Glyph.sourceText before ++ Glyph.sourceText after := by
    rw [← sourceText_glyphs lexicon text, split]
    exact List.filterMap_append
  have same := split.symm
  rw [parts, whole.glyphs_append] at same
  exact eq_of_startsChar same (sourceText_glyphs lexicon _).symm starts (startsChar_glyphs _ _)

/-! ## Words -/

/-- A character of a word is code, unless it opens a raw literal. -/
def Lexicon.ReadsWords (lexicon : Lexicon) : Prop :=
  ∀ c previous rest, isAsciiIdentifierChar c = true →
    (c = 'r' → previous.any isIdentifierChar = true) →
      lexicon.hiddenLength previous (c :: rest) = 0

/-- The text is a word in which no raw literal opens. -/
structure IsWord (word : Text) : Prop where
  filled : word ≠ []
  chars : word.all (fun c => isAsciiIdentifierChar c && c ≠ 'r') = true

theorem isPrefixOf?_of_head? {opening rest : Text} {c : Char}
    (isChar : isAsciiIdentifierChar c = true)
    (other : (opening.head?.any fun d => !isAsciiIdentifierChar d) = true) :
    opening.isPrefixOf? (c :: rest) = none := by
  cases opening with
  | nil => cases other
  | cons d opening =>
    apply Text.isPrefixOf?_cons_of_ne
    rintro rfl
    simp [isChar] at other

/-- Words are code if comments and literals open with other characters. -/
theorem readsWords_of_openers {lexicon : Lexicon}
    (lineComment : (lexicon.lineComment.head?.any fun c => !isAsciiIdentifierChar c) = true)
    (lineString : ∀ opening ∈ lexicon.lineString,
      (opening.head?.any fun c => !isAsciiIdentifierChar c) = true)
    (blockComment : ∀ marks ∈ lexicon.blockComment,
      (marks.1.head?.any fun c => !isAsciiIdentifierChar c) = true)
    (quotes : (lexicon.quotes.all fun c => !isAsciiIdentifierChar c) = true) :
    lexicon.ReadsWords := by
  intro c previous rest isChar raw
  have noQuote : c ∉ lexicon.quotes := fun member => by
    simpa [isChar] using List.all_eq_true.mp quotes c member
  have noApostrophe : c ≠ '\'' := by
    rintro rfl
    cases isChar
  have noRaw : ¬(c = 'r' ∧ ¬previous.any isIdentifierChar = true) := by
    rintro ⟨isRaw, opens⟩
    exact opens (raw isRaw)
  have noLine : ¬lexicon.lineComment.isPrefixOf (c :: rest) = true := by
    rw [← List.isSome_isPrefixOf?_eq_isPrefixOf, isPrefixOf?_of_head? isChar lineComment]
    exact Bool.false_ne_true
  have noLineString :
      ¬(lexicon.lineString.any fun opening => opening.isPrefixOf (c :: rest)) = true := by
    cases opens : lexicon.lineString with
    | none => exact Bool.false_ne_true
    | some opening =>
      rw [Option.any_some, ← List.isSome_isPrefixOf?_eq_isPrefixOf,
        isPrefixOf?_of_head? isChar (lineString opening opens)]
      exact Bool.false_ne_true
  rw [Lexicon.hiddenLength, if_neg (not_or.mpr ⟨noLine, noLineString⟩)]
  cases opens : lexicon.blockComment with
  | none =>
    simp only [Option.bind_none, noRaw, noApostrophe, and_false, if_false, List.contains_iff_mem,
      noQuote]
  | some marks =>
    have noBlock : marks.1.isPrefixOf? (c :: rest) = none :=
      isPrefixOf?_of_head? isChar (blockComment marks opens)
    simp only [Option.bind_some, noBlock, Option.map_none, noRaw, noApostrophe, and_false, if_false,
      List.contains_iff_mem, noQuote]

section

variable {lexicon : Lexicon} {word rest : Text}

theorem shade_word (reads : lexicon.ReadsWords)
    (plain : word.all (fun c => isAsciiIdentifierChar c && c ≠ 'r') = true)
    (previous : Option Char) (rest : Text) :
    shade lexicon 0 previous (word ++ rest) =
      word.map (fun c => (c, true)) ++ shade lexicon 0 (word.getLast?.or previous) rest := by
  induction word generalizing previous with
  | nil => rfl
  | cons c word ih =>
    rw [List.all_cons, Bool.and_eq_true, Bool.and_eq_true, decide_eq_true_eq] at plain
    obtain ⟨⟨isChar, other⟩, plain⟩ := plain
    rw [List.cons_append, shade, reads c previous _ isChar fun raw => absurd raw other, ih plain]
    cases word with
    | nil => rfl
    | cons next word =>
      rw [List.getLast?_cons_cons, List.getLast?_eq_some_getLast (List.cons_ne_nil next word)]
      rfl

/-- What comes before matters only to a text that could open a raw literal. -/
theorem shade_of_head? (plain : rest.head? ≠ some 'r') (previous : Option Char) :
    shade lexicon 0 previous rest = shade lexicon 0 none rest := by
  cases rest with
  | nil => rfl
  | cons c rest =>
    have other : c ≠ 'r' := fun same => plain (congrArg some same)
    rw [shade, shade]
    simp [Lexicon.hiddenLength, other]

theorem glyphs_word_append (reads : lexicon.ReadsWords) (isWord : IsWord word)
    (plain : rest.head? ≠ some 'r') :
    glyphs lexicon (word ++ rest) = word.map Glyph.code ++ glyphs lexicon rest := by
  rw [glyphs_eq_flatMap, shade_word reads isWord.chars, shade_of_head? plain, List.flatMap_append,
    List.flatMap_map, ← glyphs_eq_flatMap]
  congr 1
  exact (List.map_eq_flatMap ..).symm

end

end Notebook.Source
