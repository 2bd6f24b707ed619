import Notebook.Proofs.Source.Nesting
import Notebook.Proofs.Text.Lines

/-! # Texts that leave nothing open

A text is sealed if whatever follows it is masked as on its own. Sealed texts can be put together
and taken apart, and a text that is lexically closed is sealed by a newline. Masking keeps newlines
where they are, so the lines of a text and of its mask belong together.
-/

namespace Notebook.Source

/-! ## Masks of texts put together -/

/-- Nothing that follows the text is hidden by it or hides part of it. -/
def Sealed (lexicon : Lexicon) (text : Text) : Prop :=
  ∀ after, mask lexicon (text ++ after) = mask lexicon text ++ mask lexicon after

/-- The text is lexically closed: nothing behind it on the next line is hidden by it. -/
def Closed (lexicon : Lexicon) (text : Text) : Prop :=
  ∀ after, mask lexicon (text ++ '\n' :: after) = mask lexicon text ++ '\n' :: mask lexicon after

section

variable {lexicon : Lexicon} {text rest : Text}

theorem sealed_nil : Sealed lexicon [] :=
  fun _ => rfl

theorem Sealed.append (first : Sealed lexicon text) (second : Sealed lexicon rest) :
    Sealed lexicon (text ++ rest) := by
  intro after
  rw [List.append_assoc, first, first, second, List.append_assoc]

/-- What is behind a sealed text is sealed if the whole is. -/
theorem Sealed.of_append (first : Sealed lexicon text) (whole : Sealed lexicon (text ++ rest)) :
    Sealed lexicon rest := by
  intro after
  have both := whole after
  rw [List.append_assoc, first, first, List.append_assoc] at both
  exact List.append_cancel_left both

theorem Closed.mask_newline (closed : Closed lexicon text) :
    mask lexicon (text ++ ['\n']) = mask lexicon text ++ ['\n'] :=
  closed []

theorem Closed.sealed (closed : Closed lexicon text) : Sealed lexicon (text ++ ['\n']) := by
  intro after
  rw [closed.mask_newline, List.append_assoc, List.append_assoc]
  exact closed after

theorem Closed.of_sealed (whole : Sealed lexicon (text ++ ['\n']))
    (newline : mask lexicon (text ++ ['\n']) = mask lexicon text ++ ['\n']) :
    Closed lexicon text := by
  intro after
  have both := whole after
  rw [newline, List.append_assoc, List.append_assoc] at both
  exact both

/-! ## Texts that are read to their end -/

/-- The character before matters only if it belongs to an identifier. -/
theorem hiddenLength_previous {previous : Option Char}
    (plain : previous.any isIdentifierChar = false) (text : Text) :
    lexicon.hiddenLength previous text = lexicon.hiddenLength none text := by
  cases text with
  | nil => rfl
  | cons c rest => simp [Lexicon.hiddenLength, plain]

theorem shade_previous {previous : Option Char} (plain : previous.any isIdentifierChar = false)
    (text : Text) : shade lexicon 0 previous text = shade lexicon 0 none text := by
  cases text with
  | nil => rfl
  | cons c rest => rw [shade, shade, hiddenLength_previous plain]

/-- A text is sealed if every comment and literal in it ends in it, and so does the last word. -/
theorem sealed_of_shade (last : Char) (plain : isIdentifierChar last = false)
    (through : ∀ after, shade lexicon 0 none (text ++ after) =
      shade lexicon 0 none text ++ shade lexicon 0 (some last) after) :
    Sealed lexicon text := by
  intro after
  have next : shade lexicon 0 (some last) after = shade lexicon 0 none after :=
    shade_previous (by exact plain) after
  rw [mask, glyphs, through, next, List.flatMap_append, Glyph.shownText, List.map_append]
  rfl

end

/-! ## Glyphs put together -/

theorem Glyph.sourceText_append (list rest : List Glyph) :
    sourceText (list ++ rest) = sourceText list ++ sourceText rest :=
  List.filterMap_append

theorem Glyph.shownText_append (list rest : List Glyph) :
    shownText (list ++ rest) = shownText list ++ shownText rest :=
  List.map_append

theorem shownText_code (text : Text) : Glyph.shownText (text.map Glyph.code) = text := by
  rw [Glyph.shownText, List.map_map]
  exact List.map_id text

theorem sourceText_code (text : Text) : Glyph.sourceText (text.map Glyph.code) = text := by
  rw [Glyph.sourceText, List.filterMap_map]
  exact List.filterMap_some ..

/-! ## Newlines -/

/-- Masking keeps newlines, and makes none. -/
theorem shown_eq_newline_iff {lexicon : Lexicon} {source : Text} {glyph : Glyph}
    (member : glyph ∈ glyphs lexicon source) :
    glyph.shown = '\n' ↔ glyph.source = some '\n' := by
  obtain ⟨⟨c, isCode⟩, _, member⟩ := List.mem_flatMap.mp member
  cases isCode with
  | true =>
    obtain rfl := List.mem_singleton.mp member
    simp [Glyph.code]
  | false =>
    by_cases newline : c = '\n'
    · simp only [Glyph.hidden, newline, if_true] at member
      obtain rfl := List.mem_singleton.mp member
      simp
    · simp only [Glyph.hidden, newline, if_false] at member
      rcases List.mem_cons.mp member with rfl | padding
      · simpa using newline
      · obtain rfl := List.eq_of_mem_replicate padding
        simp

/-- Glyphs show as many newlines as they stand for. -/
theorem count_shownText {list : List Glyph}
    (agree : ∀ glyph ∈ list, glyph.shown = '\n' ↔ glyph.source = some '\n') :
    (Glyph.shownText list).count '\n' = (Glyph.sourceText list).count '\n' := by
  induction list with
  | nil => rfl
  | cons glyph rest ih =>
    have here := agree glyph (List.mem_cons_self ..)
    have others := ih fun other member => agree other (List.mem_cons_of_mem _ member)
    obtain ⟨shown, source⟩ := glyph
    cases source with
    | none => simp_all [Glyph.shownText, Glyph.sourceText]
    | some c => simp_all [Glyph.shownText, Glyph.sourceText, List.count_cons]

theorem count_mask (lexicon : Lexicon) (source : Text) :
    (mask lexicon source).count '\n' = source.count '\n' := by
  have counted : (mask lexicon source).count '\n' = _ :=
    count_shownText fun glyph member => shown_eq_newline_iff member
  rw [counted, sourceText_glyphs]

theorem mask_concat_newline (lexicon : Lexicon) (text : Text) :
    ∃ start, mask lexicon (text ++ ['\n']) = start ++ ['\n'] := by
  have marks := map_fst_shade lexicon 0 none (text ++ ['\n'])
  obtain ⟨before, ⟨c, isCode⟩, split⟩ : ∃ before mark,
      shade lexicon 0 none (text ++ ['\n']) = before ++ [mark] := by
    have filled : shade lexicon 0 none (text ++ ['\n']) ≠ [] := by
      intro empty
      rw [empty] at marks
      simp at marks
    exact ⟨_, _, (List.dropLast_concat_getLast filled).symm⟩
  rw [split, List.map_append, List.map_singleton] at marks
  obtain rfl : c = '\n' := List.head_eq_of_cons_eq (List.append_inj_right' marks rfl)
  refine ⟨Glyph.shownText (before.flatMap fun mark =>
    if mark.2 then [Glyph.code mark.1] else Glyph.hidden mark.1), ?_⟩
  rw [mask, glyphs, split, List.flatMap_append, Glyph.shownText, Glyph.shownText, List.map_append]
  cases isCode with
  | true => rfl
  | false => rfl

/-- Cutting glyphs at the newlines that are shown cuts any reading of them in which these stand for
newlines. -/
theorem ofLines_splitOnP (read : Glyph → Text) (list : List Glyph)
    (newlines : ∀ glyph ∈ list, glyph.shown = '\n' → read glyph = ['\n']) :
    Text.ofLines ((list.splitOnP (·.shown = '\n')).map (·.flatMap read)) =
      list.flatMap read ++ ['\n'] := by
  induction list with
  | nil => rfl
  | cons glyph rest ih =>
    have others := ih fun other member => newlines other (List.mem_cons_of_mem _ member)
    rw [List.splitOnP_cons_eq_if_modifyHead]
    by_cases newline : glyph.shown = '\n'
    · have here := newlines glyph (List.mem_cons_self ..) newline
      rw [if_pos (by simpa using newline), List.flatMap_cons, here, List.append_assoc, ← others]
      rfl
    · rw [if_neg (by simpa using newline)]
      obtain ⟨line, lines, split⟩ := List.exists_cons_of_ne_nil
        (List.splitOnP_ne_nil (fun glyph : Glyph => glyph.shown = '\n') rest)
      rw [split] at others ⊢
      rw [List.modifyHead_cons, List.flatMap_cons, List.append_assoc, ← others]
      simp [Text.ofLines]

theorem ofLines_map_sourceText {list : List Glyph}
    (newlines : ∀ glyph ∈ list, glyph.shown = '\n' → glyph.source = some '\n') :
    Text.ofLines ((list.splitOnP (·.shown = '\n')).map Glyph.sourceText) =
      Glyph.sourceText list ++ ['\n'] := by
  have read : Glyph.sourceText = fun list : List Glyph => list.flatMap (·.source.toList) := by
    funext list
    exact List.filterMap_eq_flatMap_toList ..
  rw [read]
  exact ofLines_splitOnP (·.source.toList) list fun glyph member newline => by
    rw [newlines glyph member newline]; rfl

theorem ofLines_map_shownText (list : List Glyph) :
    Text.ofLines ((list.splitOnP (·.shown = '\n')).map Glyph.shownText) =
      Glyph.shownText list ++ ['\n'] := by
  have read : Glyph.shownText = fun list : List Glyph => list.flatMap fun glyph => [glyph.shown] := by
    funext list
    exact List.map_eq_flatMap ..
  rw [read]
  exact ofLines_splitOnP (fun glyph => [glyph.shown]) list fun glyph _ newline => by rw [newline]

/-- The lines of a source put together. -/
theorem ofLines_sourceText (lexicon : Lexicon) (source : Text) :
    Text.ofLines ((glyphLines lexicon source).map Glyph.sourceText) = source ++ ['\n'] := by
  rw [glyphLines, ofLines_map_sourceText fun _ member => (shown_eq_newline_iff member).mp,
    sourceText_glyphs]

/-- The masked lines of a source put together. -/
theorem ofLines_shownText (lexicon : Lexicon) (source : Text) :
    Text.ofLines ((glyphLines lexicon source).map Glyph.shownText) =
      mask lexicon source ++ ['\n'] :=
  ofLines_map_shownText (glyphs lexicon source)

end Notebook.Source
