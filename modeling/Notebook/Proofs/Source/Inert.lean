import Notebook.Proofs.Source.Splicing

/-! # Texts without declarations

A text that is sound, declares no entry point and ends with a line can stand at module scope: it can
be put together with others like it, and taken apart again. Statements keep to this when a cell is
split, if they keep to it up to each cut. Brackets around a sound text hide what it declares.
-/

namespace Notebook.Source

/-- The text can stand at module scope without a trace for the search. -/
structure IsInert (lexicon : Lexicon) (form : EntryForm) (text : Text) : Prop where
  sound : Sound lexicon text
  undeclaring : Undeclaring form (glyphs lexicon text)
  ends : ∀ c, (mask lexicon text).getLast? = some c → c = '\n'

section

variable {lexicon : Lexicon} {form : EntryForm} {text rest : Text}

theorem isInert_nil : IsInert lexicon form [] :=
  ⟨sound_nil, undeclaring_nil form, nofun⟩

theorem endsInWord_of_ends {list : List Glyph}
    (ends : ∀ c, (Glyph.shownText list).getLast? = some c → c = '\n') :
    endsInWord list = false := by
  rw [endsInWord]
  cases last : list.getLast? with
  | none => rfl
  | some glyph =>
    have newline := ends glyph.shown (by rw [Glyph.shownText, List.getLast?_map, last]; rfl)
    rw [Option.any_some, newline]
    rfl

theorem IsInert.append (first : IsInert lexicon form text) (second : IsInert lexicon form rest) :
    IsInert lexicon form (text ++ rest) where
  sound := first.sound.append second.sound
  undeclaring := by
    rw [first.sound.isSealed.glyphs_append]
    exact first.undeclaring.append second.undeclaring
  ends := by
    intro c last
    rw [first.sound.isSealed, List.getLast?_append] at last
    cases behind : (mask lexicon rest).getLast? with
    | none =>
      rw [behind] at last
      exact first.ends c last
    | some d =>
      rw [behind] at last
      exact second.ends c (behind.trans last)

theorem IsInert.of_append (first : IsInert lexicon form text)
    (whole : IsInert lexicon form (text ++ rest)) : IsInert lexicon form rest where
  sound := first.sound.of_append whole.sound
  undeclaring := by
    have undeclaring := whole.undeclaring
    rw [first.sound.isSealed.glyphs_append] at undeclaring
    exact first.undeclaring.of_append (endsInWord_of_ends first.ends) undeclaring
  ends := by
    intro c last
    apply whole.ends c
    rw [first.sound.isSealed, List.getLast?_append, last]
    rfl

theorem isInert_flatMap {α : Type} {list : List α} {part : α → Text}
    (inert : ∀ item ∈ list, IsInert lexicon form (part item)) :
    IsInert lexicon form (list.flatMap part) := by
  induction list with
  | nil => exact isInert_nil
  | cons item others ih =>
    rw [List.flatMap_cons]
    apply IsInert.append
    · exact inert item (List.mem_cons_self ..)
    · exact ih fun other member => inert other (List.mem_cons_of_mem _ member)

theorem isInert_line (sound : Sound lexicon (text ++ ['\n']))
    (undeclaring : Undeclaring form (glyphs lexicon (text ++ ['\n']))) :
    IsInert lexicon form (text ++ ['\n']) := by
  refine ⟨sound, undeclaring, ?_⟩
  intro c last
  obtain ⟨start, masked⟩ := mask_concat_newline lexicon text
  rw [masked, List.getLast?_concat] at last
  exact (Option.some_inj.mp last).symm

/-- Behind an inert text the search finds what comes next, or something ahead of it. -/
theorem length_before_of_entryPoint? {ahead : Text} {entry found : EntryPoint}
    (plain : form.StartsPlain) (inert : IsInert lexicon form ahead)
    (apart : glyphs lexicon (text ++ rest) = glyphs lexicon text ++ glyphs lexicon rest)
    (declares : entryPoint? lexicon form text = some entry)
    (finds : entryPoint? lexicon form (ahead ++ (text ++ rest)) = some found) :
    found.before.length ≤ (ahead ++ text).length := by
  obtain ⟨passed, declaration, split, level, reads, inWord, _⟩ :=
    exists_of_declarations? (declarations?_of_entryPoint? declares)
  have whole : glyphs lexicon (ahead ++ (text ++ rest)) =
      (glyphs lexicon ahead ++ passed) ++
        (declaration.glyphs ++ declaration.after ++ glyphs lexicon rest) := by
    rw [inert.sound.isSealed.glyphs_append, apart, split]
    simp only [List.append_assoc]
  have searched := declarations?_of_entryPoint? finds
  rw [whole] at searched
  have start : 0 + depthOf (glyphs lexicon ahead ++ passed) = 0 := by
    rw [depthOf_append, inert.undeclaring.level]
    omega
  have behind : endsInWord ([].reverse ++ (glyphs lexicon ahead ++ passed)) = false := by
    rcases eq_or_ne passed [] with rfl | filled
    · rw [List.append_nil]
      exact endsInWord_of_ends inert.ends
    · rw [List.reverse_nil, List.nil_append, endsInWord_append filled]
      exact inWord
  obtain ⟨first, others, same, bound⟩ := length_before_le plain start behind
    (readDeclaration_append reads (glyphs lexicon rest)) searched
  obtain ⟨rfl, _⟩ := List.cons_eq_cons.mp same
  refine bound.trans ?_
  have within : (Glyph.sourceText passed).length ≤ text.length := by
    rw [← sourceText_glyphs lexicon text, split, Glyph.sourceText, Glyph.sourceText,
      List.filterMap_append]
    exact (List.prefix_append _ _).length_le
  rw [List.reverse_nil, List.nil_append, Glyph.sourceText, List.filterMap_append,
    ← Glyph.sourceText, ← Glyph.sourceText, sourceText_glyphs, List.length_append,
    List.length_append]
  exact Nat.add_le_add_left within _

/-- Sealed texts that open and close brackets around a sound one. -/
theorem undeclaring_enclosed {opening closing : Text} {initial : Char} (inside : Sound lexicon text)
    (starts : form.opening.head? = some initial) (openingSealed : Sealed lexicon opening)
    (opens : depthOf (glyphs lexicon opening) = 1)
    (closes : depthOf (glyphs lexicon closing) = -1)
    (openingAvoids : avoids initial false (glyphs lexicon opening) = true)
    (closingAvoids : avoids initial false (glyphs lexicon closing) = true) :
    Undeclaring form (glyphs lexicon (opening ++ text ++ closing)) := by
  have level : depthOf (glyphs lexicon text) = 0 := depthOf_eq_zero inside.isNested
  rw [List.append_assoc, openingSealed.glyphs_append, inside.isSealed.glyphs_append]
  constructor
  · rw [depthOf_append, depthOf_append, opens, level, closes]
    rfl
  · apply (noneStarts_of_avoids starts openingAvoids 0).append
    rw [opens]
    apply (noneStarts_of_isNested inside.isNested (by decide)).append
    exact noneStarts_of_avoids starts closingAvoids _

/-! ## Parts of a cell -/

/-- Each part of a cell is inert if the cell is, and so is what stands before each cut. -/
theorem isInert_part {classify : Text → Placement} (closed : Closed lexicon text)
    (nested : IsNested (mask lexicon text))
    (whole : Undeclaring form (glyphs lexicon (text ++ ['\n'])))
    (cuts : CutsInto
      (fun before => Sealed lexicon before ∧ Undeclaring form (glyphs lexicon before))
      lexicon classify text) (placement : Placement) :
    IsInert lexicon form (((statements lexicon text).filter fun statement =>
      classify (leadLine statement) = placement).flatMap statementText) := by
  have clean : CutsCleanly lexicon classify text := fun earlier last next later cut leaves =>
    (cuts earlier last next later cut leaves).1
  refine part_of_cuts IsInert.append IsInert.of_append isInert_nil
    (isInert_line (closed.sound nested) whole) ?_ placement
  intro earlier last next later cut leaves
  refine ⟨clean.sound closed nested earlier last next later cut leaves,
    (cuts earlier last next later cut leaves).2, ?_⟩
  intro c ends
  rw [show (earlier ++ [last]).flatMap statementText = _ from
    flatMap_ofLines Glyph.sourceText (earlier ++ [last])] at ends
  exact getLast?_mask_ofLines ends

end

end Notebook.Source
