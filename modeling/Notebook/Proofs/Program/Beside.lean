import Notebook.Proofs.Program.EntryPoints
import Notebook.Proofs.Source.TopLevel

/-! # Declarations beside an entry point

What is split of a cell with an entry point is the rest of the cell, with the entry point under
another name on the lines behind. So a declaration that stands wholly ahead of the entry point or
wholly behind it is left as it is.
-/

namespace Notebook.Program

open Source

/-- The declaration stands wholly ahead of an entry point of its source, or wholly behind it. -/
def IsBeside {lexicon : Lexicon} {source : Text} (top : TopLevel (glyphs lexicon source))
    (entry : EntryPoint) : Prop :=
  (∃ gap, glyphs lexicon entry.before =
      top.earlier ++ (top.indent ++ (top.declared ++ gap))) ∨
    ∃ gap, glyphs lexicon entry.after = gap ++ (top.indent ++ (top.declared ++ top.later))

/-! ## The source around the declaration -/

section

variable {lexicon : Lexicon} {form : EntryForm} {source : Text} {entry : EntryPoint}
  (parts : EntryParts form (glyphs lexicon source) entry) (top : TopLevel (glyphs lexicon source))
  {gap : List Glyph}

/-- Behind a declaration ahead of the entry point comes the entry point. -/
theorem later_eq (split : parts.before = top.earlier ++ (top.indent ++ (top.declared ++ gap))) :
    top.later = gap ++ (parts.visibility ++ parts.keyword ++
      (parts.name ++ (parts.tail ++ parts.after))) := by
  have same := top.split.symm.trans parts.whole
  rw [split] at same
  simp only [List.append_assoc, List.append_cancel_left_eq] at same ⊢
  exact same

/-- A declaration on a line of its own ahead of the entry point has its line break ahead of it. -/
theorem endsLine_gap_of_ahead (plain : form.IsPlain) (whole : top.IsWhole)
    (split : parts.before = top.earlier ++ (top.indent ++ (top.declared ++ gap)))
    (rest : List Glyph) : ∀ glyph ∈ (gap ++ rest).head?, glyph.shown = '\n' := by
  have ends := whole.endsLine
  rw [later_eq parts top split] at ends
  cases gap with
  | cons newline gap => exact ends
  | nil =>
    -- The entry point would start on the line of the declaration.
    obtain ⟨_, letter, others, starts, isLetter⟩ :=
      parts.exists_letter plain (parts.tail ++ parts.after)
    rw [List.nil_append, starts] at ends
    rw [ends letter rfl] at isLetter
    cases isLetter

variable (split : parts.after = gap ++ (top.indent ++ (top.declared ++ top.later)))

include split

/-- Ahead of a declaration behind the entry point comes the entry point. -/
theorem earlier_eq :
    top.earlier = parts.before ++ ((parts.visibility ++ parts.keyword) ++
      (parts.name ++ (parts.tail ++ gap))) := by
  have same := top.split.symm.trans parts.whole
  rw [split] at same
  refine List.append_cancel_right (same.trans ?_)
  simp only [List.append_assoc]

/-- A declaration behind the entry point starts a line also without it. -/
theorem endsLine_gap_of_behind : EndsLine (parts.before ++ gap) := by
  have ends := top.startsLine
  rw [earlier_eq parts top split] at ends
  rcases List.eq_nil_or_concat' gap with rfl | ⟨start, last, rfl⟩
  · -- The entry point ends with a brace on the same line.
    obtain ⟨brace, last, isBrace⟩ := Option.map_eq_some_iff.mp parts.tailEnds
    obtain ⟨start, isTail⟩ := List.getLast?_eq_some_iff.mp last
    have isNewline : brace.shown = '\n' := by
      apply ends
      rw [isTail]
      simp
    rw [isBrace] at isNewline
    cases isNewline
  · intro glyph isLast
    apply ends
    rw [← List.append_assoc, List.getLast?_concat] at isLast
    rw [← Option.some_inj.mp isLast]
    simp

/-- No bracket is open ahead of a declaration behind the entry point, also without it. -/
theorem isNested_gap (plain : form.IsPlain) (reads : lexicon.ReadsWords)
    (detachable : IsDetachable lexicon entry) (nested : IsNested (mask lexicon source)) :
    IsNested (Glyph.shownText (parts.before ++ gap)) := by
  obtain ⟨before, lead, _⟩ := parts.eq_glyphs plain detachable
  obtain ⟨beforeNested, leadNested, _⟩ := parts.isNested plain reads detachable nested
  have unopened := top.isNested_earlier nested
  have nameNested : IsNested (Glyph.shownText parts.name) :=
    parts.isName ▸ isNested_word plain.name
  rw [earlier_eq parts top split, before, lead, parts.tail_eq plain reads detachable] at unopened
  simp only [Glyph.shownText_append] at unopened
  rw [before, Glyph.shownText_append]
  exact beforeNested.append (detachable.nested.of_append (nameNested.of_append
    (leadNested.of_append (beforeNested.of_append unopened))))

end

/-! ## What is split -/

section

variable {family : Family} {lexicon : Lexicon} {form : EntryForm} {classify : Text → Placement}
  {planned : PlannedEntry} {entry : EntryPoint}
  (hasLexicon : lexicon? family = some lexicon) (hasForm : entryForm? family = some form)
  (splits : classifier? family = some classify) (notJai : family ≠ .jai)
  (contributes : planned.role.contributes = true)
  (closed : Closed lexicon planned.entry.content)
  (nested : IsNested (mask lexicon planned.entry.content))
  (found : entryPoint? lexicon form planned.entry.content = some entry)
  (detachable : IsDetachable lexicon entry)

include hasLexicon hasForm splits notJai contributes closed nested found detachable

theorem glyphs_routedText :
    glyphs lexicon (routedText family planned) =
      glyphs lexicon entry.before ++ (glyphs lexicon entry.after ++ ([Glyph.code '\n'] ++
        (glyphs lexicon entry.lead ++ ((cellMain family planned.entry.index).map Glyph.code ++
          glyphs lexicon entry.tail)))) := by
  have plain := isPlain_of_entryForm? hasForm
  have reads := readsWords_of_lexicon? hasLexicon
  obtain ⟨parts⟩ := exists_parts found
  obtain ⟨afterClosed, _⟩ := parts.remainder plain reads detachable closed nested
  have spliced : spliced? family planned.role planned.entry.content = some entry :=
    (spliced?_of_classifier hasLexicon hasForm splits contributes).trans found
  have text : routedText family planned = entry.before ++ (entry.after ++ ['\n'] ++
      entry.renamed (cellMain family planned.entry.index)) := by
    rw [routedText, spliced]
    dsimp only
    rw [if_neg notJai, EntryPoint.remainder]
    simp only [List.append_assoc, List.singleton_append]
  have line : glyphs lexicon (entry.after ++ ['\n']) =
      glyphs lexicon entry.after ++ [Glyph.code '\n'] := by
    rw [← glyphs_newline hasLexicon]
    apply glyphs_append_of_mask
    rw [afterClosed.mask_newline, mask, mask, glyphs_newline hasLexicon]
    rfl
  have isWord := isWord_cellMain hasLexicon planned.entry.index
  have renamed := parts.glyphs_renamed plain reads detachable isWord []
  rw [List.append_nil, show glyphs lexicon [] = [] from rfl, List.append_nil] at renamed
  rw [text, detachable.before.glyphs_append, afterClosed.sealed.glyphs_append, line, renamed,
    List.append_assoc]

/-- A declaration ahead of the entry point of its cell stays one of what is split. -/
theorem exists_ahead {top : TopLevel (glyphs lexicon planned.entry.content)} {gap : List Glyph}
    (split : glyphs lexicon entry.before =
      top.earlier ++ (top.indent ++ (top.declared ++ gap))) :
    ∃ same : TopLevel (glyphs lexicon (routedText family planned)),
      same.indent = top.indent ∧ same.declared = top.declared ∧ (top.IsWhole → same.IsWhole) := by
  have plain := isPlain_of_entryForm? hasForm
  have whole := glyphs_routedText hasLexicon hasForm splits notJai contributes closed nested found
    detachable
  obtain ⟨parts⟩ := exists_parts found
  obtain ⟨before, _⟩ := parts.eq_glyphs plain detachable
  rw [split] at whole
  simp only [List.append_assoc] at whole
  exact ⟨top.among whole top.startsLine (top.isNested_earlier nested), rfl, rfl,
    fun own => own.among (endsLine_gap_of_ahead parts top plain own (before.trans split) _)⟩

/-- A declaration behind the entry point of its cell stays one of what is split. -/
theorem exists_behind {top : TopLevel (glyphs lexicon planned.entry.content)} {gap : List Glyph}
    (split : glyphs lexicon entry.after = gap ++ (top.indent ++ (top.declared ++ top.later))) :
    ∃ same : TopLevel (glyphs lexicon (routedText family planned)),
      same.indent = top.indent ∧ same.declared = top.declared ∧ (top.IsWhole → same.IsWhole) := by
  have plain := isPlain_of_entryForm? hasForm
  have whole := glyphs_routedText hasLexicon hasForm splits notJai contributes closed nested found
    detachable
  obtain ⟨parts⟩ := exists_parts found
  obtain ⟨before, _, _, after⟩ := parts.eq_glyphs plain detachable
  have behind := after.trans split
  have lines : glyphs lexicon (routedText family planned) =
      (parts.before ++ gap) ++ (top.indent ++ (top.declared ++ (top.later ++ ([Glyph.code '\n'] ++
        (glyphs lexicon entry.lead ++ ((cellMain family planned.entry.index).map Glyph.code ++
          glyphs lexicon entry.tail)))))) := by
    rw [whole, split, before]
    simp only [List.append_assoc]
  refine ⟨top.among lines (endsLine_gap_of_behind parts top behind)
    (isNested_gap parts top behind plain (readsWords_of_lexicon? hasLexicon) detachable nested),
    rfl, rfl, fun own => own.among fun glyph first => ?_⟩
  have ends := own.endsLine
  cases later : top.later with
  | nil =>
    rw [later] at first
    rw [← Option.some_inj.mp first]
    rfl
  | cons newline rest =>
    rw [later] at first ends
    exact ends glyph first

/-- A declaration beside the entry point of its cell stays one of what is split. -/
theorem exists_beside {top : TopLevel (glyphs lexicon planned.entry.content)}
    (beside : IsBeside top entry) :
    ∃ same : TopLevel (glyphs lexicon (routedText family planned)),
      same.indent = top.indent ∧ same.declared = top.declared ∧ (top.IsWhole → same.IsWhole) := by
  rcases beside with ⟨gap, split⟩ | ⟨gap, split⟩
  · exact exists_ahead hasLexicon hasForm splits notJai contributes closed nested found detachable
      split
  · exact exists_behind hasLexicon hasForm splits notJai contributes closed nested found
      detachable split

end

/-- The declaration is on lines of its own in a cell, beside the entry point if there is one. -/
structure StandsAlone (lexicon : Lexicon) (form : EntryForm) (content : Text)
    (top : TopLevel (glyphs lexicon content)) : Prop where
  whole : top.IsWhole
  beside : ∀ entry, entryPoint? lexicon form content = some entry →
    Closed lexicon content ∧ IsNested (mask lexicon content) ∧ IsDetachable lexicon entry ∧
      IsBeside top entry

/-- A declaration on lines of its own is split off a cell if its first line says so. -/
theorem StandsAlone.mem_imports {family : Family} {lexicon : Lexicon} {form : EntryForm}
    {classify : Text → Placement} {planned : PlannedEntry}
    {top : TopLevel (glyphs lexicon planned.entry.content)}
    (alone : StandsAlone lexicon form planned.entry.content top)
    (hasLexicon : lexicon? family = some lexicon) (hasForm : entryForm? family = some form)
    (splits : classifier? family = some classify) (notJai : family ≠ .jai)
    (contributes : planned.role.contributes = true)
    (imported : classify (leadLine top.lines) = .imported) :
    Text.trimEnd (Glyph.sourceText (top.indent ++ top.declared)) ∈
      (route lexicon classify (routedText family planned)).imports := by
  have same := spliced?_of_classifier hasLexicon hasForm splits contributes
  cases found : entryPoint? lexicon form planned.entry.content with
  | none =>
    have whole : routedText family planned = planned.entry.content := by
      rw [routedText, same, found]
    rw [whole]
    exact alone.whole.mem_imports imported
  | some entry =>
    obtain ⟨closed, nested, detachable, beside⟩ := alone.beside entry found
    obtain ⟨own, indent, declared, whole⟩ := exists_beside hasLexicon hasForm splits notJai
      contributes closed nested found detachable beside
    have whole := whole alone.whole
    have lines : own.lines = top.lines := by
      rw [TopLevel.lines, TopLevel.lines, whole.lineGlyphs_eq, alone.whole.lineGlyphs_eq, indent,
        declared]
    rw [← indent, ← declared]
    exact whole.mem_imports (lines ▸ imported)

end Notebook.Program
