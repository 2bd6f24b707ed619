import Notebook.Proofs.Source.Sealed

/-! # Cells cut into parts

Routing sends each statement of a cell to one of its parts. The statements of a part were apart in
the cell, and between them stood others; so the part is sound only if no statement was cut in the
middle of a comment or a literal. This is asked for only where neighbouring statements go to
different places: a comment over several lines may well be cut between statements that stay
together.
-/

namespace Notebook.Source

/-- The text is sealed and its brackets are properly nested. -/
structure Sound (lexicon : Lexicon) (text : Text) : Prop where
  isSealed : Sealed lexicon text
  isNested : IsNested (mask lexicon text)

section

variable {lexicon : Lexicon} {text rest : Text}

theorem sound_nil : Sound lexicon [] :=
  ⟨sealed_nil, isNested_nil⟩

theorem Sound.append (first : Sound lexicon text) (second : Sound lexicon rest) :
    Sound lexicon (text ++ rest) where
  isSealed := first.isSealed.append second.isSealed
  isNested := by
    rw [first.isSealed]
    exact first.isNested.append second.isNested

/-- What is behind a sound text is sound if the whole is. -/
theorem Sound.of_append (first : Sound lexicon text) (whole : Sound lexicon (text ++ rest)) :
    Sound lexicon rest where
  isSealed := first.isSealed.of_append whole.isSealed
  isNested := by
    have nested := whole.isNested
    rw [first.isSealed] at nested
    exact first.isNested.of_append nested

/-- Sealed texts that open and close brackets around a sound one. -/
theorem Sound.enclosed {opening closing : Text} {brackets : List Char}
    (inside : Sound lexicon text) (openingSealed : Sealed lexicon opening)
    (opens : opened? [] (mask lexicon opening) = some brackets)
    (closingSealed : Sealed lexicon closing)
    (closes : opened? brackets (mask lexicon closing) = some []) :
    Sound lexicon (opening ++ text ++ closing) where
  isSealed := (openingSealed.append inside.isSealed).append closingSealed
  isNested := by
    rw [openingSealed.append inside.isSealed, openingSealed, IsNested, opened?_append,
      opened?_append, opens, Option.bind_some, inside.isNested.opened?, Option.bind_some]
    exact closes

theorem sound_flatMap {α : Type} {list : List α} {part : α → Text}
    (sound : ∀ item ∈ list, Sound lexicon (part item)) : Sound lexicon (list.flatMap part) := by
  induction list with
  | nil => exact sound_nil
  | cons item others ih =>
    rw [List.flatMap_cons]
    apply Sound.append
    · exact sound item (List.mem_cons_self ..)
    · exact ih fun other member => sound other (List.mem_cons_of_mem _ member)

theorem Closed.sound (closed : Closed lexicon text) (nested : IsNested (mask lexicon text)) :
    Sound lexicon (text ++ ['\n']) where
  isSealed := closed.sealed
  isNested := by
    rw [closed.mask_newline]
    exact nested.append rfl

end

/-! ## Statements of a source -/

section

variable {lexicon : Lexicon} {source : Text}

theorem flatMap_ofLines (read : List Glyph → Text) (list : List (List (List Glyph))) :
    list.flatMap (fun statement => Text.ofLines (statement.map read)) =
      Text.ofLines (list.flatten.map read) := by
  induction list with
  | nil => rfl
  | cons statement others ih =>
    rw [List.flatMap_cons, ih, List.flatten_cons, List.map_append, Text.ofLines, Text.ofLines,
      Text.ofLines, List.flatMap_append]

/-- The statements put together are the source with its last line ended. -/
theorem flatMap_statementText (lexicon : Lexicon) (source : Text) :
    (statements lexicon source).flatMap statementText = source ++ ['\n'] := by
  have together := flatMap_ofLines Glyph.sourceText (statements lexicon source)
  rw [statements, flatten_groupLines, ofLines_sourceText] at together
  exact together

theorem isNested_statementMask (nested : IsNested (mask lexicon source)) :
    ∀ statement ∈ statements lexicon source, IsNested (statementMask statement) := by
  intro statement member
  have reads : opened? [] (Text.ofLines ((glyphLines lexicon source).map Glyph.shownText)) =
      some [] := by
    rw [ofLines_shownText]
    exact nested.append rfl
  cases grouped : statements lexicon source with
  | nil =>
    rw [grouped] at member
    contradiction
  | cons first others =>
    obtain ⟨firstNested, othersNested⟩ := isNested_groupLines reads first others grouped
    rw [grouped] at member
    rcases List.mem_cons.mp member with rfl | member
    · exact firstNested
    · exact othersNested statement member

/-- What stands in a piece stands in the list, and the list is not cut at it. -/
theorem of_mem_splitOnP {α : Type} {p : α → Bool} {list part : List α} {item : α}
    (isPart : part ∈ list.splitOnP p) (member : item ∈ part) : item ∈ list ∧ p item = false := by
  induction list generalizing part with
  | nil =>
    obtain rfl := List.mem_singleton.mp isPart
    contradiction
  | cons first rest ih =>
    have behind : ∀ {part}, part ∈ rest.splitOnP p → item ∈ part →
        item ∈ first :: rest ∧ p item = false := by
      intro part isPart member
      obtain ⟨inRest, uncut⟩ := ih isPart member
      exact ⟨List.mem_cons_of_mem _ inRest, uncut⟩
    rw [List.splitOnP_cons_eq_if_modifyHead] at isPart
    split at isPart
    next =>
      rcases List.mem_cons.mp isPart with rfl | isPart
      · contradiction
      · exact behind isPart member
    next uncut =>
      obtain ⟨line, lines, split⟩ := List.exists_cons_of_ne_nil (List.splitOnP_ne_nil p rest)
      rw [split] at behind isPart
      rcases List.mem_cons.mp isPart with rfl | isPart
      · rcases List.mem_cons.mp member with rfl | member
        · exact ⟨List.mem_cons_self .., Bool.eq_false_iff.mpr uncut⟩
        · exact behind (List.mem_cons_self ..) member
      · exact behind (List.mem_cons_of_mem _ isPart) member

end

/-! ## Cuts between lines -/

/-- A text of whole lines is empty or ends with a newline. -/
theorem getLast?_ofLines {lines : List Text} {c : Char}
    (ends : (Text.ofLines lines).getLast? = some c) : c = '\n' := by
  rcases List.eq_nil_or_concat lines with rfl | ⟨start, line, rfl⟩
  · contradiction
  · simp only [Text.ofLines, List.concat_eq_append, List.flatMap_append, List.flatMap_singleton,
      ← List.append_assoc, List.getLast?_concat] at ends
    exact (Option.some_inj.mp ends).symm

theorem getLast?_mask_ofLines {lexicon : Lexicon} {lines : List Text} {c : Char}
    (ends : (mask lexicon (Text.ofLines lines)).getLast? = some c) : c = '\n' := by
  rcases List.eq_nil_or_concat lines with rfl | ⟨start, line, rfl⟩
  · contradiction
  · obtain ⟨before, masked⟩ := mask_concat_newline lexicon (Text.ofLines start ++ line)
    simp only [Text.ofLines, List.concat_eq_append, List.flatMap_append, List.flatMap_singleton,
      ← List.append_assoc] at ends masked
    rw [masked, List.getLast?_concat] at ends
    exact (Option.some_inj.mp ends).symm

/-- Of a text of whole lines, so many lines are one start only. -/
theorem start_unique {start other rest others : Text}
    (startEnds : ∀ c, start.getLast? = some c → c = '\n')
    (otherEnds : ∀ c, other.getLast? = some c → c = '\n')
    (same : start ++ rest = other ++ others) (count : start.count '\n' = other.count '\n') :
    start = other := by
  have longer : ∀ {start gap : Text}, (∀ c, (start ++ gap).getLast? = some c → c = '\n') →
      start.count '\n' = (start ++ gap).count '\n' → gap = [] := by
    intro start gap ends count
    rcases List.eq_nil_or_concat gap with rfl | ⟨before, c, rfl⟩
    · rfl
    · have newline := ends c (by simp)
      rw [newline, List.concat_eq_append, List.count_append, List.count_append,
        List.count_singleton_self] at count
      omega
  rcases List.append_eq_append_iff.mp same with ⟨gap, rfl, _⟩ | ⟨gap, rfl, _⟩
  · rw [longer otherEnds count, List.append_nil]
  · rw [longer startEnds count.symm, List.append_nil]

theorem count_ofLines {lines : List (List Glyph)}
    (agree : ∀ line ∈ lines, ∀ glyph ∈ line, glyph.shown = '\n' ↔ glyph.source = some '\n') :
    (Text.ofLines (lines.map Glyph.shownText)).count '\n' =
      (Text.ofLines (lines.map Glyph.sourceText)).count '\n' := by
  induction lines with
  | nil => rfl
  | cons line rest ih =>
    have here := count_shownText (agree line (List.mem_cons_self ..))
    have below := ih fun other isLine => agree other (List.mem_cons_of_mem _ isLine)
    simp only [Text.ofLines, List.map_cons, List.flatMap_cons, List.count_append] at below ⊢
    omega

/-- A cell that is cut behind a sealed text is cut in the mask at the same place. -/
theorem mask_ofLines {lexicon : Lexicon} {source : Text} {lines others : List (List Glyph)}
    (closed : Closed lexicon source) (cut : glyphLines lexicon source = lines ++ others)
    (sealedLines : Sealed lexicon (Text.ofLines (lines.map Glyph.sourceText))) :
    mask lexicon (Text.ofLines (lines.map Glyph.sourceText)) =
      Text.ofLines (lines.map Glyph.shownText) := by
  have texts := ofLines_sourceText lexicon source
  have masks := ofLines_shownText lexicon source
  rw [cut, List.map_append, Text.ofLines, List.flatMap_append] at texts masks
  rw [← closed.mask_newline, ← texts] at masks
  have both := masks.trans (sealedLines _)
  have count : (Text.ofLines (lines.map Glyph.shownText)).count '\n' =
      (mask lexicon (Text.ofLines (lines.map Glyph.sourceText))).count '\n' := by
    rw [count_mask]
    apply count_ofLines
    intro line isLine glyph member
    have isLine : line ∈ glyphLines lexicon source := cut ▸ List.mem_append_left _ isLine
    exact shown_eq_newline_iff (of_mem_splitOnP isLine member).1
  exact (start_unique (fun c => getLast?_ofLines) (fun c => getLast?_mask_ofLines) both count).symm

/-! ## Parts of a cell -/

/-- Where neighbouring statements go to different places, what stands before the cut has a
property. -/
def CutsInto (holds : Text → Prop) (lexicon : Lexicon) (classify : Text → Placement)
    (source : Text) : Prop :=
  ∀ earlier last next later, statements lexicon source = earlier ++ last :: next :: later →
    classify (leadLine last) ≠ classify (leadLine next) →
      holds ((earlier ++ [last]).flatMap statementText)

section

variable {holds : Text → Prop} {lexicon : Lexicon} {classify : Text → Placement} {source : Text}
  {place : Placement}

/-- It is enough to look at the beginnings of a cell. -/
theorem cutsInto_of_take
    (each : ∀ count, 0 < count → count < (statements lexicon source).length →
      holds (((statements lexicon source).take count).flatMap statementText)) :
    CutsInto holds lexicon classify source := by
  intro earlier last next later cut _
  have length : (statements lexicon source).length = earlier.length + 1 + (later.length + 1) := by
    rw [cut, List.length_append, List.length_cons, List.length_cons]
    omega
  have start := each (earlier.length + 1) (by omega) (by omega)
  rwa [cut, ← List.singleton_append, ← List.append_assoc, List.take_left' (by simp)] at start

/-- Of statements that go to one place, a part gets all or none. -/
theorem filter_of_same {list : List (List (List Glyph))} (nil : holds [])
    (same : ∀ statement ∈ list, classify (leadLine statement) = place)
    (all : holds (list.flatMap statementText)) (placement : Placement) :
    holds ((list.filter fun statement =>
      classify (leadLine statement) = placement).flatMap statementText) := by
  by_cases goes : place = placement
  · rwa [List.filter_eq_self.mpr fun statement member => by simp [same statement member, goes]]
  · rwa [List.filter_eq_nil_iff.mpr fun statement member => by simp [same statement member, goes]]

theorem CutsInto.through {earlier waiting later : List (List (List Glyph))}
    {next : List (List Glyph)} (cuts : CutsInto holds lexicon classify source)
    (cut : statements lexicon source = earlier ++ (waiting ++ next :: later))
    (holdsEarlier : holds (earlier.flatMap statementText))
    (same : ∀ statement ∈ waiting, classify (leadLine statement) = place)
    (leaves : classify (leadLine next) ≠ place) :
    holds ((earlier ++ waiting).flatMap statementText) := by
  rcases List.eq_nil_or_concat waiting with rfl | ⟨start, last, rfl⟩
  · rwa [List.append_nil]
  · have stays : classify (leadLine last) = place := same last (by simp)
    rw [List.concat_eq_append, ← List.append_assoc]
    apply cuts _ last next later
    · simp [cut]
    · rw [stays]
      exact leaves.symm

variable (append : ∀ {text rest : Text}, holds text → holds rest → holds (text ++ rest))
  (cancel : ∀ {text rest : Text}, holds text → holds (text ++ rest) → holds rest)

include append cancel

/-- What a part gets of the statements behind a cut has the property. The induction is on the
statements still to be read; those that were read wait as long as all go to one place. -/
theorem filter_of_cuts {later : List (List (List Glyph))} {placement : Placement} (nil : holds [])
    (whole : holds (source ++ ['\n'])) (cuts : CutsInto holds lexicon classify source) :
    ∀ earlier waiting place, statements lexicon source = earlier ++ (waiting ++ later) →
      holds (earlier.flatMap statementText) →
      (∀ statement ∈ waiting, classify (leadLine statement) = place) →
      holds (((waiting ++ later).filter fun statement =>
        classify (leadLine statement) = placement).flatMap statementText) := by
  have between : ∀ {earlier waiting : List (List (List Glyph))},
      holds (earlier.flatMap statementText) →
      holds ((earlier ++ waiting).flatMap statementText) →
        holds (waiting.flatMap statementText) := by
    intro earlier waiting first through
    rw [List.flatMap_append] at through
    exact cancel first through
  induction later with
  | nil =>
    intro earlier waiting place cut holdsEarlier same
    rw [List.append_nil] at cut ⊢
    refine filter_of_same nil same (between holdsEarlier ?_) placement
    rwa [← cut, flatMap_statementText]
  | cons next later ih =>
    intro earlier waiting place cut holdsEarlier same
    by_cases stays : classify (leadLine next) = place
    · rw [List.append_cons]
      apply ih earlier (waiting ++ [next]) place _ holdsEarlier
      · intro statement member
        rcases List.mem_append.mp member with member | member
        · exact same statement member
        · rw [List.mem_singleton.mp member, stays]
      · rw [cut, List.append_cons]
    · have through := cuts.through cut holdsEarlier same stays
      rw [List.filter_append, List.flatMap_append]
      apply append
      · exact filter_of_same nil same (between holdsEarlier through) placement
      · apply ih (earlier ++ waiting) [next] (classify (leadLine next)) _ through
        · intro statement member
          rw [List.mem_singleton.mp member]
        · rw [cut, List.append_assoc]
          rfl

/-- A property that is kept when texts are put together and when a start is taken off is kept by
each part of a cell, if it holds of the whole and of what stands before each cut. -/
theorem part_of_cuts (nil : holds []) (whole : holds (source ++ ['\n']))
    (cuts : CutsInto holds lexicon classify source) (placement : Placement) :
    holds (((statements lexicon source).filter fun statement =>
      classify (leadLine statement) = placement).flatMap statementText) := by
  apply filter_of_cuts append cancel nil whole cuts [] [] placement rfl nil
  exact fun _ member => nomatch member

end

/-- Where neighbouring statements go to different places, no comment or literal goes from one to
the other. -/
def CutsCleanly (lexicon : Lexicon) (classify : Text → Placement) (source : Text) : Prop :=
  ∀ earlier last next later, statements lexicon source = earlier ++ last :: next :: later →
    classify (leadLine last) ≠ classify (leadLine next) →
      Sealed lexicon ((earlier ++ [last]).flatMap statementText)

section

variable {lexicon : Lexicon} {source : Text}

/-- A cell of two statements is cut in one place only. -/
theorem cutsCleanly_of_two {classify : Text → Placement}
    (two : (statements lexicon source).length = 2)
    (first : Sealed lexicon (((statements lexicon source).take 1).flatMap statementText)) :
    CutsCleanly lexicon classify source := by
  apply cutsInto_of_take
  intro count positive below
  obtain rfl : count = 1 := by omega
  exact first

theorem mask_statements {earlier later : List (List (List Glyph))} (closed : Closed lexicon source)
    (cut : statements lexicon source = earlier ++ later)
    (sealedEarlier : Sealed lexicon (earlier.flatMap statementText)) :
    mask lexicon (earlier.flatMap statementText) = earlier.flatMap statementMask := by
  have texts : earlier.flatMap statementText = _ := flatMap_ofLines Glyph.sourceText earlier
  have masks : earlier.flatMap statementMask = _ := flatMap_ofLines Glyph.shownText earlier
  have lines : glyphLines lexicon source = earlier.flatten ++ later.flatten := by
    rw [← List.flatten_append, ← cut, statements, flatten_groupLines]
  rw [texts] at sealedEarlier ⊢
  rw [masks]
  exact mask_ofLines closed lines sealedEarlier

/-- Up to a clean cut a cell is sound. -/
theorem CutsCleanly.sound {classify : Text → Placement} (cuts : CutsCleanly lexicon classify source)
    (closed : Closed lexicon source) (nested : IsNested (mask lexicon source)) :
    CutsInto (Sound lexicon) lexicon classify source := by
  intro earlier last next later cut leaves
  have whole := cuts earlier last next later cut leaves
  have split : statements lexicon source = (earlier ++ [last]) ++ next :: later := by
    rw [cut, List.append_assoc]
    rfl
  refine ⟨whole, ?_⟩
  rw [mask_statements closed split whole]
  apply isNested_flatMap
  intro statement member
  apply isNested_statementMask nested
  rw [split]
  exact List.mem_append_left _ member

/-- Each part of a cell that is cut cleanly is sound. -/
theorem sound_part {classify : Text → Placement} (closed : Closed lexicon source)
    (nested : IsNested (mask lexicon source)) (cuts : CutsCleanly lexicon classify source)
    (placement : Placement) :
    Sound lexicon (((statements lexicon source).filter fun statement =>
      classify (leadLine statement) = placement).flatMap statementText) :=
  part_of_cuts Sound.append Sound.of_append sound_nil (closed.sound nested)
    (cuts.sound closed nested) placement

end

end Notebook.Source
