import Mathlib.Data.List.Flatten
import Notebook.Proofs.Source.Labelling

/-! # Lines that stay together

Lines of a source with no bracket open ahead of them start a statement, and as long as one is open
behind each of them but the last, they are all in it. So they go to one place, the one that their
first line is sent to, and the lines around them do not matter.
-/

namespace Notebook.Source

/-! ## Cuts at an item -/

section

variable {α : Type} {start rest before after : List α} {item : α}

theorem split_behind (absent : item ∉ start) (split : start ++ rest = before ++ item :: after) :
    ∃ gap, before = start ++ gap ∧ rest = gap ++ item :: after := by
  rcases List.append_eq_append_iff.mp split with both | ⟨gap, ahead, behind⟩
  · exact both
  · cases gap with
    | nil => exact ⟨[], by rw [ahead, List.append_nil, List.append_nil], behind.symm⟩
    | cons first gap =>
      obtain rfl := List.head_eq_of_cons_eq behind
      exact absurd (ahead ▸ List.mem_append_right _ (List.mem_cons_self ..)) absent

theorem split_ahead (absent : item ∉ rest) (split : start ++ rest = before ++ item :: after) :
    ∃ gap, start = before ++ item :: gap ∧ after = gap ++ rest := by
  rcases List.append_eq_append_iff.mp split with ⟨gap, _, behind⟩ | ⟨gap, ahead, behind⟩
  · exact absurd (behind ▸ List.mem_append_right _ (List.mem_cons_self ..)) absent
  · cases gap with
    | nil =>
      rw [List.nil_append] at behind
      exact absurd (behind ▸ List.mem_cons_self ..) absent
    | cons first gap =>
      obtain ⟨rfl, same⟩ := List.cons_eq_cons.mp behind
      exact ⟨gap, ahead, same⟩

theorem singleton_ne_append (startFilled : start ≠ []) (restFilled : rest ≠ []) :
    [item] ≠ start ++ rest := by
  intro split
  rcases List.append_eq_singleton_iff.mp split.symm with ⟨rfl, _⟩ | ⟨_, rfl⟩
  · exact startFilled rfl
  · exact restFilled rfl

end

/-! ## Lines of glyphs -/

/-- The lines of glyphs, without their newlines. -/
def Glyph.lines (list : List Glyph) : List (List Glyph) :=
  list.splitOnP (·.shown = '\n')

/-- The glyphs are none, or the last of them ends a line. -/
def EndsLine (list : List Glyph) : Prop :=
  ∀ glyph ∈ list.getLast?, glyph.shown = '\n'

section

variable {list before after : List Glyph} {newline : Glyph}

theorem lines_ne_nil (list : List Glyph) : Glyph.lines list ≠ [] :=
  List.splitOnP_ne_nil _ _

theorem lines_append_newline (isNewline : newline.shown = '\n') (before after : List Glyph) :
    Glyph.lines (before ++ newline :: after) = Glyph.lines before ++ Glyph.lines after :=
  List.splitOnP_append_cons _ _ (by simpa using isNewline)

theorem lines_newline_cons (isNewline : newline.shown = '\n') (list : List Glyph) :
    Glyph.lines (newline :: list) = [] :: Glyph.lines list :=
  lines_append_newline isNewline [] list

theorem lines_cons {glyph : Glyph} (other : glyph.shown ≠ '\n') (list : List Glyph) :
    Glyph.lines (glyph :: list) = (Glyph.lines list).modifyHead (glyph :: ·) := by
  rw [Glyph.lines, List.splitOnP_cons_eq_if_modifyHead, if_neg (by simpa using other), Glyph.lines]

/-- What stands at the start without a newline stands on the first line. -/
theorem headD_lines_append (plain : ∀ glyph ∈ before, glyph.shown ≠ '\n') (after : List Glyph) :
    (Glyph.lines (before ++ after)).headD [] = before ++ (Glyph.lines after).headD [] := by
  induction before with
  | nil => rfl
  | cons glyph before ih =>
    obtain ⟨here, behind⟩ := List.forall_mem_cons.mp plain
    rw [List.cons_append, lines_cons here, List.cons_append, ← ih behind]
    obtain ⟨first, others, split⟩ := List.exists_cons_of_ne_nil (lines_ne_nil (before ++ after))
    rw [split]
    rfl

/-- The first line starts as the glyphs do. -/
theorem head?_headD_lines {list : List Glyph} :
    ∀ glyph ∈ ((Glyph.lines list).headD []).head?, glyph ∈ list.head? := by
  intro glyph first
  cases list with
  | nil => exact first
  | cons other list =>
    by_cases isNewline : other.shown = '\n'
    · rw [lines_newline_cons isNewline] at first
      cases first
    · obtain ⟨line, others, split⟩ := List.exists_cons_of_ne_nil (lines_ne_nil list)
      rw [lines_cons isNewline, split] at first
      exact first

theorem lines_append (ends : EndsLine before) (after : List Glyph) :
    Glyph.lines (before ++ after) = (Glyph.lines before).dropLast ++ Glyph.lines after := by
  rcases List.eq_nil_or_concat' before with rfl | ⟨start, last, rfl⟩
  · rfl
  · have isNewline : last.shown = '\n' := ends last List.getLast?_concat
    have alone : Glyph.lines (start ++ [last]) = Glyph.lines start ++ [[]] :=
      lines_append_newline isNewline start []
    rw [alone, List.dropLast_concat, List.append_assoc]
    exact lines_append_newline isNewline start after

/-- There is no newline on the first line. -/
theorem newline_not_mem_headD_lines (list : List Glyph) {glyph : Glyph}
    (isNewline : glyph.shown = '\n') : glyph ∉ (Glyph.lines list).headD [] := by
  intro member
  obtain ⟨first, others, split⟩ := List.exists_cons_of_ne_nil (lines_ne_nil list)
  rw [split, List.headD_cons] at member
  have isLine : first ∈ Glyph.lines list := split ▸ List.mem_cons_self ..
  simpa [isNewline] using (of_mem_splitOnP isLine member).2

/-- What stands behind glyphs on their last line, and the lines behind that. -/
theorem lines_append_later (list later : List Glyph) :
    Glyph.lines (list ++ later) =
      Glyph.lines (list ++ (Glyph.lines later).headD []) ++ (Glyph.lines later).tail := by
  induction list with
  | nil =>
    obtain ⟨first, others, split⟩ := List.exists_cons_of_ne_nil (lines_ne_nil later)
    have alone : Glyph.lines first = [first] := by
      refine List.splitOnP_eq_singleton fun glyph member => decide_eq_false fun isNewline => ?_
      exact newline_not_mem_headD_lines later isNewline (by rwa [split])
    rw [split, List.nil_append, List.nil_append, split, List.headD_cons, alone]
    rfl
  | cons glyph list ih =>
    rw [List.cons_append, List.cons_append]
    by_cases isNewline : glyph.shown = '\n'
    · rw [lines_newline_cons isNewline, lines_newline_cons isNewline, ih]
      rfl
    · obtain ⟨first, others, split⟩ := List.exists_cons_of_ne_nil
        (lines_ne_nil (list ++ (Glyph.lines later).headD []))
      rw [lines_cons isNewline, lines_cons isNewline, ih, split]
      rfl

/-- A cut between lines is a cut at a newline. -/
theorem exists_of_lines_append {start rest : List (List Glyph)}
    (split : Glyph.lines list = start ++ rest) (startFilled : start ≠ []) (restFilled : rest ≠ []) :
    ∃ before newline after, list = before ++ newline :: after ∧ newline.shown = '\n' ∧
      Glyph.lines before = start ∧ Glyph.lines after = rest := by
  induction list generalizing start with
  | nil => exact absurd split (singleton_ne_append startFilled restFilled)
  | cons glyph list ih =>
    obtain ⟨line, others, rfl⟩ := List.exists_cons_of_ne_nil startFilled
    by_cases isNewline : glyph.shown = '\n'
    · rw [lines_newline_cons isNewline, List.cons_append] at split
      obtain ⟨rfl, behind⟩ := List.cons_eq_cons.mp split
      rcases eq_or_ne others [] with rfl | filled
      · exact ⟨[], glyph, list, rfl, isNewline, rfl, behind⟩
      · obtain ⟨before, newline, after, rfl, shown, beforeLines, afterLines⟩ := ih behind filled
        refine ⟨glyph :: before, newline, after, rfl, shown, ?_, afterLines⟩
        rw [lines_newline_cons isNewline, beforeLines]
    · obtain ⟨first, behind, lines⟩ := List.exists_cons_of_ne_nil (lines_ne_nil list)
      rw [lines_cons isNewline, lines, List.modifyHead_cons, List.cons_append] at split
      obtain ⟨rfl, same⟩ := List.cons_eq_cons.mp split
      have behindSplit : Glyph.lines list = (first :: others) ++ rest := by
        rw [lines, same]
        rfl
      obtain ⟨before, newline, after, rfl, shown, beforeLines, afterLines⟩ :=
        ih behindSplit (List.cons_ne_nil _ _)
      refine ⟨glyph :: before, newline, after, rfl, shown, ?_, afterLines⟩
      rw [lines_cons isNewline, beforeLines, List.modifyHead_cons]

end

/-! ## Depth behind lines -/

theorem foldl_lineDepth {opened inside : List Char} {lines : List (List Glyph)}
    (reads : opened? opened (Text.ofLines (lines.map Glyph.shownText)) = some inside) :
    lines.foldl lineDepth opened.length = inside.length := by
  induction lines generalizing opened with
  | nil =>
    obtain rfl := Option.some_inj.mp reads
    rfl
  | cons line rest ih =>
    rw [List.map_cons, opened?_ofLines_cons, Option.bind_eq_some_iff] at reads
    obtain ⟨next, lineReads, restReads⟩ := reads
    rw [List.foldl_cons, lineDepth_length lineReads]
    exact ih restReads

/-- The bracket depth behind glyphs, by the lines they are on, is the number of open brackets. -/
theorem foldl_lineDepth_lines {opened inside : List Char} {list : List Glyph}
    (reads : opened? opened (Glyph.shownText list) = some inside) :
    (Glyph.lines list).foldl lineDepth opened.length = inside.length := by
  apply foldl_lineDepth
  rw [Glyph.lines, ofLines_map_shownText, opened?_append, reads]
  rfl

/-- A last line that is empty does not matter. -/
theorem foldl_lineDepth_dropLast {list : List Glyph} (ends : EndsLine list) (depth : Nat) :
    (Glyph.lines list).dropLast.foldl lineDepth depth =
      (Glyph.lines list).foldl lineDepth depth := by
  have whole := lines_append ends []
  rw [List.append_nil] at whole
  conv_rhs => rw [whole, List.foldl_append]
  exact (Int.toNat_natCast _).symm

/-! ## Statements around lines -/

section

variable {depth : Nat} {own : List (List Glyph)}

theorem groupLines_ne_nil (depth : Nat) {lines : List (List Glyph)} (filled : lines ≠ []) :
    groupLines depth lines ≠ [] := by
  intro none
  rw [← flatten_groupLines depth lines, none] at filled
  exact filled rfl

/-- Where no bracket is open between two lines, grouping starts anew. -/
theorem groupLines_append {lines : List (List Glyph)} (ends : lines.foldl lineDepth depth = 0)
    (rest : List (List Glyph)) :
    groupLines depth (lines ++ rest) = groupLines depth lines ++ groupLines 0 rest := by
  induction lines generalizing depth with
  | nil =>
    obtain rfl : depth = 0 := ends
    rfl
  | cons line lines ih =>
    rw [List.foldl_cons] at ends
    rw [List.cons_append, groupLines_cons, groupLines_cons, ih ends]
    split_ifs with closed
    · rw [closed] at ends
      rw [ih ends]
      rfl
    · have filled : lines ≠ [] := by
        rintro rfl
        exact closed ends
      obtain ⟨statement, others, grouped⟩ :=
        List.exists_cons_of_ne_nil (groupLines_ne_nil (lineDepth depth line) filled)
      rw [grouped]
      rfl

/-- Lines with a bracket open behind each of them but the last are in one statement. -/
theorem exists_groupLines (filled : own ≠ [])
    (holds : ∀ start rest, own = start ++ rest → start ≠ [] → rest ≠ [] →
      start.foldl lineDepth depth ≠ 0) (behind : List (List Glyph)) :
    ∃ more others, groupLines depth (own ++ behind) = (own ++ more) :: others := by
  induction own generalizing depth with
  | nil => exact absurd rfl filled
  | cons line own ih =>
    rw [List.cons_append, groupLines_cons]
    rcases eq_or_ne own [] with rfl | others
    · split_ifs
      · exact ⟨[], _, rfl⟩
      · exact ⟨_, _, rfl⟩
    · have goesOn : lineDepth depth line ≠ 0 := holds [line] own rfl (List.cons_ne_nil _ _) others
      rw [if_neg goesOn]
      obtain ⟨more, later, grouped⟩ := ih others fun start rest split startFilled restFilled =>
        holds (line :: start) rest (by rw [split]; rfl) (List.cons_ne_nil _ _) restFilled
      exact ⟨more, later, by rw [grouped]; rfl⟩

end

/-- A statement starts where no bracket is open, and one is open behind each of its lines but the
last. -/
theorem foldl_lineDepth_of_groupLines {lines : List (List Glyph)}
    {earlier later : List (List (List Glyph))}
    (grouped : groupLines depth lines = earlier ++ own :: later) :
    (earlier ≠ [] → earlier.flatten.foldl lineDepth depth = 0) ∧
      ∀ start rest, own = start ++ rest → start ≠ [] → rest ≠ [] →
        start.foldl lineDepth (earlier.flatten.foldl lineDepth depth) ≠ 0 := by
  induction lines generalizing depth earlier own with
  | nil => exact absurd grouped.symm (List.append_ne_nil_of_right_ne_nil _ (List.cons_ne_nil _ _))
  | cons line lines ih =>
    rw [groupLines_cons] at grouped
    split_ifs at grouped with closed
    · rcases List.cons_eq_append_iff.mp grouped with ⟨rfl, same⟩ | ⟨earlier, rfl, behind⟩
      · obtain ⟨rfl, -⟩ := List.cons_eq_cons.mp same
        exact ⟨fun filled => absurd rfl filled, fun start rest split startFilled restFilled =>
          absurd split (singleton_ne_append startFilled restFilled)⟩
      · obtain ⟨unopened, holds⟩ := ih behind
        rw [List.flatten_cons, List.foldl_append, List.foldl_cons, List.foldl_nil, closed]
        refine ⟨fun _ => ?_, holds⟩
        rcases eq_or_ne earlier [] with rfl | filled
        · rfl
        · exact unopened filled
    · cases groups : groupLines (lineDepth depth line) lines with
      | nil =>
        rw [groups, List.headD_nil, List.tail_nil] at grouped
        rcases List.append_eq_singleton_iff.mp grouped.symm with ⟨rfl, same⟩ | ⟨_, none⟩
        · obtain ⟨rfl, -⟩ := List.cons_eq_cons.mp same
          exact ⟨fun filled => absurd rfl filled, fun start rest split startFilled restFilled =>
            absurd split (singleton_ne_append startFilled restFilled)⟩
        · exact absurd none (List.cons_ne_nil _ _)
      | cons statement others =>
        rw [groups, List.headD_cons, List.tail_cons] at grouped
        rcases List.cons_eq_append_iff.mp grouped with ⟨rfl, same⟩ | ⟨earlier, rfl, behind⟩
        · obtain ⟨rfl, rfl⟩ := List.cons_eq_cons.mp same
          rw [← List.nil_append (statement :: later)] at groups
          obtain ⟨-, holds⟩ := ih groups
          refine ⟨fun filled => absurd rfl filled, ?_⟩
          intro start rest split startFilled restFilled
          rcases List.cons_eq_append_iff.mp split with ⟨rfl, _⟩ | ⟨start, rfl, same⟩
          · exact absurd rfl startFilled
          · rcases eq_or_ne start [] with rfl | filled
            · exact closed
            · exact holds start rest same filled restFilled
        · rw [behind, ← List.cons_append] at groups
          obtain ⟨unopened, holds⟩ := ih groups
          exact ⟨fun _ => unopened (List.cons_ne_nil _ _), holds⟩

/-- Lines of a source that start where no bracket is open, with one open behind each but the
last. -/
structure StaysTogether (lexicon : Lexicon) (source : Text) (ahead own behind : List (List Glyph)) :
    Prop where
  split : glyphLines lexicon source = ahead ++ (own ++ behind)
  unopened : ahead.foldl lineDepth 0 = 0
  filled : own ≠ []
  holds : ∀ start rest, own = start ++ rest → start ≠ [] → rest ≠ [] → start.foldl lineDepth 0 ≠ 0

/-- A statement of some of the lines alone is such lines of the source. -/
theorem staysTogether_of_groupLines {lexicon : Lexicon} {source : Text}
    {ahead lines behind own : List (List Glyph)} {earlier later : List (List (List Glyph))}
    (split : glyphLines lexicon source = ahead ++ (lines ++ behind))
    (unopened : ahead.foldl lineDepth 0 = 0)
    (grouped : groupLines 0 lines = earlier ++ own :: later) :
    StaysTogether lexicon source (ahead ++ earlier.flatten) own (later.flatten ++ behind) := by
  obtain ⟨closes, holds⟩ := foldl_lineDepth_of_groupLines grouped
  have closed : earlier.flatten.foldl lineDepth 0 = 0 := by
    rcases eq_or_ne earlier [] with rfl | filled
    · rfl
    · exact closes filled
  rw [closed] at holds
  refine ⟨?_, ?_, statement_ne_nil (grouped ▸ List.mem_append_cons_self), holds⟩
  · have whole := flatten_groupLines 0 lines
    rw [grouped, List.flatten_append, List.flatten_cons] at whole
    rw [split, ← whole]
    simp only [List.append_assoc]
  · rw [List.foldl_append, unopened, closed]

namespace StaysTogether

variable {lexicon : Lexicon} {source : Text} {ahead own behind : List (List Glyph)}
  (together : StaysTogether lexicon source ahead own behind)

include together

theorem exists_statements :
    ∃ earlier more later, statements lexicon source = earlier ++ (own ++ more) :: later ∧
      earlier.flatten = ahead ∧ more ++ later.flatten = behind := by
  obtain ⟨more, later, grouped⟩ := exists_groupLines together.filled together.holds behind
  refine ⟨groupLines 0 ahead, more, later, ?_, flatten_groupLines 0 ahead, ?_⟩
  · rw [statements, together.split, groupLines_append together.unopened, grouped]
  · have whole := flatten_groupLines 0 (own ++ behind)
    rw [grouped, List.flatten_cons, List.append_assoc] at whole
    exact List.append_cancel_left whole

/-- If no bracket is open behind the lines either, they are one statement. -/
theorem mem_statements (closes : own.foldl lineDepth 0 = 0) : own ∈ statements lexicon source := by
  obtain ⟨more, others, grouped⟩ := exists_groupLines together.filled together.holds []
  rw [List.append_nil] at grouped
  have flat := flatten_groupLines 0 own
  rw [grouped, List.flatten_cons, List.append_assoc, List.append_right_eq_self,
    List.append_eq_nil_iff] at flat
  rw [flat.1, List.append_nil] at grouped
  rw [statements, together.split, groupLines_append together.unopened, groupLines_append closes,
    grouped]
  exact List.mem_append_right _ (List.mem_append_left _ (List.mem_cons_self ..))

theorem leadLine_append (more : List (List Glyph)) : leadLine (own ++ more) = leadLine own := by
  obtain ⟨line, others, rfl⟩ := List.exists_cons_of_ne_nil together.filled
  rfl

/-- Of the lines around them a part of the cell has some, and of the lines themselves all or
none. -/
theorem exists_part (classify : Text → Placement) (placement : Placement) :
    ∃ kept left, kept.Sublist (ahead.map Glyph.sourceText) ∧
      left.Sublist (behind.map Glyph.sourceText) ∧
      ((statements lexicon source).filter fun statement =>
        classify (leadLine statement) = placement).flatMap statementText =
          Text.ofLines (kept ++ ((if classify (leadLine own) = placement
            then own.map Glyph.sourceText else []) ++ left)) := by
  obtain ⟨earlier, more, later, grouped, rfl, rfl⟩ := together.exists_statements
  have text : ∀ list : List (List (List Glyph)), list.flatMap statementText =
      Text.ofLines (list.flatten.map Glyph.sourceText) := flatMap_ofLines Glyph.sourceText
  have placed : ∀ list : List (List (List Glyph)),
      ((list.filter fun statement => classify (leadLine statement) = placement).flatten.map
        Glyph.sourceText).Sublist (list.flatten.map Glyph.sourceText) := fun list =>
    (List.filter_sublist.flatten).map _
  rw [grouped, List.filter_append, List.filter_cons, together.leadLine_append, text,
    List.flatten_append, List.map_append, List.map_append]
  by_cases here : classify (leadLine own) = placement
  · refine ⟨_, _, placed earlier, (placed later).append_left (more.map Glyph.sourceText), ?_⟩
    rw [if_pos here, if_pos (decide_eq_true here), List.flatten_cons, List.map_append,
      List.map_append, List.append_assoc]
  · refine ⟨_, _, placed earlier, (placed later).trans (List.sublist_append_right ..), ?_⟩
    rw [if_neg here, if_neg (by simpa using here)]
    rfl

/-- The lines stand in the part of the cell that their first line is sent to. -/
theorem infix_part {classify : Text → Placement} {placement : Placement}
    (placed : classify (leadLine own) = placement) :
    statementText own <:+: ((statements lexicon source).filter fun statement =>
      classify (leadLine statement) = placement).flatMap statementText := by
  obtain ⟨kept, left, _, _, part⟩ := together.exists_part classify placement
  rw [part, if_pos placed, statementText, Text.ofLines, Text.ofLines, List.flatMap_append,
    List.flatMap_append]
  exact List.infix_append' ..

/-- Lines that are sent to the imports are part of one. -/
theorem mem_imports {classify : Text → Placement}
    (imported : classify (leadLine own) = .imported) :
    ∃ more, Text.trimEnd (statementText own ++ statementText more) ∈
      (route lexicon classify source).imports := by
  obtain ⟨earlier, more, later, grouped, _, _⟩ := together.exists_statements
  refine ⟨more, List.mem_map.mpr ⟨own ++ more, List.mem_filter.mpr ⟨?_, ?_⟩, ?_⟩⟩
  · rw [grouped]
    exact List.mem_append_right _ (List.mem_cons_self ..)
  · rw [together.leadLine_append, imported]
    rfl
  · rw [statementText, List.map_append, Text.ofLines, List.flatMap_append]
    rfl

end StaysTogether

end Notebook.Source
