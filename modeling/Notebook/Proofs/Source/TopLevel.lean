import Notebook.Proofs.Source.Cutting
import Notebook.Proofs.Source.Grouping
import Notebook.Proofs.Text.Trim

/-! # Declarations at the top level

A declaration at the top level starts a line where no bracket is open. Its first line decides where
it goes, and the lines behind follow as long as a bracket is open. So a declaration stays in one
piece if each of its line breaks is within brackets, and is a statement of its own if moreover
nothing else is on its last line.
-/

namespace Notebook.Source

/-- A declaration in masked text that starts a line at bracket depth zero. -/
structure TopLevel (list : List Glyph) where
  /-- The lines ahead. -/
  earlier : List Glyph
  indent : List Glyph
  declared : List Glyph
  later : List Glyph
  split : list = earlier ++ (indent ++ (declared ++ later))
  startsLine : EndsLine earlier
  unopened : (Glyph.lines earlier).foldl lineDepth 0 = 0
  isIndent : ∀ glyph ∈ indent, isBlank glyph.shown = true ∧ glyph.shown ≠ '\n'

namespace TopLevel

section

variable {list : List Glyph} (top : TopLevel list)

/-- The source of the declaration. -/
def text : Text :=
  Glyph.sourceText top.declared

/-- At each line break a bracket is open. -/
def HoldsTogether : Prop :=
  ∀ before after, Glyph.shownText top.declared = before ++ '\n' :: after →
    ∃ innermost opened, opened? [] before = some (innermost :: opened)

/-- The declaration leaves no bracket open, and nothing but a masked comment is behind it on its
last line. -/
structure IsWhole : Prop where
  nested : IsNested (Glyph.shownText top.declared)
  together : top.HoldsTogether
  endsLine : ∀ glyph ∈ top.later.head?, glyph.shown = '\n'

/-! ## Lines -/

def linesAhead : List (List Glyph) :=
  (Glyph.lines top.earlier).dropLast

/-- The declaration with what stands behind it on its last line. -/
def lineGlyphs : List Glyph :=
  top.indent ++ (top.declared ++ (Glyph.lines top.later).headD [])

/-- The lines that the declaration is on. -/
def lines : List (List Glyph) :=
  Glyph.lines top.lineGlyphs

def linesBehind : List (List Glyph) :=
  (Glyph.lines top.later).tail

/-- The lines, cut where no bracket is open between them. -/
def pieces : List (List (List Glyph)) :=
  groupLines 0 top.lines

theorem flatten_pieces : top.pieces.flatten = top.lines :=
  flatten_groupLines 0 top.lines

theorem lines_eq : Glyph.lines list = top.linesAhead ++ (top.lines ++ top.linesBehind) := by
  conv_lhs => rw [top.split, ← List.append_assoc top.indent]
  rw [lines_append top.startsLine, lines_append_later, List.append_assoc top.indent]
  rfl

theorem lines_ne_nil : top.lines ≠ [] :=
  Source.lines_ne_nil _

/-- A source whose brackets match has them match ahead of the declaration. -/
theorem isNested_earlier (nested : IsNested (Glyph.shownText list)) :
    IsNested (Glyph.shownText top.earlier) := by
  rw [top.split, Glyph.shownText_append, IsNested, opened?_append,
    Option.bind_eq_some_iff] at nested
  obtain ⟨opened, opens, _⟩ := nested
  have depth := foldl_lineDepth_lines opens
  rw [List.length_nil, top.unopened] at depth
  obtain rfl := List.length_eq_zero_iff.mp depth.symm
  exact opens

theorem unopened_linesAhead : top.linesAhead.foldl lineDepth 0 = 0 := by
  rw [linesAhead, foldl_lineDepth_dropLast top.startsLine, top.unopened]

theorem isBlank_indent : Text.isBlank (Glyph.shownText top.indent) = true := by
  refine List.all_eq_true.mpr fun c member => ?_
  obtain ⟨glyph, isGlyph, rfl⟩ := List.mem_map.mp member
  exact (top.isIndent glyph isGlyph).1

theorem opened?_indent (opened : List Char) :
    opened? opened (Glyph.shownText top.indent) = some opened :=
  opened?_of_noBracket (fun _ member =>
    isNoBracket_of_isBlank (List.all_eq_true.mp top.isBlank_indent _ member)) _

/-- What the declaration starts with stands on its first line. -/
theorem exists_first {start rest : List Glyph} (split : top.declared = start ++ rest)
    (plain : ∀ glyph ∈ start, glyph.shown ≠ '\n') :
    Glyph.shownText (top.lines.headD []) = Glyph.shownText top.indent ++ (Glyph.shownText start ++
      Glyph.shownText ((Glyph.lines (rest ++ (Glyph.lines top.later).headD [])).headD [])) := by
  have onLine : ∀ glyph ∈ top.indent ++ start, glyph.shown ≠ '\n' := by
    intro glyph member
    rcases List.mem_append.mp member with member | member
    · exact (top.isIndent glyph member).2
    · exact plain glyph member
  have whole : top.lineGlyphs = (top.indent ++ start) ++
      (rest ++ (Glyph.lines top.later).headD []) := by
    rw [lineGlyphs, split]
    simp only [List.append_assoc]
  rw [lines, whole, headD_lines_append onLine, Glyph.shownText_append, Glyph.shownText_append,
    List.append_assoc]

/-- Within the lines of a declaration that holds together a bracket is open behind each line. -/
theorem foldl_lineDepth_ne_zero (together : top.HoldsTogether) {start rest : List (List Glyph)}
    (split : top.lines = start ++ rest) (startFilled : start ≠ []) (restFilled : rest ≠ []) :
    start.foldl lineDepth 0 ≠ 0 := by
  obtain ⟨before, newline, after, whole, isNewline, rfl, _⟩ :=
    exists_of_lines_append split startFilled restFilled
  -- The newline is neither in the indentation nor behind the declaration.
  obtain ⟨gap, rfl, behind⟩ :=
    split_behind (fun member => (top.isIndent newline member).2 isNewline) whole
  obtain ⟨more, declared, _⟩ :=
    split_ahead (newline_not_mem_headD_lines top.later isNewline) behind
  have breaks : Glyph.shownText top.declared =
      Glyph.shownText gap ++ '\n' :: Glyph.shownText more := by
    rw [declared, Glyph.shownText_append, ← isNewline]
    rfl
  obtain ⟨innermost, opened, reads⟩ := together _ _ breaks
  have whole : opened? [] (Glyph.shownText (top.indent ++ gap)) = some (innermost :: opened) := by
    rw [Glyph.shownText_append, opened?_append, top.opened?_indent]
    exact reads
  have depth := foldl_lineDepth_lines whole
  rw [List.length_nil, List.length_cons] at depth
  rw [depth]
  exact Nat.succ_ne_zero _

/-- The declaration between other lines. -/
def among {others earlier later : List Glyph}
    (split : others = earlier ++ (top.indent ++ (top.declared ++ later)))
    (startsLine : EndsLine earlier) (nested : IsNested (Glyph.shownText earlier)) :
    TopLevel others where
  earlier := earlier
  indent := top.indent
  declared := top.declared
  later := later
  split := split
  startsLine := startsLine
  unopened := foldl_lineDepth_lines nested
  isIndent := top.isIndent

/-! ## Declarations on lines of their own -/

variable {top}

theorem IsWhole.among {others earlier later : List Glyph} (whole : top.IsWhole)
    {split : others = earlier ++ (top.indent ++ (top.declared ++ later))}
    {startsLine : EndsLine earlier} {nested : IsNested (Glyph.shownText earlier)}
    (endsLine : ∀ glyph ∈ later.head?, glyph.shown = '\n') :
    (top.among split startsLine nested).IsWhole :=
  ⟨whole.nested, whole.together, endsLine⟩

theorem IsWhole.headD_lines_later (whole : top.IsWhole) :
    (Glyph.lines top.later).headD [] = [] := by
  have ends := whole.endsLine
  cases later : top.later with
  | nil => rfl
  | cons newline rest =>
    rw [later] at ends
    rw [lines_newline_cons (ends newline rfl)]
    rfl

theorem IsWhole.lineGlyphs_eq (whole : top.IsWhole) :
    top.lineGlyphs = top.indent ++ top.declared := by
  rw [lineGlyphs, whole.headD_lines_later, List.append_nil]

/-- No bracket is open behind the lines. -/
theorem IsWhole.foldl_lineDepth_lines (whole : top.IsWhole) : top.lines.foldl lineDepth 0 = 0 := by
  have reads : opened? [] (Glyph.shownText top.lineGlyphs) = some [] := by
    rw [whole.lineGlyphs_eq, Glyph.shownText_append, opened?_append, top.opened?_indent]
    exact whole.nested
  exact Source.foldl_lineDepth_lines reads

end

section

variable {lexicon : Lexicon} {source : Text} (top : TopLevel (glyphs lexicon source))

theorem staysTogether (together : top.HoldsTogether) :
    StaysTogether lexicon source top.linesAhead top.lines top.linesBehind where
  split := top.lines_eq
  unopened := top.unopened_linesAhead
  filled := top.lines_ne_nil
  holds _ _ := top.foldl_lineDepth_ne_zero together

/-- The first line starts a statement however the declaration goes on. -/
theorem startsStatement :
    StaysTogether lexicon source top.linesAhead [top.lines.headD []]
      (top.lines.tail ++ top.linesBehind) where
  split := by
    obtain ⟨first, others, lines⟩ := List.exists_cons_of_ne_nil top.lines_ne_nil
    have whole := top.lines_eq
    rw [lines] at whole ⊢
    exact whole
  unopened := top.unopened_linesAhead
  filled := List.cons_ne_nil _ _
  holds _ _ split startFilled restFilled :=
    absurd split (singleton_ne_append startFilled restFilled)

/-- The lines of a piece stay together. -/
theorem staysTogether_piece {before after : List (List (List Glyph))} {piece : List (List Glyph)}
    (isPiece : top.pieces = before ++ piece :: after) :
    StaysTogether lexicon source (top.linesAhead ++ before.flatten) piece
      (after.flatten ++ top.linesBehind) :=
  staysTogether_of_groupLines top.lines_eq top.unopened_linesAhead isPiece

/-! ## Source text -/

theorem mem_glyphs {glyph : Glyph} (member : glyph ∈ top.lineGlyphs) :
    glyph ∈ glyphs lexicon source := by
  have later : (Glyph.lines top.later).headD [] ⊆ top.later := by
    obtain ⟨first, others, lines⟩ := List.exists_cons_of_ne_nil (Source.lines_ne_nil top.later)
    intro glyph member
    rw [lines, List.headD_cons] at member
    exact (of_mem_splitOnP (lines ▸ List.mem_cons_self .. : first ∈ Glyph.lines _) member).1
  rw [top.split]
  refine List.mem_append_right _ ?_
  rcases List.mem_append.mp member with member | member
  · exact List.mem_append_left _ member
  · refine List.mem_append_right _ ?_
    rcases List.mem_append.mp member with member | member
    · exact List.mem_append_left _ member
    · exact List.mem_append_right _ (later member)

theorem ofLines_lines :
    Text.ofLines (top.lines.map Glyph.sourceText) = Glyph.sourceText top.lineGlyphs ++ ['\n'] :=
  ofLines_map_sourceText fun _ member => (shown_eq_newline_iff (top.mem_glyphs member)).mp

/-- The lines of a declaration hold it. -/
theorem text_infix : top.text <:+: statementText top.lines := by
  rw [statementText, top.ofLines_lines, lineGlyphs, Glyph.sourceText_append,
    Glyph.sourceText_append]
  exact (List.infix_append' ..).trans (List.prefix_append ..).isInfix

/-- A declaration on lines of its own that is sent to the imports is one. -/
theorem IsWhole.mem_imports {top : TopLevel (glyphs lexicon source)} (whole : top.IsWhole)
    {classify : Text → Placement} (imported : classify (leadLine top.lines) = .imported) :
    Text.trimEnd (Glyph.sourceText (top.indent ++ top.declared)) ∈
      (route lexicon classify source).imports := by
  have member := (top.staysTogether whole.together).mem_statements whole.foldl_lineDepth_lines
  refine List.mem_map.mpr ⟨top.lines, List.mem_filter.mpr ⟨member, ?_⟩, ?_⟩
  · rw [imported]
    rfl
  · rw [statementText, top.ofLines_lines, whole.lineGlyphs_eq]
    exact Text.trimEnd_concat rfl _

end

end TopLevel

end Notebook.Source
