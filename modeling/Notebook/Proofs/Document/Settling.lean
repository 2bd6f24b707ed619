import Mathlib.Data.List.Chain
import Notebook.Proofs.Document.Layout
import Notebook.Proofs.Document.Outline

/-! # What writing makes of a document that was read

Reading a document and writing it back is a recursion over its outline: a stretch outside fences
and a fence are written as they are, except that prose without a visible character is left out,
and that a fence with the output of the cell before it is written in the one form there is for it.
`serialize_read` says so line by line.
-/

namespace Notebook.Document

open Text

/-- Nothing that is written within a line of the cell breaks the line. -/
structure LineSafe (cell : Cell) : Prop where
  spaced : Spaced cell
  indent : '\n' ∉ cell.indent
  outputIndent : '\n' ∉ cell.outputIndent
  info : '\n' ∉ writtenInfo cell
  visible : cell.kind = .prose → cell.content.isBlank = false

/-- A `text` fence right after the cells, latest first, is read as output. -/
def awaits : List Cell → Bool
  | cell :: _ => Reading.acceptsOutput cell
  | [] => false

/-- The fence is tagged as output. -/
def isOutputFence (opener : Fence.Opener) : Bool :=
  (Fence.splitInfo opener.info).1 = Fence.outputTag

/-- The lines that are written for the lines between two fences. -/
def settledGap (gap : List Text) : List Text :=
  documentLines (addGap [] gap).cells ++ List.replicate (addGap [] gap).blanks []

/-- The lines that are written for a fence and the lines before it. -/
def settledFence (awaiting : Bool) (gap : List Text) (opener : Fence.Opener) (body : List Text) :
    List Text :=
  if isOutputFence opener && (awaiting && gap.all Text.isBlank) then
    if body = [] then [] else [] :: fenceLines ⟨opener.indent, Fence.outputTag⟩ body
  else settledGap gap ++ fenceLines opener body

/-- The lines that are written for an outline. -/
def Outline.settle : Outline → Bool → List Text
  | .outside gap, _ => settledGap gap
  | .unclosed gap opener body, awaiting => settledFence awaiting gap opener body
  | .fenced gap opener body _ rest, awaiting =>
    settledFence awaiting gap opener body ++ rest.settle (!isOutputFence opener)

/-! ## Languages of tags -/

theorem languageOfTag_eq_outputTag_iff {tag : Text} :
    languageOfTag tag = Fence.outputTag ↔ tag = Fence.outputTag := by
  rw [languageOfTag]
  cases found : languageTags.find? (·.1 = tag) with
  | none => rfl
  | some entry =>
    have member := List.mem_of_find?_eq_some found
    have named := List.find?_some found
    simp only [decide_eq_true_eq] at named
    subst named
    have apart : ∀ entry ∈ languageTags,
        entry.2 ≠ Fence.outputTag ∧ entry.1 ≠ Fence.outputTag := by decide
    simp [(apart entry member).1, (apart entry member).2]

/-! ## Cells made from blocks -/

section Blocks

variable {blanks : Nat} {opener : Fence.Opener} {body : List Text}

theorem isBlank_prose (lines : List Text) :
    (ofPieces lines).isBlank = lines.all Text.isBlank := isBlank_ofPieces lines

theorem writtenInfo_codeCell (blanks : Nat) (opener : Fence.Opener) (body : List Text) :
    writtenInfo (Reading.codeCell blanks opener body) = opener.info := by
  simp [writtenInfo, infoDescribes, Reading.codeCell, Cell.code]

theorem bodyLines_codeCell (whole : ∀ line ∈ body, '\n' ∉ line) :
    bodyLines (Reading.codeCell blanks opener body) = body := by
  change (if ofPieces body = [] ∧ !decide (body = [[]]) then [] else (ofPieces body).pieces) = body
  rcases body with _ | ⟨line, rest⟩
  · rfl
  · rw [pieces_ofPieces whole (List.cons_ne_nil _ _), if_neg]
    rintro ⟨empty, other⟩
    have same := pieces_ofPieces whole (List.cons_ne_nil _ _)
    rw [empty, pieces_nil] at same
    simp [← same] at other

theorem lineSafe_codeCell (indent : '\n' ∉ opener.indent) (info : '\n' ∉ opener.info) :
    LineSafe (Reading.codeCell blanks opener body) where
  spaced _ member := List.eq_of_mem_replicate member
  indent := indent
  outputIndent := List.not_mem_nil
  info := by rwa [writtenInfo_codeCell]
  visible := fun prose => by cases prose

theorem cellLines_codeCell (indent : '\n' ∉ opener.indent) (info : '\n' ∉ opener.info)
    (whole : ∀ line ∈ body, '\n' ∉ line) :
    cellLines (Reading.codeCell blanks opener body) = fenceLines opener body := by
  have safe := @lineSafe_codeCell blanks opener body indent info
  rw [cellLines_code rfl safe.indent safe.info safe.outputIndent, writtenInfo_codeCell,
    bodyLines_codeCell whole]
  exact List.append_nil _

theorem outputLines_ofLines (whole : ∀ line ∈ body, '\n' ∉ line) (filled : body ≠ []) :
    outputLines (ofLines body) = body := by
  have ends : endLine (ofLines body) = ofPieces body ++ ['\n'] := by
    rw [ofLines_eq filled, endLine, if_pos (List.getLast?_concat)]
  rw [outputLines, ends, pieces_append_newline, pieces_nil, List.dropLast_concat,
    pieces_ofPieces whole filled]

/-- The output that a fence gives to the cell before it. -/
def withOutput (cell : Cell) (indent : Text) (body : List Text) : Cell :=
  { cell with output := some (ofLines body), outputIndent := indent }

theorem cellLines_withOutput {cell : Cell} (accepts : Reading.acceptsOutput cell = true)
    (safe : LineSafe cell) {indent : Text} (whole_indent : '\n' ∉ indent)
    (whole : ∀ line ∈ body, '\n' ∉ line) :
    cellLines (withOutput cell indent body) = cellLines cell ++
      if body = [] then [] else [] :: fenceLines ⟨indent, Fence.outputTag⟩ body := by
  simp only [Reading.acceptsOutput, Cell.isCode, Bool.and_eq_true, decide_eq_true_eq,
    Option.isNone_iff_eq_none] at accepts
  obtain ⟨⟨code, _⟩, none⟩ := accepts
  have plain : outputFence cell = [] := by rw [outputFence, none]
  have full := @cellLines_code (withOutput cell indent body) code safe.indent safe.info whole_indent
  rw [cellLines_code code safe.indent safe.info safe.outputIndent, plain, List.append_nil, full]
  have same : fenceLines ⟨(withOutput cell indent body).indent,
      writtenInfo (withOutput cell indent body)⟩ (bodyLines (withOutput cell indent body)) =
      fenceLines ⟨cell.indent, writtenInfo cell⟩ (bodyLines cell) := rfl
  rw [same]
  congr 1
  change (if ofLines body = [] then [] else
    [] :: fenceLines ⟨indent, Fence.outputTag⟩ (outputLines (ofLines body))) = _
  by_cases empty : body = []
  · subst empty
    rfl
  · have filled : ofLines body ≠ [] := by
      rw [ofLines_eq empty]
      simp
    rw [if_neg filled, if_neg empty, outputLines_ofLines whole empty]

end Blocks

/-! ## Stretches outside fences -/

theorem addGap_eq (cells : List Cell) (gap : List Text) :
    addGap cells gap = ⟨(addGap [] gap).cells ++ cells, (addGap [] gap).blanks⟩ := by
  rcases gap_cases gap with ⟨count, rfl⟩ | ⟨before, middle, after, framed, rfl⟩
  · simp only [addGap_replicate, List.nil_append]
  · simp only [addGap_framed _ framed, Reading.addBlock]
    split_ifs <;> rfl

theorem all_isBlank_replicate (count : Nat) :
    (List.replicate count ([] : Text)).all Text.isBlank = true := by
  rw [List.all_eq_true]
  intro line member
  rw [List.eq_of_mem_replicate member]
  rfl

theorem all_isBlank_framed (before after : Nat) (middle : List Text) :
    (List.replicate before [] ++ middle ++ List.replicate after []).all Text.isBlank =
      middle.all Text.isBlank := by
  simp only [List.all_append, all_isBlank_replicate, Bool.true_and, Bool.and_true]

/-- Prose takes part when it has a visible character. -/
theorem addGap_cells_nil_iff (gap : List Text) :
    (addGap [] gap).cells = [] ↔ gap.all Text.isBlank = true := by
  rcases gap_cases gap with ⟨count, rfl⟩ | ⟨before, middle, after, framed, rfl⟩
  · rw [addGap_replicate, all_isBlank_replicate]
    simp
  · rw [addGap_framed _ framed, all_isBlank_framed, ← isBlank_prose]
    simp only [Reading.addBlock]
    split_ifs with blank <;> simp [blank]

theorem awaits_addGap (cells : List Cell) (gap : List Text) :
    awaits (addGap cells gap).cells = (awaits cells && gap.all Text.isBlank) := by
  rcases gap_cases gap with ⟨count, rfl⟩ | ⟨before, middle, after, framed, rfl⟩
  · rw [addGap_replicate, all_isBlank_replicate, Bool.and_true]
  · rw [addGap_framed _ framed, all_isBlank_framed, ← isBlank_prose]
    simp only [Reading.addBlock]
    split_ifs with blank
    · rw [blank, Bool.and_true]
    · rw [Bool.eq_false_iff.mpr blank, Bool.and_false]
      rfl

theorem lineSafe_addGap {cells : List Cell} (safe : ∀ cell ∈ cells, LineSafe cell)
    (gap : List Text) : ∀ cell ∈ (addGap cells gap).cells, LineSafe cell := by
  rcases gap_cases gap with ⟨count, rfl⟩ | ⟨before, middle, after, framed, rfl⟩
  · rw [addGap_replicate]
    exact safe
  · rw [addGap_framed _ framed]
    simp only [Reading.addBlock]
    split_ifs with blank
    · exact safe
    · intro cell member
      rcases List.mem_cons.mp member with rfl | member
      · exact {
          spaced := fun _ member => List.eq_of_mem_replicate member
          indent := List.not_mem_nil
          outputIndent := List.not_mem_nil
          info := show '\n' ∉ tagOfLanguage [] ++ [] by decide
          visible := fun _ => Bool.eq_false_iff.mpr blank }
      · exact safe cell member

theorem documentLines_addGap (cells : List Cell) (gap : List Text) :
    documentLines (addGap cells gap).cells.reverse ++
        List.replicate (addGap cells gap).blanks [] =
      documentLines cells.reverse ++ settledGap gap := by
  have short : (addGap [] gap).cells.reverse = (addGap [] gap).cells := by
    rcases gap_cases gap with ⟨count, rfl⟩ | ⟨before, middle, after, framed, rfl⟩
    · rw [addGap_replicate]
      rfl
    · rw [addGap_framed _ framed]
      simp only [Reading.addBlock]
      split_ifs <;> rfl
  rw [addGap_eq, List.reverse_append, documentLines_append, short, settledGap, List.append_assoc]

/-! ## Fences -/

/-- A fence is taken up as output, or as a cell of its own. -/
theorem addFence_eq (cells : List Cell) (gap : List Text) (opener : Fence.Opener)
    (body : List Text) :
    addFence cells gap opener body =
      match (addGap cells gap).cells with
      | previous :: earlier =>
        if isOutputFence opener && Reading.acceptsOutput previous then
          withOutput previous opener.indent body :: earlier
        else Reading.codeCell (addGap cells gap).blanks opener body :: previous :: earlier
      | [] => [Reading.codeCell (addGap cells gap).blanks opener body] := by
  rw [addFence]
  cases (addGap cells gap).cells with
  | nil => rfl
  | cons previous earlier =>
    simp only [Reading.addBlock, isOutputFence, Bool.and_eq_true, decide_eq_true_eq]
    rfl

/-- The fence is read as output of the cell before it. -/
theorem addFence_output {cells : List Cell} {gap : List Text} {opener : Fence.Opener}
    (output : isOutputFence opener = true) (awaiting : awaits cells = true)
    (blank : gap.all Text.isBlank = true) (body : List Text) :
    ∃ previous earlier, cells = previous :: earlier ∧ Reading.acceptsOutput previous = true ∧
      addFence cells gap opener body = withOutput previous opener.indent body :: earlier := by
  cases cells with
  | nil => cases awaiting
  | cons previous earlier =>
    refine ⟨previous, earlier, rfl, awaiting, ?_⟩
    rw [addFence_eq, addGap_eq, (addGap_cells_nil_iff gap).mpr blank]
    dsimp only [List.nil_append]
    rw [output, show Reading.acceptsOutput previous = true from awaiting]
    rfl

/-- The fence becomes a cell of its own. -/
theorem addFence_cell {cells : List Cell} {gap : List Text} {opener : Fence.Opener}
    (other : (isOutputFence opener && (awaits cells && gap.all Text.isBlank)) = false)
    (body : List Text) :
    addFence cells gap opener body =
      Reading.codeCell (addGap cells gap).blanks opener body :: (addGap cells gap).cells := by
  rw [← awaits_addGap] at other
  rw [addFence_eq]
  cases before : (addGap cells gap).cells with
  | nil => rfl
  | cons previous earlier =>
    rw [before, awaits] at other
    simp only [other, Bool.false_eq_true, ↓reduceIte]

theorem awaits_addFence (cells : List Cell) (gap : List Text) (opener : Fence.Opener)
    (body : List Text) : awaits (addFence cells gap opener body) = !isOutputFence opener := by
  cases folds : isOutputFence opener && (awaits cells && gap.all Text.isBlank) with
  | true =>
    simp only [Bool.and_eq_true] at folds
    obtain ⟨output, awaiting, blank⟩ := folds
    obtain ⟨previous, earlier, rfl, _, added⟩ := addFence_output output awaiting blank body
    rw [added, output]
    simp [awaits, Reading.acceptsOutput, withOutput]
  | false =>
    rw [addFence_cell folds, awaits, isOutputFence]
    have language : (Reading.codeCell (addGap cells gap).blanks opener body).language =
        some (languageOfTag (Fence.splitInfo opener.info).1) := rfl
    rw [Reading.acceptsOutput, language]
    simp [languageOfTag_eq_outputTag_iff, Reading.codeCell, Cell.code, Cell.prose, Cell.isCode]

section Fences

variable {cells : List Cell} {opener : Fence.Opener}

theorem lineSafe_addFence (safe : ∀ cell ∈ cells, LineSafe cell) (indent : '\n' ∉ opener.indent)
    (info : '\n' ∉ opener.info) (gap body : List Text) :
    ∀ cell ∈ addFence cells gap opener body, LineSafe cell := by
  cases folds : isOutputFence opener && (awaits cells && gap.all Text.isBlank) with
  | true =>
    simp only [Bool.and_eq_true] at folds
    obtain ⟨output, awaiting, blank⟩ := folds
    obtain ⟨previous, earlier, rfl, _, added⟩ := addFence_output output awaiting blank body
    intro cell member
    rw [added] at member
    rcases List.mem_cons.mp member with rfl | member
    · have before := safe previous (List.mem_cons_self ..)
      exact ⟨before.spaced, before.indent, indent, before.info, before.visible⟩
    · exact safe cell (List.mem_cons_of_mem _ member)
  | false =>
    intro cell member
    rw [addFence_cell folds] at member
    rcases List.mem_cons.mp member with rfl | member
    · exact lineSafe_codeCell indent info
    · exact lineSafe_addGap safe gap cell member

theorem documentLines_addFence (safe : ∀ cell ∈ cells, LineSafe cell)
    (indent : '\n' ∉ opener.indent) (info : '\n' ∉ opener.info) (gap : List Text)
    {body : List Text} (whole : ∀ line ∈ body, '\n' ∉ line) :
    documentLines (addFence cells gap opener body).reverse =
      documentLines cells.reverse ++ settledFence (awaits cells) gap opener body := by
  rw [settledFence]
  cases folds : isOutputFence opener && (awaits cells && gap.all Text.isBlank) with
  | true =>
    simp only [Bool.and_eq_true] at folds
    obtain ⟨output, awaiting, blank⟩ := folds
    obtain ⟨previous, earlier, rfl, accepts, added⟩ := addFence_output output awaiting blank body
    have lines := cellLines_withOutput accepts (safe previous (List.mem_cons_self ..)) indent whole
    rw [added, if_pos rfl, List.reverse_cons, List.reverse_cons, documentLines_append,
      documentLines_append, documentLines_cons, documentLines_cons, lines]
    simp only [documentLines, List.flatMap_nil, List.append_nil, List.append_assoc]
    rfl
  | false =>
    rw [addFence_cell folds, if_neg Bool.false_ne_true, List.reverse_cons, documentLines_append,
      documentLines_cons, cellLines_codeCell indent info whole]
    have leading : (Reading.codeCell (addGap cells gap).blanks opener body).leading.length =
        (addGap cells gap).blanks := List.length_replicate
    have before := documentLines_addGap cells gap
    rw [leading, ← List.append_assoc, ← List.append_assoc, before]
    simp only [documentLines, List.flatMap_nil, List.append_nil, List.append_assoc]

end Fences

/-! ## Documents -/

theorem dropWhile_isEmpty_of_head {lines : List Text}
    (visible : ∀ line ∈ lines.head?, line ≠ []) : lines.dropWhile List.isEmpty = lines := by
  have halves := (@takeWhile_isEmpty_replicate 0 lines visible).2
  rwa [List.replicate_zero, List.nil_append] at halves

/-- Cells are written without the empty lines in front of the first one. -/
theorem serialize_eq {cells : List Cell} (safe : ∀ cell ∈ cells, LineSafe cell) {count : Nat}
    (trailing : ∀ cell ∈ cells.getLast?, cell.trailing = List.replicate count '\n') :
    serialize cells =
      ofPieces ((documentLines cells ++ List.replicate count []).dropWhile List.isEmpty) := by
  cases cells with
  | nil =>
    have ends := dropWhile_isEmpty_replicate count []
    rw [List.append_nil] at ends
    rw [documentLines, List.flatMap_nil, List.nil_append, ends]
    rfl
  | cons first rest =>
    have head := safe first (List.mem_cons_self ..)
    obtain ⟨line, others, split, visible⟩ := cellLines_head head.indent head.visible
    have last : (first :: rest).getLast?.map (·.trailing) = some (List.replicate count '\n') := by
      have last := List.getLast?_eq_some_getLast (List.cons_ne_nil first rest)
      rw [last, Option.map_some, trailing _ last]
    rw [← ofPieces_pieces (serialize (first :: rest)),
      pieces_serialize (fun cell member => (safe cell (List.mem_cons_of_mem _ member)).spaced) last,
      documentLines_cons, List.append_assoc, List.append_assoc, List.append_assoc,
      dropWhile_isEmpty_replicate, dropWhile_isEmpty_of_head]
    rw [split]
    rintro other ⟨⟩
    exact visible

/-- The empty lines behind the last cell do not matter to what holds of neighbours. -/
theorem isChain_finish {r : Cell → Cell → Prop}
    (same : ∀ cell last text, r cell { last with trailing := text } ↔ r cell last)
    (cells : List Cell) (blanks : Nat) :
    (Reading.finish ⟨cells, blanks⟩).IsChain r ↔ cells.IsChain fun next cell => r cell next := by
  cases cells with
  | nil => simp [Reading.finish]
  | cons last earlier =>
    rw [Reading.finish, List.isChain_reverse, List.isChain_cons, List.isChain_cons]
    simp only [same]

theorem serialize_finish {cells : List Cell} (safe : ∀ cell ∈ cells, LineSafe cell)
    (blanks : Nat) :
    serialize (Reading.finish ⟨cells, blanks⟩) =
      ofPieces ((documentLines cells.reverse ++ List.replicate blanks []).dropWhile
        List.isEmpty) := by
  cases cells with
  | nil => exact @serialize_eq [] safe blanks (fun _ none => by cases none)
  | cons last earlier =>
    have head := safe last (List.mem_cons_self ..)
    have same : documentLines (Reading.finish ⟨last :: earlier, blanks⟩) =
        documentLines (last :: earlier).reverse := by
      simp only [Reading.finish, List.reverse_cons, documentLines_append]
      rfl
    rw [← same]
    apply serialize_eq
    · intro cell member
      simp only [Reading.finish, List.reverse_cons, List.mem_append, List.mem_reverse,
        List.mem_singleton] at member
      rcases member with member | rfl
      · exact safe cell (List.mem_cons_of_mem _ member)
      · exact ⟨head.spaced, head.indent, head.outputIndent, head.info, head.visible⟩
    · intro cell ends
      simp only [Reading.finish, List.reverse_cons, List.getLast?_concat, Option.mem_some_iff] at ends
      rw [← ends]

/-- Reading an outline and writing it back settles its lines. -/
theorem serialize_read (outline : Outline) (scanned : outline.Scanned)
    (whole : ∀ line ∈ outline.lines, '\n' ∉ line) {cells : List Cell}
    (safe : ∀ cell ∈ cells, LineSafe cell) :
    serialize (outline.read cells) =
      ofPieces ((documentLines cells.reverse ++ outline.settle (awaits cells)).dropWhile
        List.isEmpty) := by
  induction outline generalizing cells with
  | outside gap =>
    have lines := documentLines_addGap cells gap
    rw [Outline.settle, ← lines]
    exact serialize_finish (lineSafe_addGap safe gap) _
  | unclosed gap opener body =>
    obtain ⟨_, valid, _⟩ := scanned
    obtain ⟨_, opens, body_whole⟩ := Outline.forall_lines_unclosed.mp whole
    have indent := newline_not_mem_indent valid.indent
    rw [Fence.Opener.render, List.mem_append, not_or] at opens
    have lines := documentLines_addFence safe indent opens.2 gap body_whole
    rw [Outline.read, Outline.settle, serialize_finish (lineSafe_addFence safe indent opens.2 gap body),
      lines, List.replicate_zero, List.append_nil]
  | fenced gap opener body closer rest ih =>
    obtain ⟨_, valid, _, _, scanned⟩ := scanned
    obtain ⟨_, opens, body_whole, _, rest_whole⟩ := Outline.forall_lines_fenced.mp whole
    have indent := newline_not_mem_indent valid.indent
    rw [Fence.Opener.render, List.mem_append, not_or] at opens
    have lines := documentLines_addFence safe indent opens.2 gap body_whole
    rw [Outline.read, Outline.settle, ih scanned rest_whole
      (lineSafe_addFence safe indent opens.2 gap body), lines, awaits_addFence, List.append_assoc]

/-- The lines that are written for a text, with empty lines that may stand in front of them. -/
def writtenLines (text : Text) : List Text :=
  (outline ((readerLines text).dropWhile List.isEmpty)).settle false

theorem newline_not_mem_readerLines {text line : Text}
    (member : line ∈ (readerLines text).dropWhile List.isEmpty) : '\n' ∉ line := by
  obtain ⟨piece, present, rfl⟩ := List.mem_map.mp ((List.dropWhile_sublist _).subset member)
  exact not_mem_dropReturn (newline_not_mem_of_mem_pieces present)

/-- What reading a text and writing it back gives, by the outline of its lines. -/
theorem serialize_parse {text : Text} (long : 2 ≤ text.pieces.length) :
    serialize (parse text) = ofPieces ((writtenLines text).dropWhile List.isEmpty) := by
  rw [parse_eq_read long]
  refine serialize_read _ (scanned_outline _) ?_ (fun _ member => absurd member List.not_mem_nil)
  rw [lines_outline]
  exact fun line member => newline_not_mem_readerLines member

end Notebook.Document
