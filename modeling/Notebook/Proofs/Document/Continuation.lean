import Notebook.Proofs.Document.Settling

/-! # Reading on

Behind cells that have been read, further lines are read stretch by stretch: prose becomes a cell
when a fence or the end of the document follows, and a fence becomes a cell or an output. What was
read before stays as it is, except that the last cell may still be given an output.
-/

namespace Notebook.Document

open Text

/-- Reads further lines after cells that have been read, latest first. -/
def readOn (cells : List Cell) (lines : List Text) : List Cell := (outline lines).read cells

theorem parse_eq_readOn {text : Text} (long : 2 ≤ text.pieces.length) :
    parse text = readOn [] ((readerLines text).dropWhile List.isEmpty) :=
  parse_eq_read long

section Steps

variable {cells : List Cell} {gap middle body lines : List Text} {opener : Fence.Opener}

theorem readOn_gap (unopened : Unopened gap) : readOn cells gap = (addGap cells gap).finish := by
  have lines := @Outline.scan_outside_append [] _ unopened []
  rw [List.append_nil, List.nil_append] at lines
  rw [readOn, outline, lines]
  rfl

theorem readOn_replicate (count : Nat) :
    readOn cells (List.replicate count []) = Reading.finish ⟨cells, count⟩ := by
  rw [readOn_gap (unopened_replicate count), addGap_replicate]

/-- Only what has been taken up counts, not the lines that it was taken up from. -/
theorem readOn_congr {others : List Cell} {stretch : List Text} (unopened : Unopened gap)
    (unopened' : Unopened stretch) (same : addGap cells gap = addGap others stretch)
    (opening : Opening lines) : readOn cells (gap ++ lines) = readOn others (stretch ++ lines) := by
  cases lines with
  | nil => rw [List.append_nil, List.append_nil, readOn_gap unopened, readOn_gap unopened', same]
  | cons line rest =>
    obtain ⟨opener, opens⟩ := Option.ne_none_iff_exists'.mp (opening line rfl)
    rw [readOn, readOn, outline, outline, Outline.scan_outside_append unopened,
      Outline.scan_outside_append unopened', List.nil_append, List.nil_append,
      Outline.scan_opener opens, Outline.scan_opener opens, Outline.read_inside,
      Outline.read_inside, addFence, addFence, same]

/-- Prose with a visible character, up to the next fence. -/
theorem readOn_prose (framed : Framed middle) (unopened : Unopened middle)
    (visible : middle.all Text.isBlank = false) (opening : Opening lines) (before after : Nat) :
    readOn cells (List.replicate before [] ++ (middle ++ (List.replicate after [] ++ lines))) =
      readOn (Reading.proseCell before middle :: cells) (List.replicate after [] ++ lines) := by
  rw [← List.append_assoc, ← List.append_assoc]
  refine readOn_congr (((unopened_replicate before).append unopened).append
    (unopened_replicate after)) (unopened_replicate after) ?_ opening
  rw [addGap_framed _ framed, addGap_replicate, Reading.addBlock, isBlank_prose, visible,
    if_neg Bool.false_ne_true]

/-- A fence with the lines before it, up to the line that closes it. -/
theorem readOn_fence (unopened : Unopened gap) (valid : opener.Valid) (unclosed : Unclosed body)
    {closer : Text} (closes : Fence.isCloser closer = true) (lines : List Text) :
    readOn cells (gap ++ opener.render :: (body ++ closer :: lines)) =
      readOn (addFence cells gap opener body) lines := by
  rw [readOn, outline, Outline.scan_outside_append unopened, List.nil_append,
    Outline.scan_fence valid unclosed closes]
  rfl

/-- A fence with the lines before it, up to the line that closes it or the end. -/
theorem readOn_opener (unopened : Unopened gap) (valid : opener.Valid) (lines : List Text) :
    readOn cells (gap ++ opener.render :: lines) =
      readOn (addFence cells gap opener (Block.bodySpan lines).1) (Block.bodySpan lines).2 := by
  rw [readOn, outline, Outline.scan_outside_append unopened, List.nil_append,
    Outline.scan_opener (Fence.opener?_render valid), Outline.read_inside]
  rfl

end Steps

/-! ## What was read before -/

section Before

variable {α : Type} {f : Cell → α}

/-- A part of cells that does not depend on the empty lines behind the last one. -/
def Untrailed (f : Cell → α) : Prop :=
  ∀ (cell : Cell) (text : Text), f { cell with trailing := text } = f cell

/-- A part of cells that no output changes. -/
def Unwritten (f : Cell → α) : Prop :=
  ∀ (cell : Cell) (indent : Text) (body : List Text), f (withOutput cell indent body) = f cell

theorem map_finish (untrailed : Untrailed f) (cells : List Cell) (blanks : Nat) :
    (Reading.finish ⟨cells, blanks⟩).map f = cells.reverse.map f := by
  cases cells with
  | nil => rfl
  | cons last earlier =>
    simp only [Reading.finish, List.reverse_cons, List.map_append, List.map_singleton]
    rw [untrailed]

theorem isPrefix_reverse_addGap (cells : List Cell) (gap : List Text) :
    cells.reverse <+: (addGap cells gap).cells.reverse := by
  rw [addGap_eq, List.reverse_append]
  exact List.prefix_append _ _

/-- A fence adds a cell, or an output to the last cell. -/
theorem addFence_cases (cells : List Cell) (gap : List Text) (opener : Fence.Opener)
    (body : List Text) :
    (∃ previous earlier, cells = previous :: earlier ∧ awaits cells = true ∧
        addFence cells gap opener body = withOutput previous opener.indent body :: earlier) ∨
      addFence cells gap opener body =
        Reading.codeCell (addGap cells gap).blanks opener body :: (addGap cells gap).cells := by
  cases folds : isOutputFence opener && (awaits cells && gap.all Text.isBlank) with
  | false => exact .inr (addFence_cell folds body)
  | true =>
    simp only [Bool.and_eq_true] at folds
    obtain ⟨output, awaiting, blank⟩ := folds
    obtain ⟨previous, earlier, split, _, added⟩ := addFence_output output awaiting blank body
    exact .inl ⟨previous, earlier, split, awaiting, added⟩

theorem isPrefix_map_addFence (unwritten : Unwritten f) (cells : List Cell) (gap : List Text)
    (opener : Fence.Opener) (body : List Text) :
    cells.reverse.map f <+: (addFence cells gap opener body).reverse.map f := by
  rcases addFence_cases cells gap opener body with ⟨previous, earlier, rfl, _, added⟩ | added
  · have same : (withOutput previous opener.indent body :: earlier).reverse.map f =
        (previous :: earlier).reverse.map f := by
      rw [List.reverse_cons, List.reverse_cons, List.map_append, List.map_append,
        List.map_singleton, List.map_singleton, unwritten]
    rw [added]
    exact same ▸ List.prefix_refl _
  · rw [added, List.reverse_cons]
    exact ((isPrefix_reverse_addGap cells gap).trans (List.prefix_append _ _)).map f

/-- Cells stay as they are, up to their outputs. -/
theorem isPrefix_map_read (untrailed : Untrailed f) (unwritten : Unwritten f) (outline : Outline)
    (cells : List Cell) : cells.reverse.map f <+: (outline.read cells).map f := by
  induction outline generalizing cells with
  | outside gap =>
    rw [Outline.read, map_finish untrailed]
    exact (isPrefix_reverse_addGap cells gap).map f
  | unclosed gap opener body =>
    rw [Outline.read, map_finish untrailed]
    exact isPrefix_map_addFence unwritten cells gap opener body
  | fenced gap opener body closer rest ih =>
    exact (isPrefix_map_addFence unwritten cells gap opener body).trans (ih _)

theorem isPrefix_reverse_addFence_tail (cells : List Cell) (gap : List Text) (opener : Fence.Opener)
    (body : List Text) :
    cells.tail.reverse <+: (addFence cells gap opener body).tail.reverse := by
  rcases addFence_cases cells gap opener body with ⟨previous, earlier, rfl, _, added⟩ | added
  · rw [added]
    exact List.prefix_refl _
  · rw [added]
    refine List.IsPrefix.trans ?_ (isPrefix_reverse_addGap cells gap)
    cases cells with
    | nil => exact List.prefix_refl _
    | cons cell earlier =>
      rw [List.reverse_cons]
      exact List.prefix_append _ _

/-- All cells but the last stay as they are. -/
theorem isPrefix_map_read_tail (untrailed : Untrailed f) (outline : Outline) (cells : List Cell) :
    cells.tail.reverse.map f <+: (outline.read cells).map f := by
  have earlier : ∀ others : List Cell, others.tail.reverse <+: others.reverse := by
    rintro (_ | ⟨cell, earlier⟩)
    · exact List.prefix_refl _
    · rw [List.reverse_cons]
      exact List.prefix_append _ _
  induction outline generalizing cells with
  | outside gap =>
    rw [Outline.read, map_finish untrailed]
    exact ((earlier cells).trans (isPrefix_reverse_addGap cells gap)).map f
  | unclosed gap opener body =>
    rw [Outline.read, map_finish untrailed]
    exact ((isPrefix_reverse_addFence_tail cells gap opener body).trans (earlier _)).map f
  | fenced gap opener body closer rest ih =>
    exact ((isPrefix_reverse_addFence_tail cells gap opener body).map f).trans (ih _)

/-- The last cell stays as it is too, when it awaits no output. -/
theorem isPrefix_map_read_of_awaits (untrailed : Untrailed f) (outline : Outline) {cells : List Cell}
    (done : awaits cells = false) : cells.reverse.map f <+: (outline.read cells).map f := by
  have added : ∀ gap opener body, addFence cells gap opener body =
      Reading.codeCell (addGap cells gap).blanks opener body :: (addGap cells gap).cells := by
    intro gap opener body
    apply addFence_cell
    rw [done, Bool.false_and, Bool.and_false]
  cases outline with
  | outside gap =>
    rw [Outline.read, map_finish untrailed]
    exact (isPrefix_reverse_addGap cells gap).map f
  | unclosed gap opener body =>
    rw [Outline.read, map_finish untrailed, added, List.reverse_cons]
    exact ((isPrefix_reverse_addGap cells gap).trans (List.prefix_append _ _)).map f
  | fenced gap opener body closer rest =>
    rw [Outline.read, added]
    exact ((isPrefix_reverse_addGap cells gap).map f).trans
      (isPrefix_map_read_tail untrailed rest (Reading.codeCell _ opener body :: _))

end Before

end Notebook.Document
