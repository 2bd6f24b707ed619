import Notebook.Proofs.Document.Continuation

/-! # Nothing is lost in reading

The lines of a text are fence lines and the lines between them. A scan that knows no cells tells
them apart: outside a fence it looks for an opener, inside for a closer. Those lines between that
have a visible character are the visible lines of the cells in order, of the content of each cell
and then of its output. The reader neither loses, nor repeats, nor moves one.
-/

namespace Notebook.Document

open Text

/-- The lines that are no fence lines, in order, for a scan that starts outside or inside a
fence. -/
def contentLines : (isInside : Bool) → List Text → List Text
  | _, [] => []
  | false, line :: rest =>
    if (Fence.opener? line).isSome then contentLines true rest
    else line :: contentLines false rest
  | true, line :: rest =>
    if Fence.isCloser line then contentLines false rest
    else line :: contentLines true rest

/-- The lines that have a visible character. -/
def visible (lines : List Text) : List Text := lines.filter fun line => !line.isBlank

/-- The visible lines of a cell, those of its output last. -/
def visibleLines (cell : Cell) : List Text :=
  visible cell.content.pieces ++ visible (cell.output.getD []).pieces

/-! ## The scan and the outline -/

/-- The lines of an outline that are no fence lines. -/
def Outline.content : Outline → List Text
  | .outside gap => gap
  | .unclosed gap _ body => gap ++ body
  | .fenced gap _ body _ rest => gap ++ (body ++ rest.content)

/-- The lines taken up so far that are no fence lines. -/
def Standing.content : Standing → List Text
  | .outside gap => gap
  | .inside gap _ body => gap ++ body

/-- The scan stands inside a fence. -/
def Standing.isInside : Standing → Bool
  | .outside _ => false
  | .inside .. => true

theorem content_scan (standing : Standing) (lines : List Text) :
    (Outline.scan standing lines).content =
      standing.content ++ contentLines standing.isInside lines := by
  induction lines generalizing standing with
  | nil =>
    rw [contentLines, List.append_nil]
    cases standing <;> rfl
  | cons line rest ih =>
    cases standing with
    | outside gap =>
      rw [Standing.isInside, contentLines]
      cases opens : Fence.opener? line with
      | some opener =>
        rw [Outline.scan_opener opens, ih, Option.isSome_some, if_pos rfl]
        exact congrArg (· ++ contentLines true rest) (List.append_nil gap)
      | none =>
        rw [Outline.scan, opens, Option.isSome_none, if_neg Bool.false_ne_true]
        dsimp only
        rw [ih]
        exact List.append_assoc gap [line] _
    | inside gap opener body =>
      rw [Standing.isInside, contentLines]
      cases closes : Fence.isCloser line with
      | true =>
        rw [Outline.scan_closer closes, if_pos rfl, Outline.content, outline, ih]
        exact (List.append_assoc gap body _).symm
      | false =>
        rw [Outline.scan, closes, if_neg Bool.false_ne_true, if_neg Bool.false_ne_true, ih]
        simp [Standing.content, Standing.isInside]

theorem content_outline (lines : List Text) :
    (outline lines).content = contentLines false lines := content_scan (.outside []) lines

/-! ## Visible lines -/

section Visible

variable {lines gap body : List Text}

theorem visible_append (lines others : List Text) :
    visible (lines ++ others) = visible lines ++ visible others := List.filter_append ..

theorem visible_eq_nil_iff : visible lines = [] ↔ lines.all Text.isBlank = true := by
  simp [visible]

@[simp] theorem visible_replicate (count : Nat) : visible (List.replicate count []) = [] :=
  visible_eq_nil_iff.mpr (all_isBlank_replicate count)

theorem visible_pieces_ofPieces (whole : ∀ line ∈ lines, '\n' ∉ line) :
    visible (ofPieces lines).pieces = visible lines := by
  rcases eq_or_ne lines [] with rfl | filled
  · rfl
  · rw [pieces_ofPieces whole filled]

theorem visible_pieces_ofLines (whole : ∀ line ∈ lines, '\n' ∉ line) :
    visible (ofLines lines).pieces = visible lines := by
  have split := pieces_ofLines_append whole []
  rw [List.append_nil] at split
  rw [split, visible_append]
  exact List.append_nil _

/-- Empty lines at the start of a document are content that is not visible. -/
theorem visible_contentLines_dropWhile (lines : List Text) :
    visible (contentLines false (lines.dropWhile List.isEmpty)) =
      visible (contentLines false lines) := by
  induction lines with
  | nil => rfl
  | cons line rest ih =>
    cases line with
    | nil => exact ih
    | cons c line => rfl

/-! ## Steps of reading -/

theorem flatMap_addGap (cells : List Cell) (whole : ∀ line ∈ gap, '\n' ∉ line) :
    (addGap cells gap).cells.reverse.flatMap visibleLines =
      cells.reverse.flatMap visibleLines ++ visible gap := by
  rcases gap_cases gap with ⟨count, rfl⟩ | ⟨before, middle, after, framed, rfl⟩
  · rw [addGap_replicate, visible_replicate, List.append_nil]
  · have middle_whole : ∀ line ∈ middle, '\n' ∉ line := fun line member =>
      whole line (List.mem_append_left _ (List.mem_append_right _ member))
    rw [addGap_framed _ framed, visible_append, visible_append, visible_replicate,
      visible_replicate, List.nil_append, List.append_nil, Reading.addBlock, isBlank_prose]
    split_ifs with blank
    · rw [visible_eq_nil_iff.mpr blank, List.append_nil]
    · rw [List.reverse_cons, List.flatMap_append, List.flatMap_singleton, visibleLines]
      dsimp only [Reading.proseCell, Cell.prose]
      rw [visible_pieces_ofPieces middle_whole]
      exact congrArg _ (List.append_nil _)

theorem visibleLines_withOutput {cell : Cell} (accepts : Reading.acceptsOutput cell = true)
    (indent : Text) (whole : ∀ line ∈ body, '\n' ∉ line) :
    visibleLines (withOutput cell indent body) = visibleLines cell ++ visible body := by
  simp only [Reading.acceptsOutput, Bool.and_eq_true, Option.isNone_iff_eq_none] at accepts
  rw [visibleLines, visibleLines, accepts.2]
  dsimp only [withOutput, Option.getD_some, Option.getD_none]
  rw [visible_pieces_ofLines whole, pieces_nil]
  exact congrArg (· ++ visible body) (List.append_nil _).symm

theorem visibleLines_codeCell (blanks : Nat) (opener : Fence.Opener)
    (whole : ∀ line ∈ body, '\n' ∉ line) :
    visibleLines (Reading.codeCell blanks opener body) = visible body := by
  rw [visibleLines]
  dsimp only [Reading.codeCell, Cell.code, Cell.prose]
  rw [visible_pieces_ofPieces whole]
  exact List.append_nil _

/-- A fence gives its lines to a new cell, or to the last one if nothing visible is between. -/
theorem flatMap_addFence (cells : List Cell) (opener : Fence.Opener)
    (gap_whole : ∀ line ∈ gap, '\n' ∉ line) (whole : ∀ line ∈ body, '\n' ∉ line) :
    (addFence cells gap opener body).reverse.flatMap visibleLines =
      cells.reverse.flatMap visibleLines ++ (visible gap ++ visible body) := by
  cases folds : isOutputFence opener && (awaits cells && gap.all Text.isBlank) with
  | true =>
    simp only [Bool.and_eq_true] at folds
    obtain ⟨output, awaiting, blank⟩ := folds
    obtain ⟨previous, earlier, rfl, accepts, added⟩ := addFence_output output awaiting blank body
    rw [added, visible_eq_nil_iff.mpr blank, List.reverse_cons, List.reverse_cons,
      List.flatMap_append, List.flatMap_append, List.flatMap_singleton, List.flatMap_singleton,
      visibleLines_withOutput accepts _ whole, List.nil_append, List.append_assoc]
  | false =>
    rw [addFence_cell folds, List.reverse_cons, List.flatMap_append, List.flatMap_singleton,
      flatMap_addGap cells gap_whole, visibleLines_codeCell _ _ whole, List.append_assoc]

end Visible

theorem flatMap_finish (cells : List Cell) (blanks : Nat) :
    (Reading.finish ⟨cells, blanks⟩).flatMap visibleLines = cells.reverse.flatMap visibleLines := by
  rw [List.flatMap_def, List.flatMap_def, map_finish fun _ _ => rfl]

/-- Reading an outline adds its visible content to that of the cells before it. -/
theorem flatMap_read (outline : Outline) (whole : ∀ line ∈ outline.lines, '\n' ∉ line)
    (cells : List Cell) :
    (outline.read cells).flatMap visibleLines =
      cells.reverse.flatMap visibleLines ++ visible outline.content := by
  induction outline generalizing cells with
  | outside gap => exact (flatMap_finish _ _).trans (flatMap_addGap cells whole)
  | unclosed gap opener body =>
    obtain ⟨gap_whole, _, body_whole⟩ := Outline.forall_lines_unclosed.mp whole
    rw [Outline.read, flatMap_finish, flatMap_addFence cells opener gap_whole body_whole,
      Outline.content, visible_append]
  | fenced gap opener body closer rest ih =>
    obtain ⟨gap_whole, _, body_whole, _, rest_whole⟩ := Outline.forall_lines_fenced.mp whole
    rw [Outline.read, ih rest_whole, flatMap_addFence cells opener gap_whole body_whole,
      Outline.content, visible_append, visible_append]
    simp only [List.append_assoc]

/-- The visible lines between the fence lines of a text are those of the cells that are read from
it, cell by cell. -/
theorem visible_contentLines {text : Text} (long : 2 ≤ (readerLines text).length) :
    visible (contentLines false (readerLines text)) = (parse text).flatMap visibleLines := by
  rw [readerLines, List.length_map] at long
  have whole : ∀ line ∈ (outline ((readerLines text).dropWhile List.isEmpty)).lines,
      '\n' ∉ line := by
    rw [lines_outline]
    exact fun line member => newline_not_mem_readerLines member
  rw [parse_eq_read long, flatMap_read _ whole, content_outline, visible_contentLines_dropWhile]
  rfl

/-- Two outputs in a row, blank prose and a fence that is left open. -/
theorem visible_contentLines_open_fence :
    2 ≤ (readerLines "\na\r\n```py\nx\n```\n \n```text\n1\n ```\n```text\n2\n```\n```\n    ```").length ∧
      (parse "\na\r\n```py\nx\n```\n \n```text\n1\n ```\n```text\n2\n```\n```\n    ```").flatMap
        visibleLines = ["a", "x", "1", "2", "```", "    ```"] :=
  ⟨by decide, (visible_contentLines (by decide)).symm.trans (by decide)⟩

end Notebook.Document
