import Notebook.Document.Writer
import Notebook.Proofs.Document.Fence

/-! # Lines of written cells

What the writer makes of cells is described line by line: the lines of a fence, of a code cell with
its output block, of prose without the line breaks around it, and of a whole list of cells.
-/

namespace Notebook.Document

open Text

/-! ## One cell -/

/-- The lines of a fence that is closed by its own mark. -/
def fenceLines (opener : Fence.Opener) (body : List Text) : List Text :=
  opener.render :: (body ++ [Fence.closing opener.indent])

/-- The lines between the fences of a code cell. -/
def bodyLines (cell : Cell) : List Text :=
  if cell.content = [] ∧ !cell.blankBody then [] else cell.content.pieces

/-- The lines of an output. -/
def outputLines (output : Text) : List Text := (endLine output).pieces.dropLast

/-- The lines that follow a code cell for its output. -/
def outputFence (cell : Cell) : List Text :=
  match cell.output with
  | some output =>
    if output = [] then []
    else [] :: fenceLines ⟨cell.outputIndent, Fence.outputTag⟩ (outputLines output)
  | none => []

/-- Prose without line breaks at its ends. -/
def trimBreaks (text : Text) : Text := dropEndWhile isLineBreak (text.dropWhile isLineBreak)

/-- The lines of a cell. -/
def cellLines (cell : Cell) : List Text := (cellText cell).pieces

theorem pieces_ofLines_append {lines : List Text} (whole : ∀ line ∈ lines, '\n' ∉ line)
    (text : Text) : (ofLines lines ++ text).pieces = lines ++ text.pieces := by
  induction lines with
  | nil => rfl
  | cons line lines ih =>
    have rest := ih (fun other member => whole other (List.mem_cons_of_mem _ member))
    have split : ofLines (line :: lines) ++ text = line ++ '\n' :: (ofLines lines ++ text) := by
      simp [ofLines]
    rw [split, pieces_append_newline, pieces_of_not_mem (whole line (List.mem_cons_self ..)), rest]
    rfl

theorem ofLines_pieces (text : Text) : ofLines text.pieces = text ++ ['\n'] := by
  rw [ofLines_eq (pieces_ne_nil text), ofPieces_pieces]

theorem endLine_ends (output : Text) : ∃ text, endLine output = text ++ ['\n'] := by
  by_cases ends : output.getLast? = some '\n'
  · obtain ⟨text, rfl⟩ := List.getLast?_eq_some_iff.mp ends
    exact ⟨text, by rw [endLine, if_pos ends]⟩
  · exact ⟨output, by rw [endLine, if_neg ends]⟩

theorem ofLines_outputLines (output : Text) : ofLines (outputLines output) = endLine output := by
  obtain ⟨text, ends⟩ := endLine_ends output
  rw [outputLines, ends, pieces_append_newline, pieces_nil, List.dropLast_concat, ofLines_pieces]

theorem newline_not_mem_outputLines {output line : Text} (member : line ∈ outputLines output) :
    '\n' ∉ line :=
  newline_not_mem_of_mem_pieces (List.dropLast_subset _ member)

theorem ofLines_bodyLines (cell : Cell) : ofLines (bodyLines cell) = codeBody cell := by
  rw [bodyLines, codeBody]
  split_ifs
  · rfl
  · exact ofLines_pieces _

theorem ofPieces_bodyLines (cell : Cell) : ofPieces (bodyLines cell) = cell.content := by
  rw [bodyLines]
  split_ifs with empty
  · exact empty.1.symm
  · exact ofPieces_pieces _

theorem newline_not_mem_bodyLines {cell : Cell} {line : Text} (member : line ∈ bodyLines cell) :
    '\n' ∉ line := by
  rw [bodyLines] at member
  split_ifs at member
  · exact absurd member List.not_mem_nil
  · exact newline_not_mem_of_mem_pieces member

theorem newline_not_mem_indent {indent : Text} (valid : indent ∈ Fence.indents) :
    '\n' ∉ indent := by
  revert indent
  decide

theorem newline_not_mem_closing {indent : Text} (whole : '\n' ∉ indent) :
    '\n' ∉ Fence.closing indent := by
  rw [Fence.closing, Fence.mark_eq, List.mem_append, not_or]
  exact ⟨whole, by decide⟩

theorem newline_not_mem_render {opener : Fence.Opener} (whole : '\n' ∉ opener.indent)
    (info : '\n' ∉ opener.info) : '\n' ∉ opener.render := by
  rw [Fence.Opener.render, List.mem_append, not_or]
  exact ⟨newline_not_mem_closing whole, info⟩

/-- A fence is written line by line. -/
theorem pieces_fenced {opener : Fence.Opener} {body : List Text} (indent : '\n' ∉ opener.indent)
    (info : '\n' ∉ opener.info) (whole : ∀ line ∈ body, '\n' ∉ line) :
    (fenced opener.indent opener.info (ofLines body)).pieces = fenceLines opener body := by
  have split : fenced opener.indent opener.info (ofLines body) =
      opener.render ++ '\n' :: (ofLines body ++ Fence.closing opener.indent) := by
    simp [fenced, Fence.Opener.render, Fence.closing]
  rw [split, pieces_append_newline, pieces_of_not_mem (newline_not_mem_render indent info),
    pieces_ofLines_append whole, pieces_of_not_mem (newline_not_mem_closing indent)]
  rfl

theorem cellLines_code {cell : Cell} (code : cell.kind = .code) (indent : '\n' ∉ cell.indent)
    (info : '\n' ∉ writtenInfo cell) (outputIndent : '\n' ∉ cell.outputIndent) :
    cellLines cell =
      fenceLines ⟨cell.indent, writtenInfo cell⟩ (bodyLines cell) ++ outputFence cell := by
  have fence := @pieces_fenced ⟨cell.indent, writtenInfo cell⟩ (bodyLines cell) indent info
    (fun _ => newline_not_mem_bodyLines)
  rw [ofLines_bodyLines] at fence
  rw [cellLines, cellText, code]
  dsimp only
  rw [outputBlock, outputFence]
  cases cell.output with
  | none => exact (congrArg pieces (List.append_nil _)).trans (fence.trans (List.append_nil _).symm)
  | some output =>
    dsimp only
    split_ifs
    · exact (congrArg pieces (List.append_nil _)).trans (fence.trans (List.append_nil _).symm)
    · have block := @pieces_fenced ⟨cell.outputIndent, Fence.outputTag⟩ (outputLines output)
        outputIndent (show '\n' ∉ Fence.outputTag by decide) (fun _ => newline_not_mem_outputLines)
      rw [ofLines_outputLines] at block
      have breaks : ("\n\n" : Text) = ['\n', '\n'] := rfl
      rw [breaks, List.cons_append, List.singleton_append, pieces_append_newline,
        pieces_newline_cons, fence, block]

theorem cellLines_prose {cell : Cell} (prose : cell.kind = .prose) :
    cellLines cell = (trimBreaks cell.content).pieces := by
  rw [cellLines, cellText, prose]
  rfl

/-! ## Prose -/

theorem isBlank_of_isLineBreak {c : Char} (breaks : isLineBreak c = true) :
    Notebook.isBlank c = true := by
  simp only [isLineBreak, Bool.or_eq_true, decide_eq_true_eq] at breaks
  rcases breaks with rfl | rfl <;> decide

theorem isBlank_dropWhile (text : Text) :
    Text.isBlank (text.dropWhile isLineBreak) = text.isBlank := by
  have blank : (text.takeWhile isLineBreak).all Notebook.isBlank = true :=
    List.all_eq_true.mpr fun c member => isBlank_of_isLineBreak (List.mem_takeWhile_imp member)
  conv_rhs => rw [← List.takeWhile_append_dropWhile (p := isLineBreak) (l := text)]
  rw [Text.isBlank, Text.isBlank, List.all_append, blank, Bool.true_and]

theorem isBlank_dropEndWhile (text : Text) :
    Text.isBlank (dropEndWhile isLineBreak text) = text.isBlank := by
  rw [dropEndWhile_eq_rdropWhile, List.rdropWhile, Text.isBlank, List.all_reverse]
  exact (isBlank_dropWhile text.reverse).trans (by rw [Text.isBlank, List.all_reverse]; rfl)

/-- Prose with a visible character is written with one. -/
theorem isBlank_trimBreaks (text : Text) : (trimBreaks text).isBlank = text.isBlank := by
  rw [trimBreaks, isBlank_dropEndWhile, isBlank_dropWhile]

theorem trimBreaks_sublist (text : Text) : (trimBreaks text).Sublist text := by
  rw [trimBreaks, dropEndWhile_eq_rdropWhile]
  exact (List.rdropWhile_prefix _ _).sublist.trans (List.dropWhile_sublist _)

theorem trimBreaks_head {text : Text} (visible : text.isBlank = false) :
    ∃ c rest, trimBreaks text = c :: rest ∧ isLineBreak c = false := by
  cases start : text.dropWhile isLineBreak with
  | nil =>
    have blank := isBlank_dropWhile text
    rw [start, visible] at blank
    cases blank
  | cons c rest =>
    have stops : isLineBreak c = false := by
      have first := List.head_dropWhile_not isLineBreak (l := text)
        (by rw [start]; exact List.cons_ne_nil _ _)
      simpa [start] using first
    refine ⟨c, dropEndWhile isLineBreak rest, ?_, stops⟩
    have step : dropEndWhile isLineBreak (c :: rest) =
        if (dropEndWhile isLineBreak rest).isEmpty && isLineBreak c then []
        else c :: dropEndWhile isLineBreak rest := rfl
    rw [trimBreaks, start, step, stops, Bool.and_false]
    rfl

/-! ## A list of cells -/

/-- The blank lines in front of the cell are nothing but newlines. -/
def Spaced (cell : Cell) : Prop := ∀ c ∈ cell.leading, c = '\n'

/-- The lines of cells, each behind its empty lines. -/
def documentLines (cells : List Cell) : List Text :=
  cells.flatMap fun cell => List.replicate cell.leading.length [] ++ cellLines cell

theorem documentLines_append (cells others : List Cell) :
    documentLines (cells ++ others) = documentLines cells ++ documentLines others :=
  List.flatMap_append

theorem documentLines_cons (cell : Cell) (cells : List Cell) :
    documentLines (cell :: cells) =
      List.replicate cell.leading.length [] ++ cellLines cell ++ documentLines cells :=
  List.flatMap_cons

private theorem pieces_append_followingText {cells : List Cell}
    (spaced : ∀ cell ∈ cells, Spaced cell) (text : Text) :
    (text ++ followingText cells).pieces = text.pieces ++ documentLines cells := by
  induction cells generalizing text with
  | nil =>
    rw [followingText, documentLines, List.flatMap_nil, List.flatMap_nil, List.append_nil,
      List.append_nil]
  | cons cell cells ih =>
    have leading : cell.leading = List.replicate cell.leading.length '\n' :=
      List.eq_replicate_iff.mpr ⟨rfl, spaced cell (List.mem_cons_self ..)⟩
    have split : followingText (cell :: cells) =
        '\n' :: (List.replicate cell.leading.length '\n' ++ (cellText cell ++ followingText cells)) := by
      rw [← leading]
      simp [followingText]
    rw [split, pieces_append_newline, pieces_newlines_append,
      ih (fun other member => spaced other (List.mem_cons_of_mem _ member)), documentLines_cons]
    simp [cellLines]

/-- A written document, line by line. -/
theorem pieces_serialize {first : Cell} {rest : List Cell} (spaced : ∀ cell ∈ rest, Spaced cell)
    {count : Nat}
    (trailing : (first :: rest).getLast?.map (·.trailing) = some (List.replicate count '\n')) :
    (serialize (first :: rest)).pieces =
      cellLines first ++ documentLines rest ++ List.replicate count [] := by
  rw [serialize, trailing, Option.getD_some, pieces_append_newlines,
    pieces_append_followingText spaced, cellLines]

/-- A cell starts with a line that is not empty. -/
theorem cellLines_head {cell : Cell} (indent : '\n' ∉ cell.indent)
    (visible : cell.kind = .prose → cell.content.isBlank = false) :
    ∃ line rest, cellLines cell = line :: rest ∧ line ≠ [] := by
  have start : ∃ c text, cellText cell = c :: text ∧ c ≠ '\n' := by
    cases kind : cell.kind with
    | prose =>
      obtain ⟨c, rest, split, stops⟩ := trimBreaks_head (visible kind)
      refine ⟨c, rest, by rw [cellText, kind]; exact split, ?_⟩
      rintro rfl
      cases stops
    | code =>
      rw [cellText, kind]
      cases first : cell.indent with
      | nil => exact ⟨'`', _, rfl, by decide⟩
      | cons c rest =>
        refine ⟨c, _, rfl, ?_⟩
        rintro rfl
        exact indent (by rw [first]; exact List.mem_cons_self ..)
  obtain ⟨c, text, split, other⟩ := start
  obtain ⟨line, rest, _, whole⟩ := pieces_cons other text
  exact ⟨c :: line, rest, by rw [cellLines, split, whole], List.cons_ne_nil _ _⟩

end Notebook.Document
