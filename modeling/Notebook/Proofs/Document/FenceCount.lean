import Mathlib.Algebra.GroupWithZero.Nat
import Notebook.Proofs.Document.Trimmed

/-! # Fences are not made up

Every code cell that is read, and every output, takes a line of the text that carries the mark of a
fence with something visible behind it. The writer puts down such a line for each fence only if the
info text has a visible character, and what else it puts down comes from the prose of the cells. So
a code cell whose fence says nothing is missed: what is read from the text cannot have as many
fences and the same prose.
-/

namespace Notebook.Document

open Text

/-- The line carries the mark of a fence and more that is visible. -/
def isHead (line : Text) : Bool :=
  Fence.isCloser line && 3 < line.countP fun c => !Notebook.isBlank c

/-- How many of the lines carry more than the mark of a fence. -/
def heads (lines : List Text) : Nat := lines.countP isHead

/-- How many such lines a cell takes: those of its content, and one for each of its fences. -/
def cellHeads (cell : Cell) : Nat :=
  heads cell.content.pieces + (if cell.isCode then 1 else 0) + if cell.output.isSome then 1 else 0

/-- How many such lines the cells take. -/
def headCount (cells : List Cell) : Nat := (cells.map cellHeads).sum

/-! ## Lines -/

section Lines

variable {lines others : List Text} {line : Text} {opener : Fence.Opener}

theorem heads_append : heads (lines ++ others) = heads lines + heads others := List.countP_append

theorem heads_cons : heads (line :: lines) = heads [line] + heads lines :=
  @heads_append [line] lines

theorem heads_singleton_le : heads [line] ≤ 1 := List.countP_le_length

theorem heads_singleton_congr {other : Text} (same : isHead line = isHead other) :
    heads [line] = heads [other] := by
  rw [heads, heads, List.countP_singleton, List.countP_singleton, same]

theorem heads_of_unclosed (unclosed : Unclosed lines) : heads lines = 0 := by
  rw [heads, List.countP_eq_zero]
  intro line member
  rw [isHead, unclosed line member]
  exact Bool.false_ne_true

theorem heads_replicate (count : Nat) : heads (List.replicate count []) = 0 :=
  heads_of_unclosed (unclosed_replicate count)

theorem heads_closing {indent : Text} (valid : indent ∈ Fence.indents) :
    heads [Fence.closing indent] = 0 := by
  revert indent
  decide

theorem heads_render (valid : opener.Valid) : heads [opener.render] = 1 := by
  have closes := Fence.isCloser_of_opener? (Fence.opener?_render valid)
  have visible : 0 < opener.info.countP fun c => !Notebook.isBlank c := by
    rw [List.countP_pos_iff]
    simpa [Text.isBlank] using valid.visible
  have mark : Fence.mark.countP (fun c => !Notebook.isBlank c) = 3 := by decide
  have long : 3 < opener.render.countP fun c => !Notebook.isBlank c := by
    rw [Fence.Opener.render, List.countP_append, List.countP_append, mark]
    omega
  rw [heads, List.countP_singleton, isHead, closes, decide_eq_true long]
  rfl

theorem isHead_dropReturn (line : Text) : isHead (dropReturn line) = isHead line := by
  have counted : (dropReturn line).countP (fun c => !Notebook.isBlank c) =
      line.countP fun c => !Notebook.isBlank c := by
    have blank : List.countP (fun c => !Notebook.isBlank c) ['\r'] = 0 := by decide
    rcases dropReturn_cases line with same | split
    · rw [same]
    · conv_rhs => rw [split, List.countP_append, blank]
      rfl
  rw [isHead, isHead, Fence.isCloser_dropReturn, counted]

theorem heads_map_dropReturn (lines : List Text) : heads (lines.map dropReturn) = heads lines := by
  rw [heads, List.countP_map]
  exact List.countP_congr fun line _ => by rw [Function.comp_apply, isHead_dropReturn]

end Lines

/-! ## Prose without its line breaks -/

theorem Loses.isHead_eq {short long : Text} (loses : Loses short long) : isHead short = isHead long :=
  loses.dropReturn_iterate (p := fun line => isHead line = isHead long)
    (fun line same => (isHead_dropReturn line).trans same) rfl

theorem isHead_cons_of_isLineBreak {c : Char} (breaks : isLineBreak c = true) (line : Text) :
    isHead (c :: line) = isHead line := by
  have closes : Fence.isCloser (c :: line) = Fence.isCloser line := by
    rw [← isCloser_dropWhile, List.dropWhile_cons_of_pos breaks, isCloser_dropWhile]
  have blank := isBlank_of_isLineBreak breaks
  rw [isHead, isHead, closes, List.countP_cons_of_neg (by simp [blank])]

theorem heads_pieces_dropWhile_le (text : Text) :
    heads (pieces (text.dropWhile isLineBreak)) ≤ heads text.pieces := by
  induction text with
  | nil => exact Nat.le_refl _
  | cons c text ih =>
    cases breaks : isLineBreak c with
    | false => rw [List.dropWhile_cons_of_neg (by simp [breaks])]
    | true =>
      rw [List.dropWhile_cons_of_pos breaks]
      refine Nat.le_trans ih ?_
      by_cases newline : c = '\n'
      · rw [newline, pieces_newline_cons, heads_cons]
        exact Nat.le_add_left _ _
      · obtain ⟨first, rest, split, longer⟩ := pieces_cons newline text
        have same := heads_singleton_congr (isHead_cons_of_isLineBreak breaks first)
        rw [split, longer, heads_cons, @heads_cons rest (c :: first), same]

theorem heads_of_forall₂ {lines others : List Text} (related : List.Forall₂ Loses lines others) :
    heads lines = heads others := by
  induction related with
  | nil => rfl
  | @cons short long _ rest loses _ ih =>
    rw [heads_cons, @heads_cons rest long, ih, heads_singleton_congr loses.isHead_eq]

theorem heads_pieces_dropEndWhile_le (text : Text) :
    heads (dropEndWhile isLineBreak text).pieces ≤ heads text.pieces := by
  obtain ⟨lines, rest, split, related⟩ := forall₂_pieces_dropEndWhile text
  rw [heads_of_forall₂ related, split, heads_append]
  exact Nat.le_add_right _ _

/-! ## Reading -/

section Reading

variable {cells : List Cell} {gap body : List Text} {opener : Fence.Opener}

theorem headCount_cons (cell : Cell) (cells : List Cell) :
    headCount (cell :: cells) = cellHeads cell + headCount cells := List.sum_cons

theorem headCount_append (cells others : List Cell) :
    headCount (cells ++ others) = headCount cells + headCount others := by
  rw [headCount, List.map_append, List.sum_append, headCount, headCount]

theorem headCount_finish (cells : List Cell) (blanks : Nat) :
    headCount (Reading.finish ⟨cells, blanks⟩) = headCount cells := by
  rw [headCount, map_finish fun _ _ => rfl, List.map_reverse, List.sum_reverse, headCount]

theorem headCount_addGap_le (cells : List Cell) (whole : ∀ line ∈ gap, '\n' ∉ line) :
    headCount (addGap cells gap).cells ≤ headCount cells + heads gap := by
  rcases gap_cases gap with ⟨count, rfl⟩ | ⟨before, middle, after, framed, rfl⟩
  · rw [addGap_replicate]
    exact Nat.le_add_right _ _
  · rw [addGap_framed _ framed]
    simp only [Reading.addBlock]
    split_ifs
    · exact Nat.le_add_right _ _
    · have inside : ∀ line ∈ middle, '\n' ∉ line := fun line member =>
        whole line (List.mem_append_left _ (List.mem_append_right _ member))
      obtain ⟨first, rest, split, _⟩ := framed.first
      have content : (Reading.proseCell before middle).content.pieces = middle :=
        pieces_ofPieces inside (by rw [split]; exact List.cons_ne_nil _ _)
      have prose : cellHeads (Reading.proseCell before middle) = heads middle := by
        rw [cellHeads, content]
        rfl
      rw [headCount_cons, prose, heads_append, heads_append, heads_replicate, heads_replicate]
      omega

theorem heads_pieces_ofPieces (unclosed : Unclosed body) (whole : ∀ line ∈ body, '\n' ∉ line) :
    heads (ofPieces body).pieces = 0 :=
  heads_of_unclosed (unclosed_pieces_ofPieces unclosed whole)

/-- A fence is one cell more, or one output. -/
theorem headCount_addFence_le (cells : List Cell) (opener : Fence.Opener)
    (gap_whole : ∀ line ∈ gap, '\n' ∉ line) (unclosed : Unclosed body)
    (whole : ∀ line ∈ body, '\n' ∉ line) :
    headCount (addFence cells gap opener body) ≤ headCount cells + heads gap + 1 := by
  cases folds : isOutputFence opener && (awaits cells && gap.all Text.isBlank) with
  | true =>
    simp only [Bool.and_eq_true] at folds
    obtain ⟨output, awaiting, blank⟩ := folds
    obtain ⟨previous, earlier, rfl, accepts, added⟩ := addFence_output output awaiting blank body
    have none : previous.output = none := by
      simp only [Reading.acceptsOutput, Bool.and_eq_true, Option.isNone_iff_eq_none] at accepts
      exact accepts.2
    have more : cellHeads (withOutput previous opener.indent body) = cellHeads previous + 1 := by
      rw [cellHeads, cellHeads, none]
      rfl
    rw [added, headCount_cons, headCount_cons, more]
    omega
  | false =>
    have before := @headCount_addGap_le gap cells gap_whole
    have code : cellHeads (Reading.codeCell (addGap cells gap).blanks opener body) = 1 := by
      have content := heads_pieces_ofPieces unclosed whole
      rw [cellHeads]
      change heads (ofPieces body).pieces + 1 + 0 = 1
      rw [content]
    rw [addFence_cell folds, headCount_cons, code]
    omega

/-- Reading takes a line for each fence. -/
theorem headCount_read_le (outline : Outline) (scanned : outline.Scanned)
    (whole : ∀ line ∈ outline.lines, '\n' ∉ line) (cells : List Cell) :
    headCount (outline.read cells) ≤ headCount cells + heads outline.lines := by
  induction outline generalizing cells with
  | outside gap =>
    rw [Outline.read, headCount_finish]
    exact headCount_addGap_le cells whole
  | unclosed gap opener body =>
    obtain ⟨_, valid, unclosed⟩ := scanned
    obtain ⟨gap_whole, _, body_whole⟩ := Outline.forall_lines_unclosed.mp whole
    have added := headCount_addFence_le cells opener gap_whole unclosed body_whole
    rw [Outline.read, headCount_finish, Outline.lines, heads_append, heads_cons, heads_render valid]
    omega
  | fenced gap opener body closer rest ih =>
    obtain ⟨_, valid, unclosed, _, scanned⟩ := scanned
    obtain ⟨gap_whole, _, body_whole, _, rest_whole⟩ := Outline.forall_lines_fenced.mp whole
    have added := headCount_addFence_le cells opener gap_whole unclosed body_whole
    have further := ih scanned rest_whole (addFence cells gap opener body)
    rw [Outline.read, Outline.lines, heads_append, heads_cons, heads_render valid, heads_append,
      @heads_cons rest.lines closer]
    omega

end Reading

/-- What is read from a text has no more fences than the text has lines for them. -/
theorem headCount_parse_le (text : Text) : headCount (parse text) ≤ heads text.pieces := by
  by_cases broken : '\n' ∈ text
  · rw [parse_eq_read (two_le_length_pieces.mpr broken)]
    have bound := headCount_read_le _ (scanned_outline ((readerLines text).dropWhile List.isEmpty))
      (by rw [lines_outline]; exact fun line member => newline_not_mem_readerLines member) []
    have shorter := (List.dropWhile_sublist List.isEmpty (l := readerLines text)).countP_le
      (p := isHead)
    have empty : headCount [] = 0 := rfl
    rw [lines_outline, empty, Nat.zero_add] at bound
    exact (bound.trans shorter).trans_eq (heads_map_dropReturn text.pieces)
  · rw [parse_of_not_mem broken]
    exact Nat.zero_le _

/-! ## Writing -/

section Writing

variable {cell : Cell}

theorem heads_outputFence_le (valid : cell.outputIndent ∈ Fence.indents) (quiet : Quiet cell) :
    heads (outputFence cell) ≤ if cell.output.isSome then 1 else 0 := by
  cases kept : keptOutput cell with
  | none =>
    rw [outputFence_of_none kept]
    exact Nat.zero_le _
  | some output =>
    obtain ⟨stored, filled⟩ := Option.filter_eq_some_iff.mp kept
    have opener := @heads_singleton_le (⟨cell.outputIndent, Fence.outputTag⟩ : Fence.Opener).render
    have blank : heads [[]] = 0 := heads_replicate 1
    have fence : heads (fenceLines ⟨cell.outputIndent, Fence.outputTag⟩ (outputLines output)) ≤ 1 := by
      rw [fenceLines, heads_cons, heads_append, heads_of_unclosed (quiet output kept),
        heads_closing valid]
      exact opener
    rw [outputFence, stored]
    dsimp only [Option.isSome_some]
    rw [if_neg (by simpa using filled), heads_cons, blank, Nat.zero_add]
    exact fence

/-- A code cell is written with a line for each of its fences at most, and with one less if its
info text is empty. -/
theorem heads_cellLines_code_le (kind : cell.kind = .code) (indent : cell.indent ∈ Fence.indents)
    (outputIndent : cell.outputIndent ∈ Fence.indents) (info : '\n' ∉ writtenInfo cell)
    (unclosed : Unclosed cell.content.pieces) (quiet : Quiet cell) :
    heads (cellLines cell) + (if writtenInfo cell = [] then 1 else 0) ≤ cellHeads cell := by
  have output := heads_outputFence_le outputIndent quiet
  have opener : heads [(⟨cell.indent, writtenInfo cell⟩ : Fence.Opener).render] +
      (if writtenInfo cell = [] then 1 else 0) ≤ 1 := by
    split_ifs with empty
    · have bare : (⟨cell.indent, writtenInfo cell⟩ : Fence.Opener).render =
          Fence.closing cell.indent := by
        rw [Fence.Opener.render, empty, List.append_nil, Fence.closing]
      rw [bare, heads_closing indent]
    · exact heads_singleton_le
  rw [cellLines_code kind (newline_not_mem_indent indent) info (newline_not_mem_indent outputIndent),
    heads_append, fenceLines, heads_cons, heads_append, heads_closing indent,
    heads_of_unclosed (unclosed_bodyLines unclosed), cellHeads, Cell.isCode, kind]
  simp only [decide_true, if_true]
  omega

theorem heads_cellLines_le (sound : Sound cell) (quiet : Quiet cell) :
    heads (cellLines cell) ≤ cellHeads cell := by
  cases kind : cell.kind with
  | code =>
    have code := sound.code kind
    exact Nat.le_trans (Nat.le_add_right _ _) (heads_cellLines_code_le kind code.indent
      code.outputIndent code.whole code.unclosed quiet)
  | prose =>
    have trimmed := (heads_pieces_dropEndWhile_le (cell.content.dropWhile isLineBreak)).trans
      (heads_pieces_dropWhile_le cell.content)
    rw [cellLines_prose kind, trimBreaks, cellHeads]
    omega

end Writing

/-- What is written for cells that are sound and quiet has a line for each fence at most. -/
theorem heads_documentLines_le {cells : List Cell} (sound : ∀ cell ∈ cells, Sound cell)
    (quiet : ∀ cell ∈ cells, Quiet cell) : heads (documentLines cells) ≤ headCount cells := by
  induction cells with
  | nil => exact Nat.le_refl _
  | cons cell rest ih =>
    rw [List.forall_mem_cons] at sound quiet
    have first := heads_cellLines_le sound.1 quiet.1
    have others := ih sound.2 quiet.2
    rw [documentLines_cons, heads_append, heads_append, heads_replicate, headCount_cons]
    omega

end Notebook.Document
