import Notebook.Proofs.Document.FixedPoint

/-! # Writing a second time

What has been read and written once is read and written again, and the two results are compared.
Without carriage returns there are two ways in which they differ: the document is a single line, or
an empty output is left out in front of a `text` block that is then taken for an output and is not
written like one.
-/

namespace Notebook.Document

open Text

/-- If the output of the cell is left out, the next cell is not read differently for it: it has no
language `text`, or it is written as an output would be. -/
def Survives (cell next : Cell) : Prop :=
  cell.output = some [] → next.language = some Fence.outputTag →
    next.leading = ['\n'] ∧ next.info = some Fence.outputTag ∧ bodyLines next ≠ []

instance (cell next : Cell) : Decidable (Survives cell next) :=
  inferInstanceAs (Decidable (_ → _ → _))

/-- The last of the cells, which are given latest first, has an output that is left out. -/
def dropsOutput : List Cell → Bool
  | cell :: _ => cell.output = some []
  | [] => false

/-! ## Stretches outside fences -/

private theorem replicate_eq_singleton_iff {α : Type} {count : Nat} {a : α} :
    List.replicate count a = [a] ↔ count = 1 := by
  refine ⟨fun same => ?_, fun one => by rw [one]; rfl⟩
  have length := congrArg List.length same
  rwa [List.length_replicate] at length

/-- Without carriage returns, a stretch is written as it was or as empty lines. -/
theorem settledGap_of_not_mem {gap : List Text} (whole : ∀ line ∈ gap, '\n' ∉ line)
    (plain : ∀ line ∈ gap, '\r' ∉ line) :
    settledGap gap = gap ∧ isTidy gap = true ∨
      ∃ count, gap.all Text.isBlank = true ∧ settledGap gap = List.replicate count [] := by
  have ends : EndsPlain gap := fun line member last =>
    plain line member (List.mem_of_getLast? last)
  cases tidy : isTidy gap with
  | true =>
    exact .inl ⟨(settledGap_eq_self_iff whole ends).mpr ⟨tidy, startsPlain_of_not_mem plain⟩, rfl⟩
  | false =>
    rcases settledGap_cases whole ends with ⟨count, rfl, _⟩ | ⟨count, blank, _, settled⟩ |
      ⟨_, _, _, visible, _⟩
    · simp [isTidy] at tidy
    · exact .inr ⟨count, blank, settled⟩
    · rw [isTidy, visible, Bool.not_false, Bool.or_true] at tidy
      cases tidy

/-- The lines that are written for a stretch open no fence, are tidy, and are blank when the stretch
was. -/
theorem settledGap_spec {gap : List Text} (unopened : Unopened gap)
    (whole : ∀ line ∈ gap, '\n' ∉ line) (plain : ∀ line ∈ gap, '\r' ∉ line) :
    Unopened (settledGap gap) ∧ isTidy (settledGap gap) = true ∧
      (settledGap gap).all Text.isBlank = gap.all Text.isBlank := by
  rcases settledGap_of_not_mem whole plain with ⟨settled, tidy⟩ | ⟨count, blank, settled⟩
  · rw [settled]
    exact ⟨unopened, tidy, rfl⟩
  · rw [settled, blank, all_isBlank_replicate]
    refine ⟨unopened_replicate count, ?_, rfl⟩
    simp [isTidy]

/-- A blank stretch is written as the empty lines that the next cell keeps. -/
theorem settledGap_of_isBlank {gap : List Text} (blank : gap.all Text.isBlank = true) :
    settledGap gap = List.replicate (addGap [] gap).blanks [] := by
  rw [settledGap, (addGap_cells_nil_iff gap).mpr blank]
  rfl

theorem outline_fenceLines {gap body : List Text} {opener : Fence.Opener} (unopened : Unopened gap)
    (valid : opener.Valid) (unclosed : Unclosed body) (rest : List Text) :
    outline (gap ++ (fenceLines opener body ++ rest)) =
      .fenced gap opener body (Fence.closing opener.indent) (outline rest) := by
  rw [outline, Outline.scan_outside_append unopened, List.nil_append, fenceLines_append,
    Outline.scan_fence valid unclosed (Fence.isCloser_closing valid.indent)]

/-! ## Cells -/

/-- The cells, latest first, survive the loss of the outputs that are left out. -/
abbrev Surviving (cells : List Cell) : Prop := cells.IsChain fun next cell => Survives cell next

theorem surviving_addGap (cells : List Cell) (gap : List Text) :
    Surviving (addGap cells gap).cells ↔ Surviving cells := by
  rcases gap_cases gap with ⟨count, rfl⟩ | ⟨before, middle, after, framed, rfl⟩
  · rw [addGap_replicate]
  · rw [addGap_framed _ framed]
    simp only [Reading.addBlock]
    split_ifs
    · exact Iff.rfl
    · rw [Surviving, List.isChain_cons, and_iff_right]
      intro cell _ _ language
      cases language

/-- The output of the last cell does not matter as long as nothing follows. -/
theorem surviving_withOutput (cell : Cell) (earlier : List Cell) (indent : Text)
    (body : List Text) :
    Surviving (withOutput cell indent body :: earlier) ↔ Surviving (cell :: earlier) := by
  rw [Surviving, Surviving, List.isChain_cons, List.isChain_cons]
  exact Iff.rfl

theorem surviving_finish (reading : Reading) :
    (reading.finish).IsChain Survives ↔ Surviving reading.cells :=
  isChain_finish (fun _ _ _ => Iff.rfl) reading.cells reading.blanks

/-- A block that is no output of the cell before it is read as a cell again, with or without the
outputs in front of it, when it stays apart from them. -/
theorem surviving_codeCell {cells : List Cell} {gap body : List Text} {opener : Fence.Opener}
    (whole : ∀ line ∈ body, '\n' ∉ line)
    (other : (isOutputFence opener && (awaits cells && gap.all Text.isBlank)) = false)
    (same : (settledGap gap).all Text.isBlank = gap.all Text.isBlank) :
    Surviving (addFence cells gap opener body) ↔
      Surviving cells ∧
        isTidyOutput (awaits cells || dropsOutput cells) (settledGap gap) opener body = true := by
  rw [addFence_cell other, Surviving, List.isChain_cons, and_comm, ← Surviving, surviving_addGap]
  apply and_congr_right
  intro _
  rw [isTidyOutput, same]
  cases blank : gap.all Text.isBlank with
  | false =>
    rcases gap_cases gap with ⟨count, rfl⟩ | ⟨before, middle, after, framed, rfl⟩
    · rw [all_isBlank_replicate] at blank
      cases blank
    · rw [all_isBlank_framed, ← isBlank_prose] at blank
      rw [addGap_framed _ framed]
      simp [Reading.addBlock, blank, Survives, Reading.proseCell, Cell.prose]
  | true =>
    have language : (Reading.codeCell (addGap cells gap).blanks opener body).language =
        some Fence.outputTag ↔ isOutputFence opener = true := by
      change some (languageOfTag _) = _ ↔ _
      rw [Option.some_inj, languageOfTag_eq_outputTag_iff, isOutputFence, decide_eq_true_eq]
    have lines := @bodyLines_codeCell (addGap cells gap).blanks opener body whole
    rw [settledGap_of_isBlank blank]
    rw [addGap_eq, (addGap_cells_nil_iff gap).mpr blank] at language lines ⊢
    dsimp only [List.nil_append] at language lines ⊢
    rw [blank, Bool.and_true] at other
    cases cells with
    | nil => simp [awaits, dropsOutput]
    | cons cell earlier =>
      simp only [List.head?_cons, Option.mem_some_iff, forall_eq', Survives, language, lines]
      cases output : isOutputFence opener with
      | false => simp
      | true =>
        rw [output, Bool.true_and] at other
        have info : (Reading.codeCell (addGap [] gap).blanks opener body).info =
            some opener.info := rfl
        have leading : (Reading.codeCell (addGap [] gap).blanks opener body).leading =
            List.replicate (addGap [] gap).blanks '\n' := rfl
        rw [other, info, leading, replicate_eq_singleton_iff, Option.some_inj, dropsOutput]
        simp only [Bool.false_or, Bool.and_true, Bool.true_and, Bool.or_eq_true, Bool.and_eq_true,
          Bool.not_eq_true', decide_eq_false_iff_not, decide_eq_true_eq, replicate_eq_singleton_iff]
        tauto

theorem dropsOutput_addFence_cell {cells : List Cell} {gap : List Text} {opener : Fence.Opener}
    (other : (isOutputFence opener && (awaits cells && gap.all Text.isBlank)) = false)
    (body : List Text) : dropsOutput (addFence cells gap opener body) = false := by
  rw [addFence_cell other]
  rfl

theorem ofLines_eq_nil_iff {lines : List Text} : ofLines lines = [] ↔ lines = [] := by
  refine ⟨fun empty => ?_, fun empty => by rw [empty]; rfl⟩
  by_contra filled
  rw [ofLines_eq filled] at empty
  simp at empty

/-- One fence: what is written for it is canonical when the cell it becomes stays apart. -/
theorem isCanonical_settledFence_iff {cells : List Cell} {gap body : List Text}
    {opener : Fence.Opener} (unopened : Unopened gap) (valid : opener.Valid)
    (unclosed : Unclosed body) (gap_whole : ∀ line ∈ gap, '\n' ∉ line)
    (body_whole : ∀ line ∈ body, '\n' ∉ line) (plain : ∀ line ∈ gap, '\r' ∉ line)
    (rest : List Text) :
    Surviving cells ∧ (outline (settledFence (awaits cells) gap opener body ++ rest)).isCanonical
        (awaits cells || dropsOutput cells) = true ↔
      Surviving (addFence cells gap opener body) ∧
        (outline rest).isCanonical (awaits (addFence cells gap opener body) ||
          dropsOutput (addFence cells gap opener body)) = true := by
  rw [awaits_addFence]
  cases folds : isOutputFence opener && (awaits cells && gap.all Text.isBlank) with
  | false =>
    obtain ⟨unopened, tidy, same⟩ := settledGap_spec unopened gap_whole plain
    rw [surviving_codeCell body_whole folds same, dropsOutput_addFence_cell folds, settledFence,
      folds, if_neg Bool.false_ne_true, List.append_assoc,
      outline_fenceLines unopened valid unclosed, Outline.isCanonical, tidy, Bool.or_false]
    simp only [Bool.true_and, decide_true, Bool.and_eq_true, and_assoc]
  | true =>
    rw [settledFence, folds, if_pos rfl]
    simp only [Bool.and_eq_true] at folds
    obtain ⟨output, awaiting, blank⟩ := folds
    obtain ⟨previous, earlier, rfl, _, added⟩ := addFence_output output awaiting blank body
    have dropped : dropsOutput (withOutput previous opener.indent body :: earlier) =
        decide (body = []) := by
      simp only [dropsOutput, withOutput, Option.some_inj, ofLines_eq_nil_iff]
    rw [added, surviving_withOutput, dropped, awaiting, output, Bool.not_true, Bool.false_or,
      Bool.true_or]
    by_cases empty : body = []
    · rw [if_pos empty, List.nil_append, decide_eq_true empty]
    · have tag := valid_outputTag valid.indent
      have alone : Unopened [[]] := unopened_replicate 1
      have lines := outline_fenceLines alone tag unclosed rest
      have fence := isOutputFence_outputTag opener.indent
      have tidy : isTidy [[]] = true := by decide
      rw [List.singleton_append] at lines
      rw [if_neg empty, List.cons_append, lines, Outline.isCanonical, fence, tidy, isTidyOutput,
        decide_eq_false empty]
      simp [empty]

/-- What is written for an outline is canonical exactly when the cells that are read from it
survive. -/
theorem isCanonical_settle_iff (outline : Outline) (scanned : outline.Scanned)
    (whole : ∀ line ∈ outline.lines, '\n' ∉ line) (plain : ∀ line ∈ outline.lines, '\r' ∉ line)
    (cells : List Cell) :
    Surviving cells ∧ (Document.outline (outline.settle (awaits cells))).isCanonical
        (awaits cells || dropsOutput cells) = true ↔
      (outline.read cells).IsChain Survives := by
  induction outline generalizing cells with
  | outside gap =>
    obtain ⟨unopened, tidy, _⟩ := settledGap_spec scanned whole plain
    have lines := @Outline.scan_outside_append [] _ unopened []
    rw [List.append_nil, List.nil_append] at lines
    rw [Outline.read, surviving_finish, surviving_addGap, Outline.settle, Document.outline, lines,
      Outline.scan, Outline.isCanonical, tidy]
    exact and_iff_left rfl
  | unclosed gap opener body =>
    obtain ⟨unopened, valid, unclosed⟩ := scanned
    obtain ⟨gap_whole, _, body_whole⟩ := Outline.forall_lines_unclosed.mp whole
    obtain ⟨gap_plain, _⟩ := Outline.forall_lines_unclosed.mp plain
    have step := @isCanonical_settledFence_iff cells gap body opener unopened valid unclosed
      gap_whole body_whole gap_plain []
    rw [List.append_nil] at step
    rw [Outline.read, surviving_finish, Outline.settle, step]
    exact and_iff_left rfl
  | fenced gap opener body closer rest ih =>
    obtain ⟨unopened, valid, unclosed, _, scanned⟩ := scanned
    obtain ⟨gap_whole, _, body_whole, _, rest_whole⟩ := Outline.forall_lines_fenced.mp whole
    obtain ⟨gap_plain, _, _, _, rest_plain⟩ := Outline.forall_lines_fenced.mp plain
    have step := @isCanonical_settledFence_iff cells gap body opener unopened valid unclosed
      gap_whole body_whole gap_plain (rest.settle (!isOutputFence opener))
    have tail := ih scanned rest_whole rest_plain (addFence cells gap opener body)
    rw [← awaits_addFence cells gap opener body] at step
    rw [Outline.read, Outline.settle, ← awaits_addFence cells gap opener body, step, tail]

/-- What is written for a text without carriage returns has none. -/
theorem not_mem_serialize_parse {text : Text} (plain : '\r' ∉ text) :
    '\r' ∉ serialize (parse text) := by
  by_cases broken : '\n' ∈ text
  · have kept := countP_serialize_parse_le broken
    rw [readerLines_of_not_mem plain, ← countP_eq_tally (by decide),
      countP_isReturn_eq_zero_iff.mpr plain] at kept
    exact countP_isReturn_eq_zero_iff.mp (Nat.le_zero.mp kept)
  · rw [parse_of_not_mem broken]
    exact List.not_mem_nil

theorem canonical_serialize_parse_iff {text : Text} (broken : '\n' ∈ text) (plain : '\r' ∉ text) :
    Canonical (serialize (parse text)) ↔ (parse text).IsChain Survives := by
  have long := two_le_length_pieces.mpr broken
  have clean : ∀ line ∈ (readerLines text).dropWhile List.isEmpty, '\n' ∉ line ∧ '\r' ∉ line := by
    intro line member
    refine ⟨newline_not_mem_readerLines member, ?_⟩
    rw [readerLines_of_not_mem plain] at member
    exact not_mem_of_mem_pieces (by decide) plain ((List.dropWhile_sublist _).subset member)
  have cells := isCanonical_settle_iff _
    (scanned_outline ((readerLines text).dropWhile List.isEmpty))
    (by rw [lines_outline]; exact fun line member => (clean line member).1)
    (by rw [lines_outline]; exact fun line member => (clean line member).2) []
  rw [← parse_eq_read long, and_iff_right List.IsChain.nil] at cells
  rw [← cells, serialize_parse long, Canonical]
  have written : (outline ((writtenLines text).dropWhile List.isEmpty)).isCanonical false =
      (outline (writtenLines text)).isCanonical false := isCanonical_dropWhile _
  rcases eq_or_ne ((writtenLines text).dropWhile List.isEmpty) [] with empty | filled
  · rw [empty] at written ⊢
    exact iff_of_true (by decide) (written.symm.trans (by decide))
  · rw [pieces_ofPieces (fun line member =>
      newline_not_mem_writtenLines text line ((List.dropWhile_sublist _).subset member)) filled,
      written]
    exact Iff.rfl

/-- Writing a second time changes nothing exactly when the text that was written is empty or
settled; without carriage returns, when it is empty or has several lines and the cells survive the
loss of the outputs that are left out. -/
theorem serialize_parse_idempotent_iff (text : Text) :
    (serialize (parse (serialize (parse text))) = serialize (parse text) ↔
        serialize (parse text) = [] ∨ Settled (serialize (parse text))) ∧
      ('\r' ∉ text →
        (serialize (parse (serialize (parse text))) = serialize (parse text) ↔
          (serialize (parse text) = [] ∨ '\n' ∈ serialize (parse text)) ∧
            (parse text).IsChain Survives)) := by
  refine ⟨serialize_parse_eq_self_iff _, fun plain => ?_⟩
  rw [serialize_parse_eq_self_iff]
  by_cases broken : '\n' ∈ text
  swap
  · rw [parse_of_not_mem broken]
    simp [serialize]
  have clean := not_mem_serialize_parse plain
  have canonical := canonical_serialize_parse_iff broken plain
  by_cases empty : serialize (parse text) = []
  · have settled : Canonical [] := by decide
    rw [empty] at canonical ⊢
    exact iff_of_true (.inl rfl) ⟨.inl rfl, canonical.mp settled⟩
  constructor
  · rintro (none | settled)
    · exact absurd none empty
    · exact ⟨.inr settled.broken, canonical.mp settled.canonical⟩
  · rintro ⟨none | lines, cells⟩
    · exact absurd none empty
    · refine .inr ⟨lines, head?_serialize_parse text, ?_, ?_, canonical.mpr cells⟩
      · exact fun line member ends =>
          not_mem_of_mem_pieces (by decide) clean member (List.mem_of_getLast? ends)
      · apply Outline.startsPlain_of_not_mem
        rw [lines_outline]
        exact fun line member => not_mem_of_mem_pieces (by decide) clean member

/-- A document of one line is written once and then lost. -/
theorem serialize_parse_single_line :
    serialize (parse "\nabc") = "abc" ∧ serialize (parse (serialize (parse "\nabc"))) = [] := by
  have written : serialize (parse "\nabc") = "abc" := by
    rw [parse_eq_read (by decide)]
    decide
  rw [written, parse_of_not_mem (by decide)]
  exact ⟨rfl, rfl⟩

/-- Left out, an empty output makes the `text` block behind it the output of the same cell. -/
theorem serialize_parse_dropped_output :
    serialize (parse (serialize (parse
        "```py\nx\n```\n\n```text\n```\n\n\n```text\nb\n```\n"))) ≠
      serialize (parse "```py\nx\n```\n\n```text\n```\n\n\n```text\nb\n```\n") := by
  intro same
  have cells := (((serialize_parse_idempotent_iff _).2 (by decide)).mp same).2
  rw [parse_eq_read (by decide)] at cells
  exact absurd cells (by decide)

end Notebook.Document
