import Notebook.Proofs.Document.FixedPoint
import Notebook.Proofs.Document.Rereading

/-! # What is read from texts

Every cell of a document that was read comes from a stretch of prose or from a fence, perhaps with
another fence for its output. Each step of reading keeps this, together with what holds of
neighbours: prose does not follow prose, and a `text` block does not follow a cell that it would be
an output of.
-/

namespace Notebook.Document

open Text

/-- The cell was made from lines as a scan divides them. -/
inductive FromBlock : Cell → Prop where
  | prose {blanks : Nat} {lines : List Text} (framed : Framed lines) (unopened : Unopened lines)
    (whole : ∀ line ∈ lines, '\n' ∉ line) (visible : lines.all Text.isBlank = false) :
    FromBlock (Reading.proseCell blanks lines)
  | code {blanks : Nat} {opener : Fence.Opener} {body : List Text} (valid : opener.Valid)
    (info : '\n' ∉ opener.info) (unclosed : Unclosed body) (whole : ∀ line ∈ body, '\n' ∉ line) :
    FromBlock (Reading.codeCell blanks opener body)
  | output {cell : Cell} {indent : Text} {lines : List Text} (block : FromBlock cell)
    (accepts : Reading.acceptsOutput cell = true) (valid : indent ∈ Fence.indents)
    (unclosed : Unclosed lines) (whole : ∀ line ∈ lines, '\n' ∉ line) :
    FromBlock (withOutput cell indent lines)
  | trailing {cell : Cell} (block : FromBlock cell) (text : Text) :
    FromBlock { cell with trailing := text }

/-- The cells are not read as one: they are not both prose, and the second one is not the output of
the first one. -/
structure Apart (cell next : Cell) : Prop where
  prose : cell.kind = .prose → next.kind ≠ .prose
  output : Reading.acceptsOutput cell = true → next.language ≠ some Fence.outputTag

/-- What holds of the cells that have been read, latest first. -/
structure ReadCells (cells : List Cell) : Prop where
  blocks : ∀ cell ∈ cells, FromBlock cell
  apart : cells.IsChain fun next cell => Apart cell next

/-! ## Steps of reading -/

section Steps

variable {cells : List Cell} {gap body : List Text} {opener : Fence.Opener}

theorem readCells_nil : ReadCells [] := ⟨fun _ member => absurd member List.not_mem_nil, .nil⟩

/-- After a fence the stretch up to the next one is taken up. -/
theorem readCells_addGap (read : ReadCells cells) (code : ∀ cell ∈ cells.head?, cell.kind ≠ .prose)
    (unopened : Unopened gap) (whole : ∀ line ∈ gap, '\n' ∉ line) :
    ReadCells (addGap cells gap).cells := by
  rcases gap_cases gap with ⟨count, rfl⟩ | ⟨before, middle, after, framed, rfl⟩
  · rwa [addGap_replicate]
  · rw [addGap_framed _ framed]
    simp only [Reading.addBlock, isBlank_prose]
    split_ifs with blank
    · exact read
    · have inside : ∀ line ∈ middle,
          line ∈ List.replicate before [] ++ middle ++ List.replicate after [] :=
        fun line member => List.mem_append_left _ (List.mem_append_right _ member)
      refine ⟨?_, ?_⟩
      · rw [List.forall_mem_cons]
        exact ⟨.prose framed (fun line member => unopened line (inside line member))
          (fun line member => whole line (inside line member)) (Bool.eq_false_iff.mpr blank),
          read.blocks⟩
      · rw [List.isChain_cons]
        refine ⟨fun cell member => ⟨fun prose => absurd prose (code cell member), ?_⟩, read.apart⟩
        intro _ language
        cases language

/-- A fence is taken up behind what has been read. -/
theorem readCells_addFence (read : ReadCells cells)
    (code : ∀ cell ∈ cells.head?, cell.kind ≠ .prose) (unopened : Unopened gap)
    (gap_whole : ∀ line ∈ gap, '\n' ∉ line) (valid : opener.Valid) (info : '\n' ∉ opener.info)
    (unclosed : Unclosed body) (whole : ∀ line ∈ body, '\n' ∉ line) :
    ReadCells (addFence cells gap opener body) ∧
      ∀ cell ∈ (addFence cells gap opener body).head?, cell.kind ≠ .prose := by
  cases folds : isOutputFence opener && (awaits cells && gap.all Text.isBlank) with
  | true =>
    simp only [Bool.and_eq_true] at folds
    obtain ⟨output, awaiting, blank⟩ := folds
    obtain ⟨previous, earlier, rfl, accepts, added⟩ := addFence_output output awaiting blank body
    have blocks := List.forall_mem_cons.mp read.blocks
    have apart := List.isChain_cons.mp read.apart
    rw [added]
    refine ⟨⟨?_, ?_⟩, ?_⟩
    · rw [List.forall_mem_cons]
      exact ⟨.output blocks.1 accepts valid.indent unclosed whole, blocks.2⟩
    · rw [List.isChain_cons]
      exact ⟨fun cell member => ⟨(apart.1 cell member).prose, (apart.1 cell member).output⟩, apart.2⟩
    · rintro cell ⟨⟩
      exact code previous rfl
  | false =>
    have before := readCells_addGap read code unopened gap_whole
    rw [addFence_cell folds]
    refine ⟨⟨?_, ?_⟩, ?_⟩
    · rw [List.forall_mem_cons]
      exact ⟨.code valid info unclosed whole, before.blocks⟩
    · rw [List.isChain_cons]
      refine ⟨fun cell member => ⟨fun _ => nofun, fun accepts language => ?_⟩, before.apart⟩
      have awaiting : awaits (addGap cells gap).cells = true := by
        cases split : (addGap cells gap).cells with
        | nil => rw [split] at member; cases member
        | cons head earlier =>
          rw [split] at member
          cases member
          exact accepts
      have tag : isOutputFence opener = true := by
        rw [isOutputFence, decide_eq_true_eq, ← languageOfTag_eq_outputTag_iff]
        exact Option.some_inj.mp language
      rw [tag, ← awaits_addGap, awaiting] at folds
      cases folds
    · rintro cell ⟨⟩
      exact nofun

end Steps

/-- Reading keeps what holds of the cells. -/
theorem read_eq_finish (outline : Outline) (scanned : outline.Scanned)
    (whole : ∀ line ∈ outline.lines, '\n' ∉ line) {cells : List Cell} (read : ReadCells cells)
    (code : ∀ cell ∈ cells.head?, cell.kind ≠ .prose) :
    ∃ reading, outline.read cells = Reading.finish reading ∧ ReadCells reading.cells := by
  induction outline generalizing cells with
  | outside gap => exact ⟨_, rfl, readCells_addGap read code scanned whole⟩
  | unclosed gap opener body =>
    obtain ⟨unopened, valid, unclosed⟩ := scanned
    obtain ⟨gap_whole, opens, body_whole⟩ := Outline.forall_lines_unclosed.mp whole
    rw [Fence.Opener.render, List.mem_append, not_or] at opens
    exact ⟨_, rfl, (readCells_addFence read code unopened gap_whole valid opens.2 unclosed
      body_whole).1⟩
  | fenced gap opener body closer rest ih =>
    obtain ⟨unopened, valid, unclosed, _, scanned⟩ := scanned
    obtain ⟨gap_whole, opens, body_whole, _, rest_whole⟩ := Outline.forall_lines_fenced.mp whole
    rw [Fence.Opener.render, List.mem_append, not_or] at opens
    have step := readCells_addFence read code unopened gap_whole valid opens.2 unclosed body_whole
    exact ih scanned rest_whole step.1 step.2

theorem parse_eq_finish (text : Text) :
    ∃ reading, parse text = Reading.finish reading ∧ ReadCells reading.cells := by
  by_cases broken : '\n' ∈ text
  · rw [parse_eq_read (two_le_length_pieces.mpr broken)]
    refine read_eq_finish _ (scanned_outline _) ?_ readCells_nil nofun
    rw [lines_outline]
    exact fun line member => newline_not_mem_readerLines member
  · rw [parse_of_not_mem broken]
    exact ⟨⟨[], 0⟩, rfl, readCells_nil⟩

/-! ## Cells of a document -/

theorem fromBlock_parse {text : Text} {cell : Cell} (member : cell ∈ parse text) :
    FromBlock cell := by
  obtain ⟨⟨cells, blanks⟩, same, read⟩ := parse_eq_finish text
  rw [same] at member
  cases cells with
  | nil => cases member
  | cons last earlier =>
    have blocks := List.forall_mem_cons.mp read.blocks
    simp only [Reading.finish, List.mem_reverse, List.mem_cons] at member
    rcases member with rfl | member
    · exact blocks.1.trailing _
    · exact blocks.2 cell member

theorem apart_parse (text : Text) : (parse text).IsChain Apart := by
  obtain ⟨⟨cells, blanks⟩, same, read⟩ := parse_eq_finish text
  rw [same, isChain_finish]
  · exact read.apart
  · exact fun cell last text => ⟨fun apart => ⟨apart.prose, apart.output⟩,
      fun apart => ⟨apart.prose, apart.output⟩⟩

theorem trailing_parse {text : Text} (filled : parse text ≠ []) :
    ∃ count, (parse text).getLast?.map (·.trailing) = some (List.replicate count '\n') := by
  obtain ⟨⟨cells, blanks⟩, same, read⟩ := parse_eq_finish text
  rw [same] at filled ⊢
  cases cells with
  | nil => exact absurd rfl filled
  | cons last earlier =>
    refine ⟨blanks, ?_⟩
    simp [Reading.finish]

section Cells

variable {cell : Cell}

theorem FromBlock.spaced (block : FromBlock cell) : Spaced cell := by
  induction block with
  | prose => exact fun c member => List.eq_of_mem_replicate member
  | code => exact fun c member => List.eq_of_mem_replicate member
  | output _ _ _ _ _ ih => exact ih
  | trailing _ _ ih => exact ih

theorem unclosed_pieces_ofPieces {lines : List Text} (unclosed : Unclosed lines)
    (whole : ∀ line ∈ lines, '\n' ∉ line) : Unclosed (ofPieces lines).pieces := by
  rcases eq_or_ne lines [] with rfl | filled
  · rw [ofPieces_nil, pieces_nil]
    intro line member
    rw [List.mem_singleton.mp member]
    decide
  · rwa [pieces_ofPieces whole filled]

/-- What is read is sound. -/
theorem FromBlock.sound (block : FromBlock cell) : Sound cell := by
  induction block with
  | @prose blanks lines framed unopened whole visible =>
    have pieces : (Reading.proseCell blanks lines).content.pieces = lines := by
      obtain ⟨first, rest, rfl, _⟩ := framed.first
      exact pieces_ofPieces whole (List.cons_ne_nil _ _)
    refine ⟨fun _ => ⟨?_, ?_, ?_, rfl, rfl⟩, nofun⟩
    · rwa [pieces]
    · rwa [pieces]
    · exact (isBlank_prose lines).trans visible
  | @code blanks opener body valid info unclosed whole =>
    refine ⟨nofun, fun _ => ?_⟩
    exact {
      language := nofun
      indent := valid.indent
      outputIndent := show [] ∈ Fence.indents by decide
      describes := by
        rw [writtenInfo_codeCell, infoDescribes_iff]
        exact ⟨rfl, rfl⟩
      visible := by rw [writtenInfo_codeCell]; exact valid.visible
      whole := by rwa [writtenInfo_codeCell]
      unclosed := unclosed_pieces_ofPieces unclosed whole
      blank := fun blank => by
        have lines : body = [[]] := of_decide_eq_true blank
        rw [lines]
        rfl
      output := fun stored => absurd rfl stored }
  | @output cell indent lines _ accepts valid _ _ ih =>
    simp only [Reading.acceptsOutput, Bool.and_eq_true, decide_eq_true_eq] at accepts
    exact ih.update cell.leading cell.trailing (fun _ => valid) (fun _ _ => accepts.1.2)
  | @trailing cell _ text ih =>
    exact ih.update cell.leading text (fun kind => (ih.code kind).outputIndent)
      (fun kind => (ih.code kind).output)

theorem FromBlock.quiet (block : FromBlock cell) : Quiet cell := by
  induction block with
  | prose => exact fun _ kept => by cases kept
  | code => exact fun _ kept => by cases kept
  | @output cell indent lines _ _ _ unclosed whole =>
    intro output kept
    obtain ⟨stored, filled⟩ := Option.filter_eq_some_iff.mp kept
    obtain rfl : ofLines lines = output := Option.some_inj.mp stored
    have more : lines ≠ [] := fun empty => by
      rw [empty] at filled
      cases filled
    rwa [outputLines_ofLines whole more]
  | trailing _ _ ih => exact ih

end Cells

end Notebook.Document
