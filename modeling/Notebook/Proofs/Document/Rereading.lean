import Mathlib.Data.List.Chain
import Notebook.Proofs.Document.Continuation
import Notebook.Proofs.Document.Info
import Notebook.Proofs.Document.RoundTrip

/-! # Reading what was written

Cells are sound when the writer puts down nothing that is read as something else: no line of prose
opens a fence, no line of a body closes one, and the info text says what the cell is. If in addition
no line ends with a carriage return and no block stands where it is taken for an output, the cells
are read from the written document as they were.
-/

namespace Notebook.Document

open Text

/-! ## Sound cells -/

/-- Prose that is read as one cell of prose. -/
structure SoundProse (cell : Cell) : Prop where
  framed : Framed cell.content.pieces
  unopened : Unopened cell.content.pieces
  visible : cell.content.isBlank = false
  language : cell.language = none
  directive : cell.directive = none

/-- Code that is read as one cell of code. -/
structure SoundCode (cell : Cell) : Prop where
  language : cell.language ≠ none
  indent : cell.indent ∈ Fence.indents
  outputIndent : cell.outputIndent ∈ Fence.indents
  describes : infoDescribes cell (writtenInfo cell) = true
  visible : (writtenInfo cell).isBlank = false
  whole : '\n' ∉ writtenInfo cell
  unclosed : Unclosed cell.content.pieces
  blank : cell.blankBody = true → cell.content = []
  output : cell.output ≠ none → cell.language ≠ some Fence.outputTag

/-- The cell is read as one cell. -/
structure Sound (cell : Cell) : Prop where
  prose : cell.kind = .prose → SoundProse cell
  code : cell.kind = .code → SoundCode cell

/-- Blank lines around a cell do not matter, and an output only by its indentation and by the
language. -/
theorem Sound.update {cell : Cell} (sound : Sound cell) (leading trailing : Text)
    {output : Option Text} {outputIndent : Text}
    (indent : cell.kind = .code → outputIndent ∈ Fence.indents)
    (language : cell.kind = .code → output ≠ none → cell.language ≠ some Fence.outputTag) :
    Sound { cell with
      leading := leading, trailing := trailing, output := output, outputIndent := outputIndent } where
  prose kind :=
    have prose := sound.prose kind
    ⟨prose.framed, prose.unopened, prose.visible, prose.language, prose.directive⟩
  code kind :=
    have code := sound.code kind
    ⟨code.language, code.indent, indent kind, code.describes, code.visible, code.whole,
      code.unclosed, code.blank, language kind⟩

/-- No line of the content ends with a carriage return, and prose does not start with one. -/
structure Plain (cell : Cell) : Prop where
  ends : EndsPlain cell.content.pieces
  starts : cell.kind = .prose → cell.content.head? ≠ some '\r'

theorem plain_iff {cell : Cell} :
    Plain cell ↔
      EndsPlain cell.content.pieces ∧ (cell.kind = .prose → cell.content.head? ≠ some '\r') :=
  ⟨fun plain => ⟨plain.ends, plain.starts⟩, fun plain => ⟨plain.1, plain.2⟩⟩

instance (cell : Cell) : Decidable (Plain cell) :=
  decidable_of_iff _ plain_iff.symm

theorem plain_congr {cell other : Cell} (kind : cell.kind = other.kind)
    (content : cell.content = other.content) : Plain cell ↔ Plain other := by
  rw [plain_iff, plain_iff, kind, content]

/-- The output that is written: an empty one is left out. -/
def keptOutput (cell : Cell) : Option Text := cell.output.filter (· ≠ [])

/-- No line of the output that is written closes a fence. -/
def Quiet (cell : Cell) : Prop :=
  ∀ output, keptOutput cell = some output → Unclosed (outputLines output)

/-- A `text` block right behind the cell is read as its output, once it is written. -/
def lacksOutput (cell : Cell) : Bool :=
  cell.isCode && cell.language ≠ some Fence.outputTag && (keptOutput cell).isNone

theorem code_of_lacksOutput {cell : Cell} (lacks : lacksOutput cell = true) :
    cell.kind = .code := by
  simp only [lacksOutput, Cell.isCode, Bool.and_eq_true, decide_eq_true_eq] at lacks
  exact lacks.1.1

theorem code_of_not_prose {cell : Cell} (other : cell.kind ≠ .prose) : cell.kind = .code := by
  cases kind : cell.kind with
  | prose => exact absurd kind other
  | code => rfl

/-- The next cell is not read as a part of the cell. -/
structure Separate (cell next : Cell) : Prop where
  prose : cell.kind = .prose → next.kind ≠ .prose
  output : lacksOutput cell = true → next.language ≠ some Fence.outputTag

/-! ## Cells as they are read again -/

/-- The opener that is read for a written cell. -/
def readOpener (cell : Cell) : Fence.Opener := ⟨cell.indent, dropReturn (writtenInfo cell)⟩

/-- The cell that is read before its output. -/
def readCode (cell : Cell) : Cell :=
  Reading.codeCell cell.leading.length (readOpener cell) ((bodyLines cell).map dropReturn)

/-- The cell as it is read after it was written. -/
def reread (cell : Cell) : Cell :=
  match cell.kind with
  | .prose => Reading.proseCell cell.leading.length cell.content.pieces
  | .code =>
    match keptOutput cell with
    | some output =>
      withOutput (readCode cell) cell.outputIndent ((outputLines output).map dropReturn)
    | none => readCode cell

theorem valid_readOpener {cell : Cell} (sound : SoundCode cell) : (readOpener cell).Valid :=
  @Fence.Opener.Valid.dropReturn ⟨cell.indent, writtenInfo cell⟩ ⟨sound.indent, sound.visible⟩

theorem unclosed_bodyLines {cell : Cell} (unclosed : Unclosed cell.content.pieces) :
    Unclosed (bodyLines cell) := by
  rw [bodyLines]
  split_ifs
  · exact fun _ member => absurd member List.not_mem_nil
  · exact unclosed

theorem endsPlain_bodyLines {cell : Cell} (plain : Plain cell) : EndsPlain (bodyLines cell) := by
  rw [bodyLines]
  split_ifs
  · exact fun _ member => absurd member List.not_mem_nil
  · exact plain.ends

theorem dropReturn_closing {indent : Text} (valid : indent ∈ Fence.indents) :
    dropReturn (Fence.closing indent) = Fence.closing indent := by
  revert indent
  decide

/-- The lines of a fence as they are read. -/
theorem map_dropReturn_fenceLines {opener : Fence.Opener} (valid : opener.Valid)
    (body : List Text) :
    (fenceLines opener body).map dropReturn =
      fenceLines ⟨opener.indent, dropReturn opener.info⟩ (body.map dropReturn) := by
  rw [fenceLines, fenceLines, List.map_cons, List.map_append, Fence.Opener.render_dropReturn valid,
    List.map_singleton, dropReturn_closing valid.indent]

section Code

variable {cell : Cell}

theorem language_readCode (sound : SoundCode cell) : (readCode cell).language = cell.language := by
  obtain ⟨language, named⟩ := Option.ne_none_iff_exists'.mp sound.language
  have describes := (infoDescribes_iff.mp sound.describes).1
  rw [named, Option.getD_some] at describes
  change some (languageOfTag (Fence.splitInfo (dropReturn (writtenInfo cell))).1) = _
  rw [Fence.splitInfo_dropReturn, describes, named]

theorem directive_readCode (sound : SoundCode cell) :
    (readCode cell).directive = cell.directive := by
  change (Fence.splitInfo (dropReturn (writtenInfo cell))).2 = _
  rw [Fence.splitInfo_dropReturn, (infoDescribes_iff.mp sound.describes).2]

theorem isOutputFence_readOpener_iff (sound : SoundCode cell) :
    isOutputFence (readOpener cell) = true ↔ cell.language = some Fence.outputTag := by
  have language := language_readCode sound
  change some (languageOfTag (Fence.splitInfo (readOpener cell).info).1) = _ at language
  rw [← language, Option.some_inj, languageOfTag_eq_outputTag_iff, isOutputFence, decide_eq_true_eq]

end Code

/-! ## One cell -/

section Cells

variable {cells : List Cell} {cell : Cell}

/-- The lines of a code cell as they are read, up to its output. -/
theorem map_dropReturn_cellLines (code : cell.kind = .code) (sound : SoundCode cell) :
    (cellLines cell).map dropReturn =
      fenceLines (readOpener cell) ((bodyLines cell).map dropReturn) ++
        (outputFence cell).map dropReturn := by
  have valid : (⟨cell.indent, writtenInfo cell⟩ : Fence.Opener).Valid := ⟨sound.indent, sound.visible⟩
  rw [cellLines_code code (newline_not_mem_indent sound.indent) sound.whole
    (newline_not_mem_indent sound.outputIndent), List.map_append, map_dropReturn_fenceLines valid]
  rfl

/-- A code cell is read up to its output. -/
theorem readOn_code (code : cell.kind = .code) (sound : SoundCode cell)
    (apart : awaits cells = true → cell.language ≠ some Fence.outputTag) (lines : List Text) :
    readOn cells (List.replicate cell.leading.length [] ++
        ((cellLines cell).map dropReturn ++ lines)) =
      readOn (readCode cell :: cells) ((outputFence cell).map dropReturn ++ lines) := by
  have valid := valid_readOpener sound
  have unclosed := unclosed_map_dropReturn (unclosed_bodyLines sound.unclosed)
  have other : (isOutputFence (readOpener cell) &&
      (awaits cells && (List.replicate cell.leading.length []).all Text.isBlank)) = false := by
    rw [Bool.eq_false_iff]
    intro folds
    simp only [Bool.and_eq_true, isOutputFence_readOpener_iff sound] at folds
    exact apart folds.2.1 folds.1
  rw [map_dropReturn_cellLines code sound, List.append_assoc, fenceLines_append,
    readOn_fence (unopened_replicate _) valid unclosed (Fence.isCloser_closing valid.indent),
    addFence_cell other, addGap_replicate]
  rfl

/-- A cell that has an output to be written waits for it. -/
theorem awaits_readCode (sound : SoundCode cell)
    (other : cell.language ≠ some Fence.outputTag) : awaits (readCode cell :: cells) = true := by
  have language := language_readCode sound
  rw [awaits, Reading.acceptsOutput, language, decide_eq_true other]
  rfl

/-- The output of a cell is read up to the first line of it that closes a fence. -/
theorem readOn_output (sound : SoundCode cell) {output : Text}
    (kept : keptOutput cell = some output) {body after : List Text} {closer : Text}
    (split : outputLines output ++ [Fence.closing cell.outputIndent] = body ++ closer :: after)
    (unclosed : Unclosed body) (closes : Fence.isCloser closer = true) (lines : List Text) :
    readOn (readCode cell :: cells) ((outputFence cell).map dropReturn ++ lines) =
      readOn (withOutput (readCode cell) cell.outputIndent (body.map dropReturn) :: cells)
        (after.map dropReturn ++ lines) := by
  obtain ⟨stored, filled⟩ := Option.filter_eq_some_iff.mp kept
  have valid := valid_outputTag sound.outputIndent
  have tag : dropReturn Fence.outputTag = Fence.outputTag := by decide
  have opens : dropReturn (⟨cell.outputIndent, Fence.outputTag⟩ : Fence.Opener).render =
      (⟨cell.outputIndent, Fence.outputTag⟩ : Fence.Opener).render := by
    rw [Fence.Opener.render_dropReturn valid, tag]
  have fence : outputFence cell = [[]] ++
      (⟨cell.outputIndent, Fence.outputTag⟩ : Fence.Opener).render :: (body ++ closer :: after) := by
    rw [outputFence, stored, ← split]
    dsimp only
    rw [if_neg (by simpa using filled)]
    rfl
  have awaiting := @awaits_readCode cells cell sound (sound.output (by rw [stored]; simp))
  obtain ⟨previous, earlier, same, _, added⟩ := @addFence_output _ [[]]
    ⟨cell.outputIndent, Fence.outputTag⟩ (isOutputFence_outputTag _) awaiting (by decide)
    (body.map dropReturn)
  obtain ⟨rfl, rfl⟩ := List.cons.inj same
  have read : (outputFence cell).map dropReturn ++ lines = [[]] ++
      (⟨cell.outputIndent, Fence.outputTag⟩ : Fence.Opener).render ::
        (body.map dropReturn ++ dropReturn closer :: (after.map dropReturn ++ lines)) := by
    rw [fence]
    simp only [List.map_append, List.map_cons, List.append_assoc, List.cons_append, opens]
    rfl
  have step := @readOn_fence (readCode cell :: cells) [[]] (body.map dropReturn)
    ⟨cell.outputIndent, Fence.outputTag⟩ (unopened_replicate 1) valid
    (unclosed_map_dropReturn unclosed) (dropReturn closer)
    (by rw [Fence.isCloser_dropReturn, closes]) (after.map dropReturn ++ lines)
  rw [read, step, added]

theorem outputFence_of_none (none : keptOutput cell = none) : outputFence cell = [] := by
  rw [keptOutput, Option.filter_eq_none_iff] at none
  rw [outputFence]
  cases stored : cell.output with
  | none => rfl
  | some output =>
    have empty : output = [] := by simpa using none output stored
    dsimp only
    rw [if_pos empty]

theorem reread_prose (prose : cell.kind = .prose) :
    reread cell = Reading.proseCell cell.leading.length cell.content.pieces := by
  rw [reread, prose]

theorem reread_code_none (code : cell.kind = .code) (none : keptOutput cell = none) :
    reread cell = readCode cell := by
  rw [reread, code]
  dsimp only
  rw [none]

theorem reread_code_some (code : cell.kind = .code) {output : Text}
    (kept : keptOutput cell = some output) :
    reread cell =
      withOutput (readCode cell) cell.outputIndent ((outputLines output).map dropReturn) := by
  rw [reread, code]
  dsimp only
  rw [kept]

/-- A code cell is read with the output that is kept. -/
theorem readOn_reread (code : cell.kind = .code) (sound : SoundCode cell) (quiet : Quiet cell)
    (apart : awaits cells = true → cell.language ≠ some Fence.outputTag) (lines : List Text) :
    readOn cells (List.replicate cell.leading.length [] ++
        ((cellLines cell).map dropReturn ++ lines)) = readOn (reread cell :: cells) lines := by
  rw [readOn_code code sound apart]
  cases kept : keptOutput cell with
  | none =>
    rw [outputFence_of_none kept, reread_code_none code kept]
    rfl
  | some output =>
    rw [reread_code_some code kept, readOn_output sound kept rfl (quiet output kept)
      (Fence.isCloser_closing sound.outputIndent)]
    rfl

/-- After a code cell an output is awaited when it has none that is kept. -/
theorem awaits_reread (code : cell.kind = .code) (sound : SoundCode cell) :
    awaits (reread cell :: cells) = lacksOutput cell := by
  rw [lacksOutput, Cell.isCode, code]
  cases kept : keptOutput cell with
  | none =>
    rw [reread_code_none code kept, awaits, Reading.acceptsOutput, language_readCode sound]
    simp [readCode, Reading.codeCell, Cell.code, Cell.prose, Cell.isCode]
  | some output =>
    rw [reread_code_some code kept]
    simp [awaits, Reading.acceptsOutput, withOutput]

/-- Prose that is plain is written line by line. -/
theorem cellLines_of_plain (prose : cell.kind = .prose) (sound : SoundProse cell)
    (plain : Plain cell) : cellLines cell = cell.content.pieces := by
  obtain ⟨first, rest, split, visible⟩ := sound.framed.first
  have whole : ∀ line ∈ first :: rest, '\n' ∉ line := by
    rw [← split]
    exact fun line member => newline_not_mem_of_mem_pieces member
  have framed := sound.framed
  have ends := plain.ends
  rw [split] at framed ends
  have content : cell.content = ofPieces (first :: rest) := by rw [← split, ofPieces_pieces]
  have head : cell.content.head? = first.head? := by
    obtain ⟨after, joined⟩ := ofPieces_cons_append first rest
    have start := joined []
    rw [List.nil_append, List.nil_append] at start
    rw [content, start, List.head?_append_of_ne_nil _ visible]
  have starts := plain.starts prose
  rw [head] at starts
  rw [cellLines_prose prose, content, pieces_trimBreaks framed whole ends,
    (dropWhile_isLineBreak_eq_self_iff (whole first (List.mem_cons_self ..))).mpr starts,
    ← content, split]

end Cells

/-! ## All cells -/

theorem map_dropReturn_documentLines (cell : Cell) (cells : List Cell) :
    (documentLines (cell :: cells)).map dropReturn =
      List.replicate cell.leading.length [] ++
        ((cellLines cell).map dropReturn ++ (documentLines cells).map dropReturn) := by
  have empty : dropReturn [] = [] := rfl
  rw [documentLines_cons, List.map_append, List.map_append, List.map_replicate, empty,
    List.append_assoc]

/-- What is written behind prose starts with empty lines and a fence. -/
theorem documentLines_opening {cells : List Cell} (sound : ∀ cell ∈ cells, Sound cell)
    (code : ∀ cell ∈ cells.head?, cell.kind ≠ .prose) (count : Nat) :
    ∃ after lines, (documentLines cells).map dropReturn ++ List.replicate count [] =
      List.replicate after [] ++ lines ∧ Opening lines := by
  cases cells with
  | nil => exact ⟨count, [], by simp [documentLines], opening_nil⟩
  | cons cell rest =>
    have kind := code_of_not_prose (code cell rfl)
    have sound := (sound cell (List.mem_cons_self ..)).code kind
    refine ⟨cell.leading.length, (cellLines cell).map dropReturn ++
      ((documentLines rest).map dropReturn ++ List.replicate count []), ?_, ?_⟩
    · rw [map_dropReturn_documentLines, List.append_assoc, List.append_assoc]
    · rw [map_dropReturn_cellLines kind sound]
      exact opening_render (valid_readOpener sound) _

/-- Sound cells that are apart are read one by one. -/
theorem readOn_documentLines {cells : List Cell} (sound : ∀ cell ∈ cells, Sound cell)
    (plain : ∀ cell ∈ cells, Plain cell) (quiet : ∀ cell ∈ cells, Quiet cell)
    (separate : cells.IsChain Separate) {done : List Cell}
    (apart : awaits done = true → ∀ cell ∈ cells.head?, cell.language ≠ some Fence.outputTag)
    (count : Nat) :
    readOn done ((documentLines cells).map dropReturn ++ List.replicate count []) =
      Reading.finish ⟨(cells.map reread).reverse ++ done, count⟩ := by
  induction cells generalizing done with
  | nil => exact readOn_replicate count
  | cons cell rest ih =>
    rw [List.isChain_cons] at separate
    obtain ⟨next, separate⟩ := separate
    have ih := @ih (fun other member => sound other (List.mem_cons_of_mem _ member))
      (fun other member => plain other (List.mem_cons_of_mem _ member))
      (fun other member => quiet other (List.mem_cons_of_mem _ member)) separate
      (reread cell :: done)
    have cell_plain := plain cell (List.mem_cons_self ..)
    rw [map_dropReturn_documentLines, List.append_assoc, List.append_assoc, List.map_cons,
      List.reverse_cons, List.append_assoc, List.singleton_append]
    cases kind : cell.kind with
    | code =>
      have cell_sound := (sound cell (List.mem_cons_self ..)).code kind
      rw [readOn_reread kind cell_sound (quiet cell (List.mem_cons_self ..))
        (fun awaiting => apart awaiting cell rfl)]
      apply ih
      rw [awaits_reread kind cell_sound]
      exact fun lacks other member => (next other member).output lacks
    | prose =>
      have cell_sound := (sound cell (List.mem_cons_self ..)).prose kind
      obtain ⟨after, lines, split, opening⟩ := documentLines_opening
        (fun other member => sound other (List.mem_cons_of_mem _ member))
        (fun other member => (next other member).prose kind) count
      have visible := cell_sound.visible
      rw [← ofPieces_pieces cell.content, isBlank_prose] at visible
      rw [cellLines_of_plain kind cell_sound cell_plain, map_dropReturn_of_endsPlain cell_plain.ends,
        split, readOn_prose cell_sound.framed cell_sound.unopened visible opening, ← split,
        ← reread_prose kind]
      apply ih
      rw [reread_prose kind]
      exact fun awaiting => by cases awaiting

/-! ## Documents -/

/-- The cells without the empty lines in front of the first one, which are not written. -/
def unspaced : List Cell → List Cell
  | first :: rest => { first with leading := [] } :: rest
  | [] => []

theorem forall_unspaced_iff {p : Cell → Prop} (same : ∀ cell, p { cell with leading := [] } ↔ p cell)
    {cells : List Cell} : (∀ cell ∈ unspaced cells, p cell) ↔ ∀ cell ∈ cells, p cell := by
  cases cells with
  | nil => rfl
  | cons first rest => rw [unspaced, List.forall_mem_cons, List.forall_mem_cons, same]

theorem isChain_unspaced_iff {r : Cell → Cell → Prop}
    (same : ∀ cell next, r { cell with leading := [] } next ↔ r cell next) {cells : List Cell} :
    (unspaced cells).IsChain r ↔ cells.IsChain r := by
  cases cells with
  | nil => rfl
  | cons first rest =>
    rw [unspaced, List.isChain_cons, List.isChain_cons]
    simp only [same]

theorem plain_unspaced_iff (cell : Cell) : Plain { cell with leading := [] } ↔ Plain cell :=
  plain_congr rfl rfl

theorem sound_unspaced_iff (cell : Cell) : Sound { cell with leading := [] } ↔ Sound cell :=
  ⟨fun sound => sound.update cell.leading cell.trailing (fun kind => (sound.code kind).outputIndent)
      (fun kind => (sound.code kind).output),
    fun sound => sound.update [] cell.trailing (fun kind => (sound.code kind).outputIndent)
      (fun kind => (sound.code kind).output)⟩

theorem separate_unspaced_iff (cell next : Cell) :
    Separate { cell with leading := [] } next ↔ Separate cell next :=
  ⟨fun separate => ⟨separate.prose, separate.output⟩,
    fun separate => ⟨separate.prose, separate.output⟩⟩

/-- The first line of a cell is read as a line that is not empty. -/
theorem head_map_dropReturn_cellLines {cell : Cell} (sound : Sound cell) :
    ∃ line rest, (cellLines cell).map dropReturn = line :: rest ∧ line ≠ [] := by
  cases kind : cell.kind with
  | code =>
    have valid := valid_readOpener (sound.code kind)
    rw [map_dropReturn_cellLines kind (sound.code kind)]
    exact ⟨_, _, rfl, render_ne_nil _⟩
  | prose =>
    obtain ⟨c, text, start, stops⟩ := trimBreaks_head (sound.prose kind).visible
    have other : c ≠ '\n' ∧ c ≠ '\r' := by simpa [isLineBreak] using stops
    obtain ⟨line, rest, _, split⟩ := pieces_cons other.1 text
    rw [cellLines_prose kind, start, split]
    refine ⟨_, _, rfl, fun empty => ?_⟩
    rcases dropReturn_cases (c :: line) with same | same
    · rw [same] at empty
      cases empty
    · rw [empty] at same
      exact other.2 (List.cons.inj same).1

section Documents

variable {cells : List Cell} {count : Nat}

theorem serialize_ne_nil {first : Cell} {rest : List Cell} (sound : Sound first)
    (spaced : ∀ cell ∈ rest, Spaced cell)
    (trailing : (first :: rest).getLast?.map (·.trailing) = some (List.replicate count '\n')) :
    serialize (first :: rest) ≠ [] := by
  intro empty
  have lines := pieces_serialize spaced trailing
  obtain ⟨line, others, read, visible⟩ := head_map_dropReturn_cellLines sound
  obtain ⟨written, others', split⟩ := List.exists_cons_of_ne_nil (pieces_ne_nil (cellText first))
  rw [cellLines, split] at read lines
  rw [empty, pieces_nil, List.cons_append, List.cons_append] at lines
  rw [List.map_cons, ← (List.cons.inj lines).1] at read
  exact visible (List.cons.inj read).1.symm

/-- Reading a written document. -/
theorem parse_serialize_eq_readOn (sound : ∀ cell ∈ cells, Sound cell)
    (spaced : ∀ cell ∈ cells, Spaced cell)
    (trailing : cells.getLast?.map (·.trailing) = some (List.replicate count '\n'))
    (broken : '\n' ∈ serialize cells) :
    parse (serialize cells) =
      readOn [] ((documentLines (unspaced cells)).map dropReturn ++ List.replicate count []) := by
  cases cells with
  | nil => cases trailing
  | cons first rest =>
    have lines : readerLines (serialize (first :: rest)) =
        (documentLines (unspaced (first :: rest))).map dropReturn ++ List.replicate count [] := by
      have empty : dropReturn [] = [] := rfl
      have head : cellLines { first with leading := [] } = cellLines first := rfl
      rw [readerLines, pieces_serialize (fun cell member => spaced cell (List.mem_cons_of_mem _ member))
        trailing, unspaced, map_dropReturn_documentLines, head, List.map_append, List.map_append,
        List.map_replicate, empty]
      rfl
    rw [parse_eq_readOn (two_le_length_pieces.mpr broken), lines, dropWhile_isEmpty_of_head]
    obtain ⟨line, others, split, visible⟩ := head_map_dropReturn_cellLines
      ((sound_unspaced_iff first).mpr (sound first (List.mem_cons_self ..)))
    rw [unspaced, map_dropReturn_documentLines, split]
    rintro other ⟨⟩
    exact visible

/-- Sound cells that are apart come back from writing and reading. -/
theorem parse_serialize_eq (sound : ∀ cell ∈ cells, Sound cell) (plain : ∀ cell ∈ cells, Plain cell)
    (quiet : ∀ cell ∈ cells, Quiet cell) (separate : cells.IsChain Separate)
    (spaced : ∀ cell ∈ cells, Spaced cell)
    (trailing : cells.getLast?.map (·.trailing) = some (List.replicate count '\n'))
    (broken : '\n' ∈ serialize cells) :
    parse (serialize cells) = Reading.finish ⟨((unspaced cells).map reread).reverse, count⟩ := by
  rw [parse_serialize_eq_readOn sound spaced trailing broken,
    readOn_documentLines ((forall_unspaced_iff sound_unspaced_iff).mpr sound)
      ((forall_unspaced_iff plain_unspaced_iff).mpr plain)
      ((forall_unspaced_iff fun _ => Iff.rfl).mpr quiet)
      ((isChain_unspaced_iff separate_unspaced_iff).mpr separate) (fun awaiting => by cases awaiting),
    List.append_nil]

end Documents

end Notebook.Document
