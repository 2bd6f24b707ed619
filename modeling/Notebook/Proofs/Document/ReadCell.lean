import Notebook.Proofs.Document.Image

/-! # Cells as they are read

What the rest of a program may count on in a document that was read, whatever the text was. Prose
has visible lines at both ends and none that opens a fence, and code has none that closes one, in
its content or in its output. Neighbours could not have been read as one cell, and empty lines
stand in front of a cell, or behind the last one.
-/

namespace Notebook.Document

open Text

/-- The cell is one that prose is read into. -/
structure ReadProse (cell : Cell) : Prop where
  visible : cell.content.isBlank = false
  starts : cell.content.pieces.head? ≠ some []
  finishes : cell.content.pieces.getLast? ≠ some []
  unopened : Unopened cell.content.pieces
  language : cell.language = none
  directive : cell.directive = none
  output : cell.output = none

/-- The cell is one that a fence is read into, perhaps with a second fence for its output. -/
structure ReadCode (cell : Cell) : Prop where
  described : ∃ info, cell.info = some info ∧
    cell.language = some (languageOfTag (Fence.splitInfo info).1) ∧
    cell.directive = (Fence.splitInfo info).2
  content : Unclosed cell.content.pieces
  output : ∀ output, cell.output = some output → Unclosed output.pieces
  result : cell.language = some Fence.outputTag → cell.output = none

/-- The two cells were not read as one. -/
structure ReadApart (cell next : Cell) : Prop where
  prose : ¬ (cell.kind = .prose ∧ next.kind = .prose)
  output : cell.kind = .code → next.kind = .code → next.language = some Fence.outputTag →
    cell.language ≠ some Fence.outputTag → cell.output ≠ none

/-! ## One cell -/

section Cells

variable {cell : Cell}

theorem Framed.head? {lines : List Text} (framed : Framed lines) : lines.head? ≠ some [] := by
  obtain ⟨line, rest, rfl, filled⟩ := framed.first
  exact fun empty => filled (Option.some_inj.mp empty)

theorem Framed.getLast? {lines : List Text} (framed : Framed lines) :
    lines.getLast? ≠ some [] := by
  obtain ⟨rest, line, rfl, filled⟩ := framed.last
  rw [List.getLast?_concat]
  exact fun empty => filled (Option.some_inj.mp empty)

theorem FromBlock.output_prose (block : FromBlock cell) (prose : cell.kind = .prose) :
    cell.output = none := by
  induction block with
  | prose => rfl
  | code => cases prose
  | @output cell _ _ _ accepts =>
    have kind : cell.kind = .prose := prose
    simp [Reading.acceptsOutput, Cell.isCode, kind] at accepts
  | trailing _ _ ih => exact ih prose

theorem FromBlock.readProse (block : FromBlock cell) (prose : cell.kind = .prose) :
    ReadProse cell :=
  have sound := block.sound.prose prose
  ⟨sound.visible, sound.framed.head?, sound.framed.getLast?, sound.unopened, sound.language,
    sound.directive, block.output_prose prose⟩

/-- An output is what stood in a fence, with every line ended. -/
theorem FromBlock.exists_lines (block : FromBlock cell) {output : Text}
    (stored : cell.output = some output) :
    ∃ lines, output = ofLines lines ∧ Unclosed lines ∧ ∀ line ∈ lines, '\n' ∉ line := by
  induction block with
  | prose => cases stored
  | code => cases stored
  | output _ _ _ unclosed whole => exact ⟨_, (Option.some_inj.mp stored).symm, unclosed, whole⟩
  | trailing _ _ ih => exact ih stored

theorem pieces_ofLines {lines : List Text} (whole : ∀ line ∈ lines, '\n' ∉ line) :
    (ofLines lines).pieces = lines ++ [[]] := by
  have split := pieces_ofLines_append whole []
  rwa [List.append_nil] at split

theorem FromBlock.unclosed_output (block : FromBlock cell) {output : Text}
    (stored : cell.output = some output) : Unclosed output.pieces := by
  obtain ⟨lines, rfl, unclosed, whole⟩ := block.exists_lines stored
  rw [pieces_ofLines whole]
  exact unclosed.append (unclosed_replicate 1)

theorem FromBlock.described (block : FromBlock cell) (code : cell.kind = .code) :
    ∃ info, cell.info = some info ∧
      cell.language = some (languageOfTag (Fence.splitInfo info).1) ∧
      cell.directive = (Fence.splitInfo info).2 := by
  induction block with
  | prose => cases code
  | code => exact ⟨_, rfl, rfl, rfl⟩
  | output _ _ _ _ _ ih => exact ih code
  | trailing _ _ ih => exact ih code

theorem FromBlock.readCode (block : FromBlock cell) (code : cell.kind = .code) : ReadCode cell where
  described := block.described code
  content := (block.sound.code code).unclosed
  output := fun _ => block.unclosed_output
  result := fun text => by_contra fun stored => (block.sound.code code).output stored text

theorem Apart.readApart {next : Cell} (apart : Apart cell next) : ReadApart cell next where
  prose := fun both => apart.prose both.1 both.2
  output := by
    intro code _ text other stored
    refine apart.output ?_ text
    rw [Reading.acceptsOutput, Cell.isCode, code, stored]
    simpa using other

end Cells

/-! ## Empty lines behind cells -/

/-- A block adds nothing behind a cell. -/
theorem trailing_add {reading : Reading} (trailing : ∀ cell ∈ reading.cells, cell.trailing = [])
    (placed : PlacedBlock) : ∀ cell ∈ (reading.add placed).cells, cell.trailing = [] := by
  obtain ⟨cells, blanks⟩ := reading
  obtain ⟨block, after⟩ := placed
  cases block with
  | prose lines =>
    simp only [Reading.add, Reading.addBlock]
    split
    · exact trailing
    · exact List.forall_mem_cons.mpr ⟨rfl, trailing⟩
  | fenced opener body =>
    cases cells with
    | nil => exact List.forall_mem_cons.mpr ⟨rfl, trailing⟩
    | cons previous earlier =>
      simp only [Reading.add, Reading.addBlock]
      split
      · exact List.forall_mem_cons.mpr (List.forall_mem_cons.mp trailing)
      · exact List.forall_mem_cons.mpr ⟨rfl, trailing⟩

theorem trailing_foldl_add (blocks : List PlacedBlock) {reading : Reading}
    (trailing : ∀ cell ∈ reading.cells, cell.trailing = []) :
    ∀ cell ∈ (blocks.foldl Reading.add reading).cells, cell.trailing = [] := by
  induction blocks generalizing reading with
  | nil => exact trailing
  | cons placed rest ih => exact ih (trailing_add trailing placed)

/-- The empty lines that are left over go to the last cell. -/
theorem trailing_finish {reading : Reading}
    (trailing : ∀ cell ∈ reading.cells, cell.trailing = []) :
    (∀ cell ∈ reading.finish.dropLast, cell.trailing = []) ∧
      ∀ cell ∈ reading.finish, ∀ c ∈ cell.trailing, c = '\n' := by
  obtain ⟨cells, blanks⟩ := reading
  cases cells with
  | nil => exact ⟨nofun, nofun⟩
  | cons last earlier =>
    obtain ⟨_, others⟩ := List.forall_mem_cons.mp trailing
    simp only [Reading.finish, List.reverse_cons, List.dropLast_concat, List.mem_append,
      List.mem_reverse, List.mem_singleton]
    refine ⟨others, ?_⟩
    rintro cell (member | rfl) c among
    · rw [others cell member] at among
      cases among
    · exact List.eq_of_mem_replicate among

theorem trailing_parse_dropLast (text : Text) :
    (∀ cell ∈ (parse text).dropLast, cell.trailing = []) ∧
      ∀ cell ∈ parse text, ∀ c ∈ cell.trailing, c = '\n' := by
  rw [parse]
  split
  · exact ⟨fun _ member => absurd member List.not_mem_nil,
      fun _ member => absurd member List.not_mem_nil⟩
  · apply trailing_finish
    apply trailing_foldl_add
    exact fun _ member => absurd member List.not_mem_nil

/-! ## Every text -/

/-- What holds of the cells of every text. -/
theorem parse_readCells (text : Text) :
    (∀ cell ∈ parse text,
      (cell.kind = .prose → ReadProse cell) ∧ (cell.kind = .code → ReadCode cell) ∧
      (∀ c ∈ cell.leading, c = '\n') ∧ ∀ c ∈ cell.trailing, c = '\n') ∧
    (parse text).IsChain ReadApart ∧
    ∀ cell ∈ (parse text).dropLast, cell.trailing = [] := by
  obtain ⟨inner, newlines⟩ := trailing_parse_dropLast text
  refine ⟨fun cell member => ?_, (apart_parse text).imp fun _ _ => Apart.readApart, inner⟩
  have block := fromBlock_parse member
  exact ⟨block.readProse, block.readCode, block.spaced, newlines cell member⟩

end Notebook.Document
