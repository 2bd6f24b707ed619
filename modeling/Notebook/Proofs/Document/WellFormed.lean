import Notebook.Proofs.Document.FixedPoint
import Notebook.Proofs.Document.Rereading

/-! # Reading undoes writing

Cells as an editor makes them are well-formed when each of them can be told from its lines and when
no two of them run together. Well-formed cells are read from the written document as they were,
with three differences: the empty lines in front of the document are gone, a code cell stores the
info text that was written, and the last line of an output is ended.
-/

attribute [ext] Notebook.Cell

namespace Notebook.Document

open Text

/-- The character occurs in no text of the cell. -/
structure Lacks (c : Char) (cell : Cell) : Prop where
  content : c ∉ cell.content
  language : ∀ language, cell.language = some language → c ∉ language
  directive : ∀ directive, cell.directive = some directive → c ∉ directive.render
  output : ∀ output, cell.output = some output → c ∉ output
  info : ∀ info, cell.info = some info → c ∉ info

/-- Prose that can be told from its lines. -/
structure WellFormedProse (cell : Cell) : Prop where
  bare : cell = { Cell.prose cell.content with leading := cell.leading, trailing := cell.trailing }
  visible : cell.content.isBlank = false
  starts : cell.content.head? ≠ some '\n'
  finishes : cell.content.getLast? ≠ some '\n'
  unopened : ∀ line ∈ cell.content.pieces, Fence.opener? line = none

/-- A language that can stand in an info text. -/
structure NamedLanguage (cell : Cell) (language : Text) : Prop where
  canonical : languageOfTag language = language
  trimmed : language.trim = language
  colon : ':' ∉ language
  newline : '\n' ∉ language
  filled : cell.directive = none → language ≠ []

/-- An output that can be told from its lines. -/
structure WellFormedOutput (cell : Cell) (output : Text) : Prop where
  filled : output ≠ []
  language : cell.language ≠ some Fence.outputTag
  unclosed : ∀ line ∈ output.pieces, Fence.isCloser line = false

/-- Code that can be told from its lines. -/
structure WellFormedCode (cell : Cell) : Prop where
  indent : cell.indent ∈ Fence.indents
  outputIndent : cell.outputIndent ∈ Fence.indents
  language : ∃ language, cell.language = some language ∧ NamedLanguage cell language
  directive : ∀ directive, cell.directive = some directive →
    '\n' ∉ directive.render ∧ ∃ raw, Directive.parse? raw = some directive
  info : ∀ info, cell.info = some info → '\n' ∉ info
  unclosed : ∀ line ∈ cell.content.pieces, Fence.isCloser line = false
  blankBody : cell.blankBody = true → cell.content = []
  output : ∀ output, cell.output = some output → WellFormedOutput cell output
  unindented : cell.output = none → cell.outputIndent = []

/-- Cells that are told apart when they are written one after the other. -/
structure WellFormed (cells : List Cell) : Prop where
  plain : ∀ cell ∈ cells, Lacks '\r' cell
  prose : ∀ cell ∈ cells, cell.kind = .prose → WellFormedProse cell
  code : ∀ cell ∈ cells, cell.kind = .code → WellFormedCode cell
  leading : ∀ cell ∈ cells, ∀ c ∈ cell.leading, c = '\n'
  trailing : ∀ cell ∈ cells, ∀ c ∈ cell.trailing, c = '\n'
  last : ∀ cell ∈ cells.dropLast, cell.trailing = []
  separate : cells.IsChain fun cell next => (cell.kind = .prose → next.kind ≠ .prose) ∧
    (Reading.acceptsOutput cell = true → next.language ≠ some Fence.outputTag)

/-- The cell as it comes back from writing and reading. -/
def restored (cell : Cell) : Cell :=
  match cell.kind with
  | .prose => cell
  | .code => { cell with info := some (writtenInfo cell), output := cell.output.map endLine }

/-! ## Info texts -/

/-- What an abbreviation or the mark of a directive does not have, the info text gets from the cell
only. -/
theorem not_mem_writtenInfo {c : Char} {cell : Cell} (table : ∀ entry ∈ languageTags, c ∉ entry.1)
    (mark : c ∉ (" :" : Text)) (language : ∀ language, cell.language = some language → c ∉ language)
    (directive : ∀ directive, cell.directive = some directive → c ∉ directive.render)
    (info : ∀ info, cell.info = some info → c ∉ info) : c ∉ writtenInfo cell := by
  have fresh : c ∉ freshInfo cell := by
    have tag : c ∉ tagOfLanguage (cell.language.getD []) := by
      refine tagOfLanguage_induction (p := fun tag => c ∉ tag) ?_ table
      cases named : cell.language with
      | none => exact List.not_mem_nil
      | some language' => exact language language' named
    rw [freshInfo, List.mem_append, not_or]
    refine ⟨tag, ?_⟩
    cases asked : cell.directive with
    | none => exact List.not_mem_nil
    | some directive' =>
      rw [List.mem_append, not_or]
      exact ⟨mark, directive directive' asked⟩
  rw [writtenInfo]
  cases stored : cell.info with
  | none => exact fresh
  | some info' =>
    dsimp only
    split_ifs
    · exact info info' stored
    · exact fresh

/-! ## Well-formed cells are sound -/

section Cells

variable {cell : Cell}

theorem WellFormedCode.sound (wellFormed : WellFormedCode cell) : SoundCode cell := by
  obtain ⟨language, named, usable⟩ := wellFormed.language
  have nameable : Nameable cell := ⟨⟨language, named, usable.canonical, usable.trimmed, usable.colon⟩,
    fun directive asked => (wellFormed.directive directive asked).2⟩
  have describes := infoDescribes_writtenInfo nameable
  refine {
    language := by rw [named]; exact Option.some_ne_none language
    indent := wellFormed.indent
    outputIndent := wellFormed.outputIndent
    describes := describes
    visible := isBlank_of_infoDescribes describes ?_
    whole := ?_
    unclosed := wellFormed.unclosed
    blank := wellFormed.blankBody
    output := ?_ }
  · rw [named, Option.getD_some]
    by_cases asked : cell.directive = none
    · exact .inl (usable.filled asked)
    · exact .inr asked
  · refine not_mem_writtenInfo (by decide) (by decide) ?_
      (fun directive asked => (wellFormed.directive directive asked).1) wellFormed.info
    rw [named]
    rintro other ⟨⟩
    exact usable.newline
  · intro stored
    obtain ⟨output, present⟩ := Option.ne_none_iff_exists'.mp stored
    exact (wellFormed.output output present).language

theorem WellFormedProse.sound (wellFormed : WellFormedProse cell) : SoundProse cell where
  framed :=
    have filled : cell.content ≠ [] := fun empty => by
      have visible := wellFormed.visible
      rw [empty] at visible
      cases visible
    ⟨pieces_head filled wellFormed.starts, pieces_last filled wellFormed.finishes⟩
  unopened := wellFormed.unopened
  visible := wellFormed.visible
  language := by rw [wellFormed.bare]; rfl
  directive := by rw [wellFormed.bare]; rfl

theorem plain_of_lacks (lacks : Lacks '\r' cell) : Plain cell where
  ends _ member ends :=
    not_mem_of_mem_pieces (by decide) lacks.content member (List.mem_of_getLast? ends)
  starts _ starts := lacks.content (List.mem_of_head? starts)

theorem outputLines_subset (output : Text) : outputLines output ⊆ output.pieces := by
  intro line member
  rw [outputLines, endLine] at member
  split_ifs at member
  · exact List.dropLast_subset _ member
  · rwa [pieces_append_newline, pieces_nil, List.dropLast_concat] at member

theorem keptOutput_eq (filled : ∀ output, cell.output = some output → output ≠ []) :
    keptOutput cell = cell.output := by
  rw [keptOutput]
  cases stored : cell.output with
  | none => rfl
  | some output => exact Option.filter_some_pos (decide_eq_true (filled output stored))

theorem WellFormedCode.keptOutput (wellFormed : WellFormedCode cell) :
    keptOutput cell = cell.output :=
  keptOutput_eq fun output stored => (wellFormed.output output stored).filled

theorem WellFormedCode.quiet (wellFormed : WellFormedCode cell) : Quiet cell := by
  intro output kept line member
  rw [wellFormed.keptOutput] at kept
  exact (wellFormed.output output kept).unclosed line (outputLines_subset output member)

/-! ## Well-formed cells come back -/

theorem bodyLines_eq_blank_iff (blank : cell.blankBody = true → cell.content = []) :
    bodyLines cell = [[]] ↔ cell.blankBody = true := by
  rw [bodyLines]
  split_ifs with empty
  · rw [Bool.not_eq_true'] at empty
    simp [empty.2]
  · have other : cell.content = [] → cell.blankBody = true := by simpa using empty
    refine ⟨fun lines => ?_, fun blank_body => by rw [blank blank_body]; rfl⟩
    have content := ofPieces_pieces cell.content
    rw [lines, ofPieces_singleton] at content
    exact other content.symm

/-- A code cell without an output comes back with the info text that was written. -/
theorem readCode_eq (wellFormed : WellFormedCode cell) (lacks : Lacks '\r' cell)
    (kind : cell.kind = .code) (spaced : Spaced cell) :
    readCode cell = { cell with
      info := some (writtenInfo cell), trailing := [], output := none, outputIndent := [] } := by
  have sound := wellFormed.sound
  have body := map_dropReturn_of_endsPlain (endsPlain_bodyLines (plain_of_lacks lacks))
  have info : dropReturn (writtenInfo cell) = writtenInfo cell := dropReturn_of_not_mem
    (not_mem_writtenInfo (by decide) (by decide) lacks.language lacks.directive lacks.info)
  ext1
  · exact kind.symm
  · exact language_readCode sound
  · exact directive_readCode sound
  · exact (congrArg ofPieces body).trans (ofPieces_bodyLines cell)
  · exact (List.eq_replicate_iff.mpr ⟨rfl, spaced⟩).symm
  · rfl
  · rfl
  · rfl
  · rfl
  · change decide (List.map dropReturn (bodyLines cell) = [[]]) = cell.blankBody
    rw [body, Bool.eq_iff_iff, decide_eq_true_eq, bodyLines_eq_blank_iff wellFormed.blankBody]
  · exact congrArg some info

/-- A well-formed cell comes back as it was restored, before the end of the document is known. -/
theorem reread_eq (prose : cell.kind = .prose → WellFormedProse cell)
    (code : cell.kind = .code → WellFormedCode cell) (lacks : Lacks '\r' cell)
    (spaced : Spaced cell) : reread cell = { restored cell with trailing := [] } := by
  have leading : List.replicate cell.leading.length '\n' = cell.leading :=
    (List.eq_replicate_iff.mpr ⟨rfl, spaced⟩).symm
  cases kind : cell.kind with
  | prose =>
    rw [reread_prose kind, restored, kind]
    dsimp only
    rw [Reading.proseCell, ofPieces_pieces, leading]
    conv_rhs => rw [(prose kind).bare]
    rfl
  | code =>
    have written := readCode_eq (code kind) lacks kind spaced
    have kept := (code kind).keptOutput
    cases stored : cell.output with
    | none =>
      rw [stored] at kept
      rw [reread_code_none kind kept, written, restored, kind]
      dsimp only
      rw [stored, (code kind).unindented stored]
      rfl
    | some output =>
      rw [stored] at kept
      have lines : (outputLines output).map dropReturn = outputLines output := by
        refine map_dropReturn_of_endsPlain fun line member ends => ?_
        exact not_mem_of_mem_pieces (by decide) (lacks.output output stored)
          (outputLines_subset output member) (List.mem_of_getLast? ends)
      rw [reread_code_some kind kept, written, lines, withOutput, ofLines_outputLines, restored, kind]
      dsimp only
      rw [stored]
      rfl

end Cells

theorem reread_unspaced (cell : Cell) :
    reread { cell with leading := [] } = { reread cell with leading := [] } := by
  obtain ⟨kind, _, _, _, _, _, output, _, _, _, _⟩ := cell
  cases kind with
  | prose => rfl
  | code =>
    rw [reread, reread, keptOutput, keptOutput]
    dsimp only
    cases output.filter (· ≠ []) with
    | none => rfl
    | some kept => rfl

theorem restored_unspaced (cell : Cell) :
    restored { cell with leading := [] } = { restored cell with leading := [] } := by
  obtain ⟨kind, _, _, _, _, _, _, _, _, _, _⟩ := cell
  cases kind with
  | prose => rfl
  | code => rfl

theorem restored_trailing (cell : Cell) (text : Text) :
    { restored cell with trailing := text } = restored { cell with trailing := text } := by
  obtain ⟨kind, _, _, _, _, _, _, _, _, _, _⟩ := cell
  cases kind with
  | prose => rfl
  | code => rfl

theorem finish_concat (cells : List Cell) (last : Cell) (count : Nat) :
    Reading.finish ⟨(cells ++ [last]).reverse, count⟩ =
      cells ++ [{ last with trailing := List.replicate count '\n' }] := by
  rw [List.reverse_append, List.reverse_singleton, List.singleton_append, Reading.finish]
  dsimp only
  rw [List.reverse_cons, List.reverse_reverse]

/-- Cells that are read again up to the end of the document are the restored cells. -/
theorem finish_map_reread {cells : List Cell} {last : Cell} {count : Nat}
    (same : ∀ cell ∈ cells ++ [last], reread cell = { restored cell with trailing := [] })
    (none : ∀ cell ∈ cells, cell.trailing = [])
    (trailing : last.trailing = List.replicate count '\n') :
    Reading.finish ⟨((cells ++ [last]).map reread).reverse, count⟩ =
      (cells ++ [last]).map restored := by
  have before : cells.map reread = cells.map restored := by
    refine List.map_congr_left fun cell member => ?_
    rw [same cell (List.mem_append_left _ member), restored_trailing, ← none cell member]
  have final := same last (List.mem_append_right _ (List.mem_singleton_self last))
  rw [List.map_append, List.map_singleton, finish_concat, before, final, List.map_append,
    List.map_singleton, ← trailing]
  exact congrArg (fun cell => cells.map restored ++ [cell]) (restored_trailing last last.trailing)

theorem WellFormed.reread_unspaced {cells : List Cell} (wellFormed : WellFormed cells) :
    ∀ cell ∈ unspaced cells, reread cell = { restored cell with trailing := [] } := by
  have same : ∀ cell ∈ cells, reread cell = { restored cell with trailing := [] } :=
    fun cell member => reread_eq (wellFormed.prose cell member) (wellFormed.code cell member)
      (wellFormed.plain cell member) (wellFormed.leading cell member)
  cases cells with
  | nil => exact same
  | cons first rest =>
    rw [unspaced, List.forall_mem_cons]
    rw [List.forall_mem_cons] at same
    refine ⟨?_, same.2⟩
    rw [Document.reread_unspaced, same.1, restored_unspaced]

theorem map_trailing_unspaced (cells : List Cell) :
    (unspaced cells).map (·.trailing) = cells.map (·.trailing) := by
  cases cells with
  | nil => rfl
  | cons first rest => rfl

theorem WellFormed.separate_chain {cells : List Cell} (wellFormed : WellFormed cells) :
    cells.IsChain Separate := by
  refine List.IsChain.imp_of_mem_imp (fun cell next member _ apart => ⟨apart.1, fun lacks => ?_⟩)
    wellFormed.separate
  apply apart.2
  have code := code_of_lacksOutput lacks
  rwa [lacksOutput, (wellFormed.code cell member code).keptOutput] at lacks

/-- Only the last cell has empty lines behind it. -/
theorem WellFormed.trailing_unspaced {cells : List Cell} (wellFormed : WellFormed cells)
    (filled : cells ≠ []) :
    ∃ before last count, unspaced cells = before ++ [last] ∧ (∀ cell ∈ before, cell.trailing = []) ∧
      last.trailing = List.replicate count '\n' ∧
      cells.getLast?.map (·.trailing) = some (List.replicate count '\n') := by
  have more : unspaced cells ≠ [] := by
    cases cells with
    | nil => exact absurd rfl filled
    | cons first rest => exact List.cons_ne_nil _ _
  obtain ⟨before, last, split⟩ := (unspaced cells).eq_nil_or_concat'.resolve_left more
  have trailings := map_trailing_unspaced cells
  rw [split, List.map_append, List.map_singleton] at trailings
  have final : cells.getLast?.map (·.trailing) = some last.trailing := by
    rw [← List.getLast?_map, ← trailings, List.getLast?_concat]
  have earlier : before.map (·.trailing) = cells.dropLast.map (·.trailing) := by
    rw [List.map_dropLast, ← trailings, List.dropLast_concat]
  obtain ⟨other, ends, same⟩ := Option.map_eq_some_iff.mp final
  have newlines := List.eq_replicate_iff.mpr
    ⟨rfl, wellFormed.trailing other (List.mem_of_getLast? ends)⟩
  rw [same] at newlines
  refine ⟨before, last, last.trailing.length, split, fun cell member => ?_, newlines, ?_⟩
  · have present := List.mem_map_of_mem (f := (·.trailing)) member
    rw [earlier] at present
    obtain ⟨other, member, same⟩ := List.mem_map.mp present
    rw [← same, wellFormed.last other member]
  · rw [final, ← newlines]

/-- Reading a written document gives the cells back, without the empty lines in front of the first
one, with the info texts that were written and with outputs that end their last line. -/
theorem parse_serialize_of_wellFormed {cells : List Cell} (wellFormed : WellFormed cells)
    (broken : serialize cells = [] ∨ '\n' ∈ serialize cells) :
    parse (serialize cells) = (unspaced cells).map restored := by
  rcases eq_or_ne cells [] with rfl | filled
  · exact parse_of_not_mem List.not_mem_nil
  have sound : ∀ cell ∈ cells, Sound cell := fun cell member =>
    ⟨fun kind => (wellFormed.prose cell member kind).sound,
      fun kind => (wellFormed.code cell member kind).sound⟩
  have quiet : ∀ cell ∈ cells, Quiet cell := by
    intro cell member
    cases kind : cell.kind with
    | code => exact (wellFormed.code cell member kind).quiet
    | prose =>
      have none : cell.output = none := congrArg Cell.output (wellFormed.prose cell member kind).bare
      intro output kept
      rw [keptOutput, none] at kept
      cases kept
  obtain ⟨before, last, count, split, none, newlines, trailing⟩ := wellFormed.trailing_unspaced filled
  have lines : '\n' ∈ serialize cells := by
    refine broken.resolve_left ?_
    cases cells with
    | nil => exact absurd rfl filled
    | cons first rest =>
      exact serialize_ne_nil (sound first (List.mem_cons_self ..))
        (fun cell member => wellFormed.leading cell (List.mem_cons_of_mem _ member)) trailing
  have read := wellFormed.reread_unspaced
  rw [parse_serialize_eq sound (fun cell member => plain_of_lacks (wellFormed.plain cell member)) quiet
    wellFormed.separate_chain wellFormed.leading trailing lines]
  rw [split] at read ⊢
  exact finish_map_reread read none newlines

/-- Prose and a code cell whose stored info text is out of date. -/
def editedNotes : List Cell :=
  [Cell.prose "# Notes", { Cell.code "javascript" "f()" with
    directive := some .skip, output := some "1", outputIndent := ['\t'], info := some "py" }]

theorem wellFormed_editedNotes : WellFormed editedNotes where
  plain := by
    rw [editedNotes, List.forall_mem_cons, List.forall_mem_singleton]
    refine ⟨⟨by decide, nofun, nofun, nofun, nofun⟩, ⟨by decide, ?_, ?_, ?_, ?_⟩⟩
    all_goals rintro _ ⟨⟩; decide
  prose := by
    rw [editedNotes, List.forall_mem_cons, List.forall_mem_singleton]
    exact ⟨fun _ => ⟨rfl, by decide, by decide, by decide, by decide⟩, nofun⟩
  code := by
    rw [editedNotes, List.forall_mem_cons, List.forall_mem_singleton]
    refine ⟨nofun, fun _ => ?_⟩
    refine {
      indent := by decide
      outputIndent := by decide
      language := ⟨"javascript", rfl, by decide, by decide, by decide, by decide, by decide⟩
      directive := ?_
      info := ?_
      unclosed := by decide
      blankBody := by decide
      output := ?_
      unindented := by decide }
    · rintro _ ⟨⟩
      exact ⟨by decide, "skip", by decide⟩
    · rintro _ ⟨⟩
      decide
    · rintro _ ⟨⟩
      exact ⟨by decide, by decide, by decide⟩
  leading := by simp [editedNotes, Cell.code, Cell.prose]
  trailing := by simp [editedNotes, Cell.code, Cell.prose]
  last := by decide
  separate := by decide

theorem parse_serialize_editedNotes :
    parse (serialize editedNotes) =
      [{ Cell.prose "# Notes" with leading := [] }, { Cell.code "javascript" "f()" with
        directive := some .skip, output := some "1\n", outputIndent := ['\t'],
        info := some "js :skip" }] :=
  (parse_serialize_of_wellFormed wellFormed_editedNotes (.inr (by decide))).trans (by decide)

end Notebook.Document
