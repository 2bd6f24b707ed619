import Notebook.Output.Segment
import Notebook.Proofs.Document.ComingBack

/-! # Outputs that are written back

A program run gives a code cell of a document that was read a new output. The writer puts the
output between fences as it is, so a line of it may close the fence. The document is read back with
the same cells and the new output exactly when this does not happen, no carriage return is lost at
the end of a line, and no empty output is left out in front of a `text` block.
-/

namespace Notebook.Document

open Text

/-! ## The output that is read back -/

section Output

variable {output : Text}

theorem endLine_of_getLast? (finishes : output.getLast? ≠ some '\n') :
    endLine output = output ++ ['\n'] := if_neg finishes

theorem outputLines_eq_pieces (finishes : output.getLast? ≠ some '\n') :
    outputLines output = output.pieces := by
  rw [outputLines, endLine_of_getLast? finishes, pieces_append_newline, pieces_nil,
    List.dropLast_concat]

/-- An output that is read back whole has no line that closes a fence or loses a character. -/
theorem unclosed_and_endsPlain_of_ofLines_eq {indent closer : Text} {body after : List Text}
    (finishes : output.getLast? ≠ some '\n') (valid : indent ∈ Fence.indents)
    (split : outputLines output ++ [Fence.closing indent] = body ++ closer :: after)
    (unclosed : Unclosed body) (same : ofLines (body.map dropReturn) = output ++ ['\n']) :
    Unclosed output.pieces ∧ EndsPlain output.pieces := by
  rw [outputLines_eq_pieces finishes] at split
  have all_whole : ∀ line ∈ output.pieces ++ [Fence.closing indent], '\n' ∉ line := by
    rw [List.forall_mem_append, List.forall_mem_singleton]
    exact ⟨fun line member => newline_not_mem_of_mem_pieces member,
      newline_not_mem_closing (newline_not_mem_indent valid)⟩
  have whole : ∀ line ∈ body.map dropReturn, '\n' ∉ line := by
    intro line member
    obtain ⟨line, present, rfl⟩ := List.mem_map.mp member
    apply not_mem_dropReturn
    apply all_whole
    rw [split]
    exact List.mem_append_left _ present
  rw [← ofLines_pieces] at same
  have read := ofLines_inj whole (fun line member => newline_not_mem_of_mem_pieces member) same
  -- The lines that are read are as many as those of the output, so none of them closed the fence.
  have length : output.pieces.length = body.length := by rw [← read, List.length_map]
  obtain ⟨rfl, _⟩ := List.append_inj split length
  exact ⟨unclosed, map_dropReturn_eq_self_iff.mp read⟩

end Output

/-! ## Documents with one output replaced -/

/-- The cells are read one by one from what is written, but for an output of one of them. -/
structure Editable (before : List Cell) (edited : Cell) (after : List Cell) (output : Text) :
    Prop where
  sound : ∀ cell ∈ before ++ edited :: after, Sound cell
  apart : (before ++ edited :: after).IsChain Apart
  earlier : ∀ cell ∈ before, Quiet cell
  later : ∀ cell ∈ after, Quiet cell
  kind : edited.kind = .code
  language : edited.language ≠ some Fence.outputTag
  kept : keptOutput edited = some output
  finishes : output.getLast? ≠ some '\n'

section Documents

variable {before after : List Cell} {edited : Cell} {output : Text} {count : Nat}

theorem Editable.mem (_ : Editable before edited after output) :
    edited ∈ before ++ edited :: after := List.mem_append_right _ (List.mem_cons_self ..)

theorem Editable.proseApart (editable : Editable before edited after output) :
    (before ++ edited :: after).IsChain ProseApart :=
  editable.apart.imp fun _ _ apart => apart.prose

theorem Editable.code (editable : Editable before edited after output) : SoundCode edited :=
  (editable.sound edited editable.mem).code editable.kind

/-- If no line of the new output closes a fence, no line of any output does. -/
theorem Editable.quiet (editable : Editable before edited after output)
    (unclosed : Unclosed output.pieces) : ∀ cell ∈ before ++ edited :: after, Quiet cell := by
  rw [List.forall_mem_append, List.forall_mem_cons]
  refine ⟨editable.earlier, fun other same => ?_, editable.later⟩
  rw [editable.kept, Option.some_inj] at same
  rwa [← same, outputLines_eq_pieces editable.finishes]

/-- The output that is read back for a cell, when its lines are read behind other cells. -/
theorem exists_output_readOn {done : List Cell} (kind : edited.kind = .code)
    (sound : SoundCode edited) (apart : awaits done = true → edited.language ≠ some Fence.outputTag)
    (kept : keptOutput edited = some output) :
    ∃ body closer others, outputLines output ++ [Fence.closing edited.outputIndent] =
        body ++ closer :: others ∧ Unclosed body ∧
      ((readOn done (restLines (edited :: after) count)).map (·.output))[done.length]? =
        some (some (ofLines (body.map dropReturn))) := by
  rcases unclosed_or_split (outputLines output ++ [Fence.closing edited.outputIndent]) with
    unclosed | ⟨body, closer, others, split, unclosed, closes⟩
  · have stays := unclosed _ (List.mem_append_right _ (List.mem_singleton_self _))
    rw [Fence.isCloser_closing sound.outputIndent] at stays
    cases stays
  · refine ⟨body, closer, others, split, unclosed, ?_⟩
    rw [restLines_cons, readOn_code kind sound apart,
      readOn_output sound kept split unclosed closes]
    have final := isPrefix_map_read_of_awaits (f := (·.output)) (fun _ _ => rfl)
      (outline (others.map dropReturn ++ restLines after count))
      (awaits_withOutput (readCode edited) edited.outputIndent (body.map dropReturn) done)
    rw [← readOn] at final
    obtain ⟨further, joined⟩ := final
    rw [← joined, List.reverse_cons, List.map_append, List.append_assoc,
      List.getElem?_append_right (by simp)]
    simp [withOutput]

/-- Cells that are read as themselves, with the new output, are plain and separate. -/
theorem Editable.of_readsAs (editable : Editable before edited after output)
    (reads : ReadsAs [] (restLines (before ++ edited :: after) count) (before ++ edited :: after))
    (stored : ((readOn [] (restLines (before ++ edited :: after) count)).map
      (·.output))[before.length]? = some (some (output ++ ['\n']))) :
    (Unclosed output.pieces ∧ EndsPlain output.pieces) ∧
      (∀ cell ∈ before ++ edited :: after, Plain cell) ∧
        (before ++ edited :: after).IsChain Separate := by
  obtain ⟨_, _, _, _, step⟩ := reads.run editable.sound editable.proseApart editable.earlier
  obtain ⟨body, closer, others, split, unclosed, read⟩ :=
    @exists_output_readOn after edited output count ((before.map reread).reverse ++ [])
      editable.kind editable.code (fun _ => editable.language) editable.kept
  have position : ((before.map reread).reverse ++ []).length = before.length := by simp
  rw [← step, position, stored, Option.some_inj, Option.some_inj] at read
  have whole := unclosed_and_endsPlain_of_ofLines_eq editable.finishes editable.code.outputIndent
    split unclosed read.symm
  refine ⟨whole, ?_⟩
  -- The new output is quiet too, and the whole document can be followed.
  have cells := (before ++ edited :: after).append_nil
  rw [← cells] at reads
  obtain ⟨_, plain, separate, _⟩ := reads.run (by rw [cells]; exact editable.sound)
    (by rw [cells]; exact editable.proseApart) (editable.quiet whole.1)
  exact ⟨plain, separate⟩

/-- Plain and separate cells are read as themselves, with the new output. -/
theorem Editable.readsAs (editable : Editable before edited after output)
    (unclosed : Unclosed output.pieces) (ends : EndsPlain output.pieces)
    (plain : ∀ cell ∈ before ++ edited :: after, Plain cell)
    (separate : (before ++ edited :: after).IsChain Separate) :
    (readOn [] (restLines (before ++ edited :: after) count)).map shape =
        (before ++ edited :: after).map shape ∧
      ((readOn [] (restLines (before ++ edited :: after) count)).map (·.output))[before.length]? =
        some (some (output ++ ['\n'])) := by
  have read := @readOn_documentLines _ editable.sound plain (editable.quiet unclosed) separate []
    (fun awaiting => by cases awaiting) count
  rw [restLines, read, List.append_nil, map_finish (fun _ _ => rfl), map_finish (fun _ _ => rfl),
    List.reverse_reverse]
  refine ⟨?_, ?_⟩
  · rw [List.map_map]
    exact List.map_congr_left fun cell member => shape_reread (editable.sound cell member)
      (plain cell member)
  · rw [List.map_append, List.map_append, List.getElem?_append_right (by simp)]
    simp [reread_code_some editable.kind editable.kept, withOutput,
      outputLines_eq_pieces editable.finishes, map_dropReturn_of_endsPlain ends, ofLines_pieces]

end Documents

/-! ### Empty lines in front -/

section Spacing

variable {before after : List Cell} {edited : Cell} {output : Text}

theorem length_unspaced (cells : List Cell) : (unspaced cells).length = cells.length := by
  cases cells with
  | nil => rfl
  | cons first rest => rfl

theorem apart_unspaced_iff (cell next : Cell) :
    Apart { cell with leading := [] } next ↔ Apart cell next :=
  ⟨fun apart => ⟨apart.prose, apart.output⟩, fun apart => ⟨apart.prose, apart.output⟩⟩

/-- The empty lines in front of the first cell are left out whichever cell is edited. -/
theorem Editable.unspaced (editable : Editable before edited after output) :
    ∃ leading, unspaced (before ++ edited :: after) =
        Document.unspaced before ++ { edited with leading := leading } :: after ∧
      Editable (Document.unspaced before) { edited with leading := leading } after output := by
  have moved : ∃ leading, Document.unspaced (before ++ edited :: after) =
      Document.unspaced before ++ { edited with leading := leading } :: after := by
    cases before with
    | nil => exact ⟨[], rfl⟩
    | cons first rest => exact ⟨edited.leading, rfl⟩
  obtain ⟨leading, moved⟩ := moved
  refine ⟨leading, moved, ?_⟩
  exact {
    sound := by rw [← moved]; exact (forall_unspaced_iff sound_unspaced_iff).mpr editable.sound
    apart := by rw [← moved]; exact (isChain_unspaced_iff apart_unspaced_iff).mpr editable.apart
    earlier := (forall_unspaced_iff fun _ => Iff.rfl).mpr editable.earlier
    later := editable.later
    kind := editable.kind
    language := editable.language
    kept := editable.kept
    finishes := editable.finishes }

end Spacing

/-! ## Documents that were read -/

/-- The cells after a run has given one of them a new output. -/
def withNewOutput (cells : List Cell) (position : Nat) (output : Text) : List Cell :=
  cells.modify position fun cell => cell.setOutput (some output)

/-- The written cells are read as cells of the same shapes, and the cell has the output, with a
newline at its end. -/
structure ComesBack (cells : List Cell) (position : Nat) (output : Text) : Prop where
  shapes : (parse (serialize cells)).map shape = cells.map shape
  output : ((parse (serialize cells)).map (·.output))[position]? = some (some (output ++ ['\n']))

/-- Only code that is not a `text` block has an output. -/
theorem FromBlock.output_ne_none {cell : Cell} (block : FromBlock cell)
    (stored : cell.output ≠ none) :
    cell.kind = .code ∧ cell.language ≠ some Fence.outputTag := by
  induction block with
  | prose => exact absurd rfl stored
  | code => exact absurd rfl stored
  | output _ accepts =>
    simp only [Reading.acceptsOutput, Cell.isCode, Bool.and_eq_true, decide_eq_true_eq] at accepts
    exact accepts.1
  | trailing _ _ ih => exact ih stored

/-- Cells that are apart are separate unless an output that is left out stands between them. -/
theorem Apart.separate_iff {cell next : Cell} (apart : Apart cell next)
    (code : cell.output ≠ none → cell.kind = .code ∧ cell.language ≠ some Fence.outputTag) :
    Separate cell next ↔ (cell.output = some [] → next.language ≠ some Fence.outputTag) := by
  constructor
  · intro separate empty
    have stored := code (by rw [empty]; exact Option.some_ne_none [])
    apply separate.output
    simp [lacksOutput, Cell.isCode, stored, keptOutput, empty]
  · refine fun kept => ⟨apart.prose, fun lacks => ?_⟩
    simp only [lacksOutput, keptOutput, Bool.and_eq_true, Option.isNone_iff_eq_none,
      Option.filter_eq_none_iff] at lacks
    cases stored : cell.output with
    | none =>
      apply apart.output
      simp [Reading.acceptsOutput, lacks.1.1, lacks.1.2, stored]
    | some output =>
      apply kept
      rw [stored]
      simpa using lacks.2 output stored

theorem isChain_separate_iff {cells : List Cell} (apart : cells.IsChain Apart)
    (code : ∀ cell ∈ cells, cell.output ≠ none →
      cell.kind = .code ∧ cell.language ≠ some Fence.outputTag) :
    cells.IsChain Separate ↔ cells.IsChain fun cell next =>
      cell.output = some [] → next.language ≠ some Fence.outputTag := by
  simp only [List.isChain_iff_forall_rel_of_append_cons_cons] at apart ⊢
  have neighbours : ∀ {before after : List Cell} {cell next : Cell},
      cells = before ++ cell :: next :: after →
        (Separate cell next ↔ (cell.output = some [] → next.language ≠ some Fence.outputTag)) :=
    fun split => (apart split).separate_iff (code _ (by rw [split]; simp))
  exact ⟨fun separate _ _ _ _ split => (neighbours split).mp (separate split),
    fun kept _ _ _ _ split => (neighbours split).mpr (kept split)⟩

/-- The cells come back with the new output exactly when nothing is read as something else. -/
theorem Editable.comesBack_iff {before after : List Cell} {edited : Cell} {output : Text}
    {count : Nat} (editable : Editable before edited after output)
    (spaced : ∀ cell ∈ before ++ edited :: after, Spaced cell)
    (trailing : (before ++ edited :: after).getLast?.map (·.trailing) =
      some (List.replicate count '\n')) :
    ComesBack (before ++ edited :: after) before.length output ↔
    (Unclosed output.pieces ∧ EndsPlain output.pieces) ∧
      (∀ cell ∈ before ++ edited :: after, Plain cell) ∧
        (before ++ edited :: after).IsChain Separate := by
  have reading := parse_serialize_eq_readOn editable.sound spaced trailing
    (cellText_subset_serialize editable.mem (newline_mem_cellText editable.kind))
  obtain ⟨leading, moved, inner⟩ := editable.unspaced
  have shapes := map_unspaced (f := shape) (fun _ => rfl) (before ++ edited :: after)
  have length := length_unspaced before
  rw [moved] at reading shapes
  rw [← forall_unspaced_iff plain_unspaced_iff, ← isChain_unspaced_iff separate_unspaced_iff, moved]
  constructor
  · rintro ⟨same, stored⟩
    rw [reading] at same stored
    rw [← length] at stored
    refine inner.of_readsAs ?_ stored
    rw [ReadsAs, List.reverse_nil, List.nil_append]
    exact map_gist_of_map_shape (same.trans shapes.symm)
  · rintro ⟨⟨unclosed, ends⟩, plain, separate⟩
    have back := @Editable.readsAs _ _ _ _ count inner unclosed ends plain separate
    rw [shapes, restLines, ← reading, length] at back
    exact ⟨back.1, back.2⟩

/-- A document with one output replaced, as a list around the cell. -/
theorem withNewOutput_eq {cells : List Cell} {position : Nat} {cell : Cell} {output : Text}
    (read : cells[position]? = some cell) (filled : output ≠ []) :
    ∃ before after, cells = before ++ cell :: after ∧ before.length = position ∧
      withNewOutput cells position output =
        before ++ { cell with output := some output } :: after := by
  obtain ⟨before, after, rfl, rfl⟩ := exists_append_of_getElem? read
  have stored : cell.setOutput (some output) = { cell with output := some output } := by
    rw [Cell.setOutput, Option.filter_some_pos (p := (· ≠ [])) (decide_eq_true filled)]
  refine ⟨before, after, rfl, rfl, ?_⟩
  rw [withNewOutput, modify_append_cons, stored]

/-- Cells stay apart when one of them is given an output. -/
theorem isChain_apart_withOutput {before after : List Cell} {cell : Cell} {output : Text}
    (apart : (before ++ cell :: after).IsChain Apart) :
    (before ++ { cell with output := some output } :: after).IsChain Apart := by
  rw [List.isChain_append, List.isChain_cons] at apart ⊢
  obtain ⟨earlier, ⟨next, later⟩, previous⟩ := apart
  refine ⟨earlier, ⟨fun other member => ⟨(next other member).prose, fun accepts => ?_⟩, later⟩, ?_⟩
  · simp [Reading.acceptsOutput] at accepts
  · rintro other member _ ⟨⟩
    have neighbour := previous other member cell rfl
    exact ⟨neighbour.prose, neighbour.output⟩

/-- What is read from a text can be edited. -/
theorem editable_of_parse {text output : Text} {before after : List Cell} {cell : Cell}
    (split : parse text = before ++ cell :: after) (kind : cell.kind = .code)
    (language : cell.language ≠ some Fence.outputTag) (filled : output ≠ [])
    (trimmed : output.trim = output) :
    Editable before { cell with output := some output } after output := by
  have blocks : ∀ other ∈ before ++ cell :: after, FromBlock other := by
    rw [← split]
    exact fun other member => fromBlock_parse member
  have apart := apart_parse text
  rw [split] at apart
  rw [List.forall_mem_append, List.forall_mem_cons] at blocks
  obtain ⟨before_blocks, block, after_blocks⟩ := blocks
  exact {
    sound := by
      rw [List.forall_mem_append, List.forall_mem_cons]
      exact ⟨fun other member => (before_blocks other member).sound,
        block.sound.update cell.leading cell.trailing
          (fun _ => (block.sound.code kind).outputIndent) (fun _ _ => language),
        fun other member => (after_blocks other member).sound⟩
    apart := isChain_apart_withOutput apart
    earlier := fun other member => (before_blocks other member).quiet
    later := fun other member => (after_blocks other member).quiet
    kind := kind
    language := language
    kept := Option.filter_some_pos (decide_eq_true filled)
    finishes := fun last => by
      have visible := getLast?_of_trimEnd (trimEnd_eq_self_of_trim trimmed) last
      cases visible }

/-- A new output is written so that the document comes back with it exactly when no line of the
output looks like the end of a fence or ends with a carriage return, every cell is plain, and no
empty output stands in front of a `text` block. -/
theorem comesBack_withNewOutput_iff {text output : Text} {position : Nat} {cell : Cell}
    (read : (parse text)[position]? = some cell) (kind : cell.kind = .code)
    (language : cell.language ≠ some Fence.outputTag) (filled : output ≠ [])
    (trimmed : output.trim = output) :
    ComesBack (withNewOutput (parse text) position output) position output ↔
      (∀ line ∈ output.pieces, Fence.isCloser line = false ∧ line.getLast? ≠ some '\r') ∧
      (∀ cell ∈ withNewOutput (parse text) position output, Plain cell) ∧
      (withNewOutput (parse text) position output).IsChain fun cell next =>
        cell.output = some [] → next.language ≠ some Fence.outputTag := by
  obtain ⟨before, after, split, rfl, written⟩ := withNewOutput_eq read filled
  have editable := editable_of_parse split kind language filled trimmed
  have blocks : ∀ other ∈ parse text, FromBlock other := fun other member => fromBlock_parse member
  obtain ⟨count, trailing⟩ := @trailing_parse text (by rw [split]; simp)
  rw [split, List.forall_mem_append, List.forall_mem_cons] at blocks
  rw [split, ← List.getLast?_map, List.map_append, List.map_cons] at trailing
  obtain ⟨before_blocks, block, after_blocks⟩ := blocks
  have code : ∀ other ∈ before ++ { cell with output := some output } :: after,
      other.output ≠ none → other.kind = .code ∧ other.language ≠ some Fence.outputTag := by
    rw [List.forall_mem_append, List.forall_mem_cons]
    exact ⟨fun other member => (before_blocks other member).output_ne_none,
      fun _ => ⟨kind, language⟩, fun other member => (after_blocks other member).output_ne_none⟩
  have spaced : ∀ other ∈ before ++ { cell with output := some output } :: after, Spaced other := by
    rw [List.forall_mem_append, List.forall_mem_cons]
    exact ⟨fun other member => (before_blocks other member).spaced, block.spaced,
      fun other member => (after_blocks other member).spaced⟩
  have back := @Editable.comesBack_iff _ _ _ _ count editable spaced
    (by rw [← List.getLast?_map, List.map_append, List.map_cons]; exact trailing)
  rw [written, back, isChain_separate_iff editable.apart code]
  refine and_congr_left fun _ => ⟨fun whole line member => ?_, fun whole => ⟨?_, ?_⟩⟩
  · exact ⟨whole.1 line member, whole.2 line member⟩
  · exact fun line member => (whole line member).1
  · exact fun line member => (whole line member).2

theorem comesBack_withNewOutput_lines :
    ComesBack (withNewOutput (parse "# A\n\n```py\nx\n```\n") 1 "1\n2") 1 "1\n2" := by
  have cells : parse "# A\n\n```py\nx\n```\n" =
      [{ Cell.prose "# A" with leading := [] },
        { Cell.code "py" "x" with trailing := ['\n'], info := some "py" }] := by
    rw [parse_eq_read (by decide)]
    decide
  refine (@comesBack_withNewOutput_iff _ _ 1 _ (by rw [cells]; rfl) rfl (by decide) (by decide)
    (by decide)).mpr ?_
  rw [cells]
  decide

/-- A program can print the mark of a fence, and what follows it is read as prose. -/
theorem parse_serialize_fence_in_output :
    Output.Collector.final? ⟨0, Utf8.encode "a\n```\nb"⟩ = some "a\n```\nb" ∧
      parse (serialize (withNewOutput (parse "```py\nx\n```\n") 0 "a\n```\nb")) =
        [{ Cell.code "py" "x" with leading := [], output := some "a\n", info := some "py" },
          { Cell.prose "b\n```" with leading := [], trailing := ['\n'] }] := by
  refine ⟨by decide, ?_⟩
  have cells : parse "```py\nx\n```\n" =
      [{ Cell.code "py" "x" with leading := [], trailing := ['\n'], info := some "py" }] := by
    rw [parse_eq_read (by decide)]
    decide
  rw [cells, parse_eq_read (by decide)]
  decide

end Notebook.Document
