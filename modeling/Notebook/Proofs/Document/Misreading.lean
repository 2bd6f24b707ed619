import Notebook.Proofs.Document.Shape

/-! # No cell makes up for another

A cell can be misread in two ways: prose loses a carriage return in front of a line that opens a
fence then, and a `text` block is taken for the output of the cell before it. What follows is read
as cells of other gists in both cases. Behind prose that has turned into a fence there is no prose
of the same content, and behind a `text` block that has turned into an output the cells that are
left are one too few.
-/

namespace Notebook.Document

open Text

/-- The lines of further cells and of the end of the document, as they are read. -/
abbrev restLines (cells : List Cell) (count : Nat) : List Text :=
  (documentLines cells).map dropReturn ++ List.replicate count []

theorem newline_not_mem_restLines {cells : List Cell} {count : Nat} {line : Text}
    (member : line ∈ restLines cells count) : '\n' ∉ line := by
  rcases List.mem_append.mp member with member | member
  · exact newline_not_mem_map_dropReturn member
  · exact newline_not_mem_replicate member

theorem restLines_cons (cell : Cell) (cells : List Cell) (count : Nat) :
    restLines (cell :: cells) count = List.replicate cell.leading.length [] ++
      ((cellLines cell).map dropReturn ++ restLines cells count) := by
  rw [restLines, map_dropReturn_documentLines, List.append_assoc, List.append_assoc]

/-! ## Prose that has turned into a fence -/

section Opened

variable {done rest cells : List Cell} {cell : Cell} {first : Text} {tail : List Text}
  {opener : Fence.Opener} {count : Nat}

theorem countP_render_pos (opener : Fence.Opener) : 0 < opener.render.countP (· ≠ '\n') := by
  rw [List.countP_pos_iff]
  refine ⟨'`', ?_, by decide⟩
  rw [Fence.Opener.render, Fence.mark_eq]
  simp

/-- If a line of the prose closes the fence, too few characters are left. -/
theorem not_readsAs_closed (kind : cell.kind = .prose) (split : cellLines cell = first :: tail)
    (render : dropReturn first = opener.render) {body after : List Text} {closer : Text}
    (read : tail.map dropReturn = body ++ closer :: after) (unopened : Unopened after)
    (whole : ∀ line ∈ after, '\n' ∉ line) (sound : ∀ cell ∈ rest, Sound cell)
    (code : ∀ cell ∈ rest.head?, cell.kind ≠ .prose) (idle : awaits done = false) :
    ¬ ReadsAs done (after ++ restLines rest count) (cell :: cells) := by
  intro reads
  obtain ⟨blanks, lines, rest_split, opening⟩ := documentLines_opening sound code count
  rw [restLines, rest_split, ← List.append_assoc] at reads
  obtain ⟨before, behind, gap⟩ := reads.gap (unopened.append (unopened_replicate blanks))
    (List.forall_mem_append.mpr ⟨whole, fun line member => newline_not_mem_replicate member⟩)
    opening idle kind
  have content := congrArg (tally (· ≠ '\n')) gap
  simp only [tally_append, tally_replicate] at content
  have written := (trimBreaks_sublist cell.content).countP_le (p := (· ≠ '\n'))
  have lost := @tally_dropReturn_le (· ≠ '\n') (cellLines cell)
  have mark := countP_render_pos opener
  rw [countP_eq_tally (by decide), countP_eq_tally (by decide), ← cellLines_prose kind] at written
  rw [split, List.map_cons, render, read, tally_cons, tally_append, tally_cons] at lost
  rw [split] at written
  omega

theorem head?_closing {indent : Text} (valid : indent ∈ Fence.indents) :
    (Fence.closing indent).head? ≠ some '\r' := by
  revert indent
  decide

/-- If the next fence closes it, the closing line of that fence is left, and prose that starts a
fence with a carriage return has none like it. -/
theorem not_readsAs_unclosed (kind : cell.kind = .prose) (sound : SoundProse cell)
    (split : cellLines cell = first :: tail) (opens : Fence.opener? (dropReturn first) ≠ none)
    {body : List Text} {indent : Text} (valid : indent ∈ Fence.indents) (unclosed : Unclosed body)
    {lines : List Text} (whole : ∀ line ∈ body ++ Fence.closing indent :: lines, '\n' ∉ line)
    (idle : awaits done = false) :
    ¬ ReadsAs done (body ++ Fence.closing indent :: lines) (cell :: cells) := by
  intro reads
  obtain ⟨gap, others, rfl, unopened, opening⟩ := unopened_append_opening lines
  rw [← List.cons_append, ← List.append_assoc] at reads whole
  obtain ⟨before, after, same⟩ := reads.gap
    (unclosed.unopened.append (List.forall_mem_cons.mpr ⟨Fence.opener?_closing valid, unopened⟩))
    (fun line member => whole line (List.mem_append_left _ member)) opening idle kind
  obtain ⟨line, found, head⟩ := find?_isCloser_content kind sound split opens
  have none : ∀ count, (List.replicate count ([] : Text)).find? Fence.isCloser = none := fun count =>
    List.find?_eq_none.mpr fun line member => by simp [unclosed_replicate count line member]
  have mark := congrArg (List.find? Fence.isCloser) same
  rw [List.find?_append, List.find?_append, List.find?_append, none, found,
    List.find?_eq_none.mpr (fun line member => by simp [unclosed line member]), Option.none_or,
    Option.none_or, Option.some_or, List.find?_cons_of_pos (Fence.isCloser_closing valid),
    Option.some_inj] at mark
  rw [← mark] at head
  exact head?_closing valid head

/-- A block is read, in place of its own lines, as the end of a fence that was opened before it. -/
theorem bodySpan_restLines {lines : List Text} {next : Cell} (unclosed : Unclosed lines)
    (kind : next.kind = .code) (sound : SoundCode next) :
    (Block.bodySpan (lines ++ restLines (next :: rest) count)).2 =
      (bodyLines next).map dropReturn ++ Fence.closing next.indent ::
        ((outputFence next).map dropReturn ++ restLines rest count) := by
  have split : lines ++ restLines (next :: rest) count =
      (lines ++ List.replicate next.leading.length []) ++
        (readOpener next).render :: ((bodyLines next).map dropReturn ++
          Fence.closing next.indent ::
            ((outputFence next).map dropReturn ++ restLines rest count)) := by
    rw [restLines_cons, map_dropReturn_cellLines kind sound]
    simp only [fenceLines, readOpener, List.append_assoc, List.cons_append, List.nil_append]
  rw [split, bodySpan_append (unclosed.append (unclosed_replicate _))
    (Fence.isCloser_of_opener? (Fence.opener?_render (valid_readOpener sound)))]

theorem bodySpan_subset (lines : List Text) : (Block.bodySpan lines).2 ⊆ lines :=
  fun _ member => (List.dropWhile_sublist _).subset (List.mem_of_mem_drop member)

/-- Behind prose whose first line has opened a fence there is no prose of the same content. -/
theorem not_readsAs_behind_opener (kind : cell.kind = .prose) (sound : Sound cell)
    (valid : opener.Valid) (split : cellLines cell = first :: tail)
    (render : dropReturn first = opener.render) (unopened : Unopened (tail.map dropReturn))
    (rest_sound : ∀ cell ∈ rest, Sound cell) (code : ∀ cell ∈ rest.head?, cell.kind ≠ .prose)
    (idle : awaits done = false) :
    ¬ ReadsAs done (Block.bodySpan (tail.map dropReturn ++ restLines rest count)).2
      (cell :: cells) := by
  have whole : ∀ line ∈ tail.map dropReturn, '\n' ∉ line := by
    intro line member
    obtain ⟨line, present, rfl⟩ := List.mem_map.mp member
    apply not_mem_dropReturn
    apply @newline_not_mem_of_mem_pieces (cellText cell)
    rw [← cellLines, split]
    exact List.mem_cons_of_mem _ present
  rcases unclosed_or_split (tail.map dropReturn) with
    unclosed | ⟨body, closer, after, read, unclosed, closes⟩
  · cases rest with
    | nil =>
      have span := bodySpan_unclosed (unclosed.append (unclosed_replicate count))
      rw [restLines, documentLines, List.flatMap_nil, List.map_nil, List.nil_append, span]
      exact not_readsAs_replicate 0
    | cons next rest =>
      have next_kind := code_of_not_prose (code next rfl)
      have next_sound := (rest_sound next (List.mem_cons_self ..)).code next_kind
      have span := @bodySpan_restLines rest count _ next unclosed next_kind next_sound
      have inside := bodySpan_subset (tail.map dropReturn ++ restLines (next :: rest) count)
      rw [span] at inside ⊢
      exact not_readsAs_unclosed kind (sound.prose kind) split
        (by rw [render, Fence.opener?_render valid]; exact Option.some_ne_none opener)
        next_sound.indent (unclosed_map_dropReturn (unclosed_bodyLines next_sound.unclosed))
        (fun line member => (List.mem_append.mp (inside member)).elim (whole line)
          newline_not_mem_restLines) idle
  · rw [read, List.append_assoc, List.cons_append, bodySpan_append unclosed closes]
    rw [read] at unopened whole
    exact not_readsAs_closed kind split render read
      (fun line member => unopened line (List.mem_append_right _ (List.mem_cons_of_mem _ member)))
      (fun line member => whole line (List.mem_append_right _ (List.mem_cons_of_mem _ member)))
      rest_sound code idle

/-- Prose whose first line opens a fence is taken up as that fence. -/
theorem readOn_opened (valid : opener.Valid) (split : cellLines cell = first :: tail)
    (render : dropReturn first = opener.render) (lines : List Text) :
    readOn done (List.replicate cell.leading.length [] ++
        ((cellLines cell).map dropReturn ++ lines)) =
      readOn (addFence done (List.replicate cell.leading.length []) opener
          (Block.bodySpan (tail.map dropReturn ++ lines)).1)
        (Block.bodySpan (tail.map dropReturn ++ lines)).2 := by
  rw [split, List.map_cons, render, List.cons_append,
    readOn_opener (unopened_replicate cell.leading.length) valid]

end Opened

/-! ## Blocks that have turned into outputs -/

theorem awaits_eq_false_of_language {cell : Cell} {cells : List Cell}
    (language : cell.language = some Fence.outputTag) : awaits (cell :: cells) = false := by
  simp [awaits, Reading.acceptsOutput, language]

/-- A `text` block has no output that would be written. -/
theorem outputFence_of_language {cell : Cell} (sound : SoundCode cell)
    (language : cell.language = some Fence.outputTag) : outputFence cell = [] := by
  have none : cell.output = none := by
    by_contra stored
    exact sound.output stored language
  rw [outputFence, none]

/-- The cells behind a `text` block are not read as that block and themselves. -/
theorem not_readsAs_text {rest done : List Cell} {cell : Cell} {count : Nat}
    (sound : ∀ cell ∈ rest, Sound cell) (apart : rest.IsChain ProseApart) (kind : cell.kind = .code)
    (language : cell.language = some Fence.outputTag) (idle : awaits done = false) :
    ¬ ReadsAs done (restLines rest count) (cell :: rest) := by
  induction rest generalizing done cell with
  | nil => exact not_readsAs_replicate count
  | cons next rest ih =>
    intro reads
    rw [restLines_cons] at reads
    have next_sound := sound next (List.mem_cons_self ..)
    have rest_sound : ∀ cell ∈ rest, Sound cell :=
      fun cell member => sound cell (List.mem_cons_of_mem _ member)
    obtain ⟨neighbour, apart⟩ := List.isChain_cons.mp apart
    cases next_kind : next.kind with
    | code =>
      have code := next_sound.code next_kind
      obtain ⟨same, reads⟩ := reads.head (readOn_code next_kind code
        (fun awaiting => by rw [idle] at awaiting; cases awaiting) (restLines rest count))
      -- The cell that is read in place of the block is a `text` block itself, and so on.
      have read_language : (readCode next).language = cell.language :=
        congrArg (fun gist => gist.2.1) same
      have next_language := read_language.trans language
      rw [language_readCode code] at next_language
      rw [outputFence_of_language code next_language, List.map_nil, List.nil_append] at reads
      exact ih rest_sound apart next_kind next_language
        (awaits_eq_false_of_language (read_language.trans language)) reads
    | prose =>
      have prose := next_sound.prose next_kind
      have code : ∀ cell ∈ rest.head?, cell.kind ≠ .prose :=
        fun cell member => neighbour cell member next_kind
      rcases cellLines_prose_cases next_kind prose with
        unopened | ⟨opener, first, tail, valid, split, render, unopened⟩
      · obtain ⟨blanks, lines, rest_split, opening⟩ := documentLines_opening rest_sound code count
        rw [restLines, rest_split] at reads
        have same := (reads.head (readOn_unopened next_kind next_sound unopened opening blanks)).1
        exact absurd ((congrArg Prod.fst same).trans kind) nofun
      · have step := @readOn_opened done next first tail opener valid split render
          (restLines rest count)
        rw [addFence_cell (by rw [idle, Bool.false_and, Bool.and_false]), addGap_replicate] at step
        obtain ⟨same, reads⟩ := reads.head step
        have read_language := (congrArg (fun gist => gist.2.1) same).trans language
        exact not_readsAs_behind_opener next_kind next_sound valid split render unopened rest_sound
          code (awaits_eq_false_of_language read_language) reads

/-! ## Every cell is read as itself -/

section Steps

variable {done rest : List Cell} {cell : Cell} {count : Nat}

theorem awaits_withOutput (previous : Cell) (indent : Text) (body : List Text)
    (earlier : List Cell) : awaits (withOutput previous indent body :: earlier) = false := by
  simp [awaits, Reading.acceptsOutput, withOutput]

/-- An output that the last cell is given does not change its gist. -/
theorem ReadsAs.withOutput {previous : Cell} {lines others : List Text} {cells : List Cell}
    {indent : Text} {body : List Text} (reads : ReadsAs (previous :: done) lines cells)
    (step : readOn (previous :: done) lines =
      readOn (Document.withOutput previous indent body :: done) others) :
    ReadsAs (Document.withOutput previous indent body :: done) others cells := by
  rw [ReadsAs, ← step, reads]
  simp only [List.reverse_cons, List.append_assoc, List.map_append, List.singleton_append,
    List.map_cons]
  rw [unwritten_gist]

/-- A block is not taken for an output. -/
theorem ReadsAs.free (reads : ReadsAs done (restLines (cell :: rest) count) (cell :: rest))
    (kind : cell.kind = .code) (sound : SoundCode cell) (rest_sound : ∀ cell ∈ rest, Sound cell)
    (apart : rest.IsChain ProseApart) :
    awaits done = true → cell.language ≠ some Fence.outputTag := by
  intro awaiting language
  have valid := valid_readOpener sound
  obtain ⟨previous, earlier, rfl, _, added⟩ := @addFence_output done
    (List.replicate cell.leading.length []) (readOpener cell)
    ((isOutputFence_readOpener_iff sound).mpr language) awaiting (all_isBlank_replicate _)
    ((bodyLines cell).map dropReturn)
  have step := @readOn_fence (previous :: earlier) (List.replicate cell.leading.length [])
    ((bodyLines cell).map dropReturn) (readOpener cell) (unopened_replicate _) valid
    (unclosed_map_dropReturn (unclosed_bodyLines sound.unclosed)) _
    (Fence.isCloser_closing valid.indent) (restLines rest count)
  rw [restLines_cons, map_dropReturn_cellLines kind sound, outputFence_of_language sound language,
    List.map_nil, List.append_nil, fenceLines_append] at reads
  rw [added] at step
  exact not_readsAs_text rest_sound apart kind language (awaits_withOutput ..)
    (reads.withOutput step)

/-- Prose is read as prose: its first line has not turned into the opener of a fence. -/
theorem ReadsAs.unopened (reads : ReadsAs done (restLines (cell :: rest) count) (cell :: rest))
    (kind : cell.kind = .prose) (sound : Sound cell) (rest_sound : ∀ other ∈ rest, Sound other)
    (code : ∀ other ∈ rest.head?, other.kind ≠ .prose) :
    Unopened ((cellLines cell).map dropReturn) := by
  rcases cellLines_prose_cases kind (sound.prose kind) with
    unopened | ⟨opener, first, tail, valid, split, render, unopened⟩
  · exact unopened
  · have step := @readOn_opened done cell first tail opener valid split render
      (restLines rest count)
    rw [restLines_cons] at reads
    cases folds : isOutputFence opener &&
        (awaits done && (List.replicate cell.leading.length []).all Text.isBlank) with
    | false =>
      rw [addFence_cell folds, addGap_replicate] at step
      have same := congrArg Prod.fst (reads.head step).1
      exact absurd (same.trans kind) nofun
    | true =>
      simp only [Bool.and_eq_true] at folds
      obtain ⟨output, awaiting, blank⟩ := folds
      obtain ⟨previous, earlier, rfl, _, added⟩ := addFence_output output awaiting blank
        (Block.bodySpan (tail.map dropReturn ++ restLines rest count)).1
      rw [added] at step
      exact absurd (reads.withOutput step) (not_readsAs_behind_opener kind sound valid split render
        unopened rest_sound code (awaits_withOutput ..))

/-- The cell is read as itself, and the others are read behind it. -/
theorem ReadsAs.step (reads : ReadsAs done (restLines (cell :: rest) count) (cell :: rest))
    (sound : ∀ other ∈ cell :: rest, Sound other) (apart : (cell :: rest).IsChain ProseApart)
    (quiet : Quiet cell) :
    (awaits done = true → cell.language ≠ some Fence.outputTag) ∧ Plain cell ∧
      readOn done (restLines (cell :: rest) count) =
        readOn (reread cell :: done) (restLines rest count) := by
  obtain ⟨cell_sound, rest_sound⟩ := List.forall_mem_cons.mp sound
  obtain ⟨neighbour, apart⟩ := List.isChain_cons.mp apart
  cases kind : cell.kind with
  | code =>
    have code := cell_sound.code kind
    have free := reads.free kind code rest_sound apart
    rw [restLines_cons] at reads ⊢
    have same := (reads.head (readOn_code kind code free (restLines rest count))).1
    exact ⟨free, plain_of_gist_readCode kind same, readOn_reread kind code quiet free _⟩
  | prose =>
    have prose := cell_sound.prose kind
    have code : ∀ other ∈ rest.head?, other.kind ≠ .prose :=
      fun other member => neighbour other member kind
    have unopened := reads.unopened kind cell_sound rest_sound code
    obtain ⟨blanks, lines, rest_split, opening⟩ := documentLines_opening rest_sound code count
    have step := @readOn_unopened cell done lines kind cell_sound unopened opening blanks
    rw [restLines_cons, restLines, rest_split] at reads ⊢
    have content : ofPieces ((cellLines cell).map dropReturn) = cell.content :=
      congrArg (fun gist => gist.2.2) (reads.head step).1
    have plain := plain_of_content_eq kind cell_sound content
    refine ⟨fun _ => by rw [prose.language]; exact nofun, plain, ?_⟩
    rw [step, reread_prose kind, cellLines_of_plain kind prose plain,
      map_dropReturn_of_endsPlain plain.ends]

/-- Cells are read as themselves one by one, and the others are read behind them. -/
theorem ReadsAs.run {cells : List Cell}
    (reads : ReadsAs done (restLines (cells ++ rest) count) (cells ++ rest))
    (sound : ∀ cell ∈ cells ++ rest, Sound cell) (apart : (cells ++ rest).IsChain ProseApart)
    (quiet : ∀ cell ∈ cells, Quiet cell) :
    (awaits done = true → ∀ cell ∈ cells.head?, cell.language ≠ some Fence.outputTag) ∧
      (∀ cell ∈ cells, Plain cell) ∧ cells.IsChain Separate ∧
      ReadsAs ((cells.map reread).reverse ++ done) (restLines rest count) rest ∧
      readOn done (restLines (cells ++ rest) count) =
        readOn ((cells.map reread).reverse ++ done) (restLines rest count) := by
  induction cells generalizing done with
  | nil => exact ⟨fun _ => nofun, fun _ member => absurd member List.not_mem_nil, .nil, reads, rfl⟩
  | cons cell cells ih =>
    rw [List.cons_append] at reads sound apart
    obtain ⟨cell_quiet, others_quiet⟩ := List.forall_mem_cons.mp quiet
    obtain ⟨free, plain, step⟩ := reads.step sound apart cell_quiet
    have cell_sound := sound cell (List.mem_cons_self ..)
    obtain ⟨free', plain', separate, reads', step'⟩ := ih (reads.head step).2
      (fun other member => sound other (List.mem_cons_of_mem _ member)) apart.of_cons others_quiet
    have joined : ((cell :: cells).map reread).reverse ++ done =
        (cells.map reread).reverse ++ reread cell :: done := by
      rw [List.map_cons, List.reverse_cons, List.append_assoc, List.singleton_append]
    rw [joined]
    refine ⟨?_, List.forall_mem_cons.mpr ⟨plain, plain'⟩, ?_, reads', step.trans step'⟩
    · rintro awaiting other ⟨⟩
      exact free awaiting
    · rw [List.isChain_cons]
      refine ⟨fun next member => ⟨fun prose => ?_, fun lacks => ?_⟩, separate⟩
      · apply (List.isChain_cons.mp apart).1 next _ prose
        rw [List.head?_append, Option.mem_def.mp member]
        rfl
      · have code := code_of_lacksOutput lacks
        exact free' ((awaits_reread code (cell_sound.code code)).trans lacks) next member

end Steps

end Notebook.Document
