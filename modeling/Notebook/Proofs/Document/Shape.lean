import Notebook.Proofs.Document.Trimmed

/-! # Cells that keep their shape

The shape of a cell is what it says: its kind, language, directive and content; without the
directive it is the gist of the cell. When a written document is read as cells of the same gists,
each of its cells was read as itself: its content is plain and nothing else was taken for its
output. A cell that is read differently would shift or shorten what follows, and no later cell makes
up for it.
-/

namespace Notebook.Document

open Text

/-- What a cell says, apart from its spacing, its fences and its output. -/
def shape (cell : Cell) : CellKind × Option Text × Option Directive × Text :=
  (cell.kind, cell.language, cell.directive, cell.content)

/-- What a cell holds, whatever it asks for: its kind, language and content. -/
def gist (cell : Cell) : CellKind × Option Text × Text :=
  (cell.kind, cell.language, cell.content)

theorem untrailed_gist : Untrailed gist := fun _ _ => rfl

theorem unwritten_gist : Unwritten gist := fun _ _ _ => rfl

theorem unwritten_shape : Unwritten shape := fun _ _ _ => rfl

theorem map_gist_of_map_shape {cells others : List Cell}
    (same : cells.map shape = others.map shape) : cells.map gist = others.map gist := by
  have forgotten := congrArg (List.map fun shape => (shape.1, shape.2.1, shape.2.2.2)) same
  rwa [List.map_map, List.map_map] at forgotten

/-- The lines are read, behind cells that have been read, as cells of the same gists. -/
def ReadsAs (done : List Cell) (lines : List Text) (cells : List Cell) : Prop :=
  (readOn done lines).map gist = (done.reverse ++ cells).map gist

/-- Prose does not follow prose. -/
def ProseApart (cell next : Cell) : Prop := cell.kind = .prose → next.kind ≠ .prose

/-! ## One cell read -/

section Steps

variable {done cells : List Cell} {cell : Cell} {lines : List Text}

/-- The next cell that is read has the gist of the next cell. -/
theorem ReadsAs.head {next : Cell} {rest : List Text} (reads : ReadsAs done lines (cell :: cells))
    (step : readOn done lines = readOn (next :: done) rest) :
    gist next = gist cell ∧ ReadsAs (next :: done) rest cells := by
  rw [ReadsAs, step] at reads
  have kept := isPrefix_map_read untrailed_gist unwritten_gist (outline rest) (next :: done)
  rw [← readOn, reads, List.reverse_cons, List.map_append, List.map_append,
    List.prefix_append_right_inj, List.map_singleton, List.map_cons, List.cons_prefix_cons] at kept
  refine ⟨kept.1, ?_⟩
  rw [ReadsAs, reads]
  simp [kept.1]

/-- Where only empty lines are left no cell is read. -/
theorem not_readsAs_replicate (count : Nat) :
    ¬ ReadsAs done (List.replicate count []) (cell :: cells) := by
  intro reads
  have length := congrArg List.length reads
  rw [readOn_replicate, map_finish untrailed_gist] at length
  simp at length

/-- A blank stretch and a fence are not read as prose. -/
theorem not_readsAs_prose {gap : List Text} (unopened : Unopened gap)
    (blank : gap.all Text.isBlank = true) (opening : Opening lines) (idle : awaits done = false)
    (kind : cell.kind = .prose) : ¬ ReadsAs done (gap ++ lines) (cell :: cells) := by
  intro reads
  have none := (addGap_cells_nil_iff gap).mpr blank
  cases lines with
  | nil =>
    have length := congrArg List.length reads
    rw [List.append_nil, readOn_gap unopened, addGap_eq, none, map_finish untrailed_gist] at length
    simp at length
  | cons line rest =>
    obtain ⟨opener, opens⟩ := Option.ne_none_iff_exists'.mp (opening line rfl)
    obtain ⟨valid, rfl⟩ := Fence.opener?_eq_some_iff.mp opens
    have step := @readOn_opener done gap opener unopened valid rest
    rw [addFence_cell (by rw [idle, Bool.false_and, Bool.and_false]), addGap_eq, none,
      List.nil_append] at step
    have same := congrArg Prod.fst (reads.head step).1
    exact absurd (same.trans kind) nofun

/-- Prose is read from the lines before the next fence, without the empty lines around it. -/
theorem ReadsAs.gap {gap : List Text} (reads : ReadsAs done (gap ++ lines) (cell :: cells))
    (unopened : Unopened gap) (whole : ∀ line ∈ gap, '\n' ∉ line) (opening : Opening lines)
    (idle : awaits done = false) (kind : cell.kind = .prose) :
    ∃ before after,
      gap = List.replicate before [] ++ cell.content.pieces ++ List.replicate after [] := by
  cases blank : gap.all Text.isBlank with
  | true => exact absurd reads (not_readsAs_prose unopened blank opening idle kind)
  | false =>
    rcases gap_cases gap with ⟨count, rfl⟩ | ⟨before, middle, after, framed, rfl⟩
    · rw [all_isBlank_replicate] at blank
      cases blank
    · rw [all_isBlank_framed] at blank
      have inside : ∀ line ∈ middle,
          line ∈ List.replicate before [] ++ middle ++ List.replicate after [] :=
        fun line member => List.mem_append_left _ (List.mem_append_right _ member)
      have step := @readOn_prose done middle lines framed
        (fun line member => unopened line (inside line member)) blank opening before after
      rw [List.append_assoc, List.append_assoc] at reads
      have content : ofPieces middle = cell.content :=
        congrArg (fun gist => gist.2.2) (reads.head step).1
      refine ⟨before, after, ?_⟩
      rw [← content, pieces_ofPieces (fun line member => whole line (inside line member))]
      obtain ⟨first, rest, rfl, _⟩ := framed.first
      exact List.cons_ne_nil _ _

end Steps

/-! ## Code -/

section Code

variable {cell : Cell}

theorem tally_map_dropReturn_bodyLines (cell : Cell) (p : Char → Bool) (newline : p '\n' = false)
    (same : ofPieces ((bodyLines cell).map dropReturn) = cell.content) :
    tally p ((bodyLines cell).map dropReturn) = tally p (bodyLines cell) := by
  rw [← countP_ofPieces newline, same, ← ofPieces_bodyLines, countP_ofPieces newline]

/-- Code that is read as it was is plain. -/
theorem plain_of_gist_readCode (kind : cell.kind = .code)
    (same : gist (readCode cell) = gist cell) : Plain cell := by
  have content : ofPieces ((bodyLines cell).map dropReturn) = cell.content :=
    congrArg (fun gist => gist.2.2) same
  have ends : EndsPlain (bodyLines cell) := by
    intro line member last
    have lost := @tally_dropReturn_lt (· ≠ '\n') (by decide) _ _ member last
    rw [tally_map_dropReturn_bodyLines cell _ (by decide) content] at lost
    exact absurd lost (Nat.lt_irrefl _)
  refine ⟨?_, fun prose => by rw [kind] at prose; cases prose⟩
  rw [bodyLines] at ends
  split_ifs at ends with empty
  · rw [empty.1, pieces_nil]
    intro line member
    rw [List.mem_singleton.mp member]
    decide
  · exact ends

theorem shape_readCode (kind : cell.kind = .code) (sound : SoundCode cell) (plain : Plain cell) :
    shape (readCode cell) = shape cell := by
  have content : (readCode cell).content = cell.content := by
    have body := map_dropReturn_of_endsPlain (endsPlain_bodyLines plain)
    exact (congrArg ofPieces body).trans (ofPieces_bodyLines cell)
  rw [shape, shape, language_readCode sound, directive_readCode sound, content, kind]
  rfl

/-- A sound and plain cell keeps its shape. -/
theorem shape_reread (sound : Sound cell) (plain : Plain cell) :
    shape (reread cell) = shape cell := by
  cases kind : cell.kind with
  | prose =>
    have content : (Reading.proseCell cell.leading.length cell.content.pieces).content =
        cell.content := ofPieces_pieces cell.content
    rw [reread_prose kind, shape, shape, content, kind, (sound.prose kind).language,
      (sound.prose kind).directive]
    rfl
  | code =>
    cases kept : keptOutput cell with
    | none => rw [reread_code_none kind kept, shape_readCode kind (sound.code kind) plain]
    | some output =>
      rw [reread_code_some kind kept, unwritten_shape, shape_readCode kind (sound.code kind) plain]

end Code

/-! ## Prose -/

section Prose

variable {cell : Cell}

/-- Written prose is read as lines that open no fence, or its first line opens one. -/
theorem cellLines_prose_cases (kind : cell.kind = .prose) (sound : SoundProse cell) :
    Unopened ((cellLines cell).map dropReturn) ∨
      ∃ (opener : Fence.Opener) (first : Text) (tail : List Text), opener.Valid ∧
        cellLines cell = first :: tail ∧ dropReturn first = opener.render ∧
        Unopened (tail.map dropReturn) := by
  obtain ⟨first, tail, split⟩ := List.exists_cons_of_ne_nil (pieces_ne_nil (cellText cell))
  have others := unopened_tail_cellLines kind sound
  rw [← cellLines] at split
  rw [split, List.tail_cons] at others
  cases opens : Fence.opener? (dropReturn first) with
  | none =>
    left
    rw [split, List.map_cons, Unopened, List.forall_mem_cons]
    exact ⟨opens, unopened_map_dropReturn others⟩
  | some opener =>
    obtain ⟨valid, render⟩ := Fence.opener?_eq_some_iff.mp opens
    exact .inr ⟨opener, first, tail, valid, split, render, unopened_map_dropReturn others⟩

/-- Written prose that opens no fence is read as prose. -/
theorem readOn_unopened {done : List Cell} {lines : List Text} (kind : cell.kind = .prose)
    (sound : Sound cell) (unopened : Unopened ((cellLines cell).map dropReturn))
    (opening : Opening lines) (after : Nat) :
    readOn done (List.replicate cell.leading.length [] ++
        ((cellLines cell).map dropReturn ++ (List.replicate after [] ++ lines))) =
      readOn (Reading.proseCell cell.leading.length ((cellLines cell).map dropReturn) :: done)
        (List.replicate after [] ++ lines) := by
  apply readOn_prose (framed_map_dropReturn kind sound) unopened _ opening
  have visible := (sound.prose kind).visible
  rw [← isBlank_trimBreaks, ← ofPieces_pieces (trimBreaks cell.content), isBlank_prose,
    ← cellLines_prose kind] at visible
  rw [List.all_map, ← visible]
  exact congrArg (List.all (cellLines cell)) (funext fun line => Fence.isBlank_dropReturn line)

theorem newline_not_mem_map_dropReturn {cells : List Cell} {line : Text}
    (member : line ∈ (documentLines cells).map dropReturn) : '\n' ∉ line := by
  obtain ⟨line, present, rfl⟩ := List.mem_map.mp member
  exact not_mem_dropReturn (newline_not_mem_documentLines present)

end Prose

end Notebook.Document
