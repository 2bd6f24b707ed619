import Notebook.Proofs.Document.RoundTrip

/-! # Texts that are fixed by reading and writing

A text that is not empty comes back from reading and writing exactly when it has several lines, no
empty line in front, no carriage return at the end of a line or the start of prose, and is
canonical. What was written once is written again as it is under this condition only, which does
not hold of everything that is written: a document of one line is read as nothing, a carriage
return is taken off the end of a line each time, and an output that is left out brings the cell
before it next to a `text` block that was none of its own.
-/

namespace Notebook.Document

open Text

/-- The text is one that the writer writes and the reader reads line by line. -/
structure Settled (text : Text) : Prop where
  broken : '\n' ∈ text
  starts : text.head? ≠ some '\n'
  ends : EndsPlain text.pieces
  plain : (outline text.pieces).startsPlain = true
  canonical : Canonical text

/-! ## Lines of settled outlines -/

theorem newline_not_mem_documentLines {cells : List Cell} {line : Text}
    (member : line ∈ documentLines cells) : '\n' ∉ line := by
  obtain ⟨cell, _, member⟩ := List.mem_flatMap.mp member
  rcases List.mem_append.mp member with member | member
  · exact newline_not_mem_replicate member
  · exact newline_not_mem_of_mem_pieces member

theorem newline_not_mem_settledGap {gap : List Text} {line : Text}
    (member : line ∈ settledGap gap) : '\n' ∉ line := by
  rcases List.mem_append.mp member with member | member
  · exact newline_not_mem_documentLines member
  · exact newline_not_mem_replicate member

theorem newline_not_mem_fenceLines {opener : Fence.Opener} {body : List Text}
    (indent : '\n' ∉ opener.indent) (info : '\n' ∉ opener.info)
    (whole : ∀ line ∈ body, '\n' ∉ line) : ∀ line ∈ fenceLines opener body, '\n' ∉ line := by
  intro line member
  simp only [fenceLines, List.mem_cons, List.mem_append, List.not_mem_nil, or_false] at member
  rcases member with rfl | member | rfl
  · exact newline_not_mem_render indent info
  · exact whole line member
  · exact newline_not_mem_closing indent

theorem newline_not_mem_settledFence {gap : List Text} {opener : Fence.Opener}
    (valid : opener.Valid) (opens : '\n' ∉ opener.render) {body : List Text}
    (whole : ∀ line ∈ body, '\n' ∉ line) (awaiting : Bool) :
    ∀ line ∈ settledFence awaiting gap opener body, '\n' ∉ line := by
  intro line member
  have indent := newline_not_mem_indent valid.indent
  rw [Fence.Opener.render, List.mem_append, not_or] at opens
  rw [settledFence] at member
  split_ifs at member with folds empty
  · exact absurd member List.not_mem_nil
  · rcases List.mem_cons.mp member with rfl | member
    · exact List.not_mem_nil
    · exact @newline_not_mem_fenceLines ⟨opener.indent, Fence.outputTag⟩ body indent
        (show '\n' ∉ Fence.outputTag by decide) whole line member
  · rcases List.mem_append.mp member with member | member
    · exact newline_not_mem_settledGap member
    · exact newline_not_mem_fenceLines indent opens.2 whole line member

theorem newline_not_mem_settle (outline : Outline) (scanned : outline.Scanned)
    (whole : ∀ line ∈ outline.lines, '\n' ∉ line) (awaiting : Bool) :
    ∀ line ∈ outline.settle awaiting, '\n' ∉ line := by
  induction outline generalizing awaiting with
  | outside gap => exact fun line member => newline_not_mem_settledGap member
  | unclosed gap opener body =>
    obtain ⟨_, opens, body_whole⟩ := Outline.forall_lines_unclosed.mp whole
    exact newline_not_mem_settledFence scanned.2.1 opens body_whole awaiting
  | fenced gap opener body closer rest ih =>
    obtain ⟨_, valid, _, _, scanned⟩ := scanned
    obtain ⟨_, opens, body_whole, _, rest_whole⟩ := Outline.forall_lines_fenced.mp whole
    exact List.forall_mem_append.mpr
      ⟨newline_not_mem_settledFence valid opens body_whole awaiting, ih scanned rest_whole _⟩

/-! ## Carriage returns -/

/-- The character is a carriage return. -/
def isReturn (c : Char) : Bool := c = '\r'

theorem countP_isReturn_eq_zero_iff {text : Text} : text.countP isReturn = 0 ↔ '\r' ∉ text := by
  rw [List.countP_eq_zero]
  constructor
  · exact fun other member => other '\r' member rfl
  · exact fun absent c member same => absent (of_decide_eq_true same ▸ member)

theorem tally_settledGap_le (gap : List Text) :
    tally isReturn (settledGap gap) ≤ tally isReturn gap := by
  rcases gap_cases gap with ⟨count, rfl⟩ | ⟨before, middle, after, framed, rfl⟩
  · rw [settledGap_replicate]
  · cases blank : middle.all Text.isBlank with
    | true =>
      rw [settledGap_blank framed blank, tally_replicate]
      exact Nat.zero_le _
    | false =>
      have kept := (trimBreaks_sublist (ofPieces middle)).countP_le (p := isReturn)
      rw [countP_eq_tally (by decide), countP_ofPieces (by decide)] at kept
      rw [settledGap_visible framed blank]
      simp only [tally_append]
      omega

theorem countP_closing {indent : Text} (valid : indent ∈ Fence.indents) :
    (Fence.closing indent).countP isReturn = 0 := by
  revert indent
  decide

theorem tally_fenceLines {opener : Fence.Opener} (valid : opener.indent ∈ Fence.indents)
    (body : List Text) :
    tally isReturn (fenceLines opener body) =
      opener.render.countP isReturn + tally isReturn body := by
  rw [fenceLines, tally_cons, tally_append, tally_cons, tally_nil, countP_closing valid]
  omega

theorem tally_settledFence_le {gap : List Text} {opener : Fence.Opener} (valid : opener.Valid)
    (awaiting : Bool) (body : List Text) :
    tally isReturn (settledFence awaiting gap opener body) ≤
      tally isReturn gap + opener.render.countP isReturn + tally isReturn body := by
  rw [settledFence]
  split_ifs with folds empty
  · exact Nat.zero_le _
  · have tag : (⟨opener.indent, Fence.outputTag⟩ : Fence.Opener).render.countP isReturn = 0 := by
      rw [Fence.Opener.render, List.countP_append]
      exact Nat.add_eq_zero_iff.mpr
        ⟨countP_closing valid.indent, show Fence.outputTag.countP isReturn = 0 by decide⟩
    have block := @tally_fenceLines ⟨opener.indent, Fence.outputTag⟩ valid.indent body
    rw [tally_cons, block, tag, List.countP_nil]
    omega
  · have before := tally_settledGap_le gap
    rw [tally_append, tally_fenceLines valid.indent]
    omega

/-- No carriage return is added. -/
theorem tally_settle_le (outline : Outline) (scanned : outline.Scanned) (awaiting : Bool) :
    tally isReturn (outline.settle awaiting) ≤ tally isReturn outline.lines := by
  induction outline generalizing awaiting with
  | outside gap => exact tally_settledGap_le gap
  | unclosed gap opener body =>
    have bound := @tally_settledFence_le gap opener scanned.2.1 awaiting body
    rw [Outline.settle, Outline.lines, tally_append, tally_cons]
    omega
  | fenced gap opener body closer rest ih =>
    obtain ⟨_, valid, _, _, scanned⟩ := scanned
    have bound := @tally_settledFence_le gap opener valid awaiting body
    have tail := ih scanned (!isOutputFence opener)
    rw [Outline.settle, Outline.lines, tally_append, tally_append, tally_cons, tally_append,
      tally_cons]
    omega

/-! ## Fixed points -/

/-- Behind a line that is no empty line, what is written starts with the lines that are kept. -/
theorem dropWhile_settledGap_append {gap tail others : List Text}
    (whole : ∀ line ∈ gap, '\n' ∉ line) (ends : EndsPlain gap)
    (visible : ∀ line ∈ tail.head?, line ≠ []) (absent : ∀ line ∈ tail.head?, line ∉ gap)
    (first : ∃ line rest, gap ++ others = line :: rest ∧ line ≠ [])
    (same : (settledGap gap ++ tail).dropWhile List.isEmpty = gap ++ others) :
    settledGap gap ++ tail = gap ++ others := by
  obtain ⟨line, rest, start, filled⟩ := first
  rcases settledGap_cases whole ends with ⟨count, rfl, settled⟩ | ⟨count, _, nonempty, settled⟩ |
    ⟨before, head, lines, _, head_visible, rfl, settled⟩
  · cases count with
    | zero => rwa [settled, List.replicate_zero, List.nil_append, dropWhile_isEmpty_of_head visible]
        at same
    | succ count => exact absurd (List.cons.inj start).1.symm filled
  · rw [settled, dropWhile_isEmpty_replicate, dropWhile_isEmpty_of_head visible] at same
    cases gap with
    | nil => simp at nonempty
    | cons line gap =>
      rw [same] at absent
      exact absurd (List.mem_cons_self ..) (absent line rfl)
  · cases before with
    | succ before => exact absurd (List.cons.inj start).1.symm filled
    | zero =>
      rw [List.replicate_zero, List.nil_append] at settled whole ends
      have kept := dropWhile_isLineBreak_ne_nil (whole head (List.mem_cons_self ..))
        (ends head (List.mem_cons_self ..)) head_visible
      rw [List.replicate_zero, List.nil_append, settled, List.nil_append] at same ⊢
      rwa [List.cons_append, dropWhile_isEmpty_of_head] at same
      rintro other ⟨⟩
      exact kept

theorem settledFence_false (gap : List Text) (opener : Fence.Opener) (body : List Text) :
    settledFence false gap opener body = settledGap gap ++ fenceLines opener body := by
  simp [settledFence]

/-- Empty lines that are written in front of a document do not make up for lines that differ. -/
theorem dropWhile_settle_eq_lines (outline : Outline) (scanned : outline.Scanned)
    (whole : ∀ line ∈ outline.lines, '\n' ∉ line) (ends : EndsPlain outline.lines)
    (first : ∃ line rest, outline.lines = line :: rest ∧ line ≠ [])
    (same : (outline.settle false).dropWhile List.isEmpty = outline.lines) :
    outline.settle false = outline.lines := by
  cases outline with
  | outside gap =>
    have step := @dropWhile_settledGap_append gap [] [] whole ends (by simp) (by simp)
    rw [List.append_nil, List.append_nil] at step
    exact step first same
  | unclosed gap opener body =>
    obtain ⟨unopened, valid, _⟩ := scanned
    rw [Outline.settle, settledFence_false] at same ⊢
    refine dropWhile_settledGap_append (Outline.forall_lines_unclosed.mp whole).1
      (Outline.forall_lines_unclosed.mp ends).1 ?_ ?_ first same
    · rintro line ⟨⟩
      exact render_ne_nil opener
    · rintro line ⟨⟩
      exact render_not_mem unopened valid
  | fenced gap opener body closer rest =>
    obtain ⟨unopened, valid, _⟩ := scanned
    rw [Outline.settle, settledFence_false, List.append_assoc] at same ⊢
    refine dropWhile_settledGap_append (Outline.forall_lines_fenced.mp whole).1
      (Outline.forall_lines_fenced.mp ends).1 ?_ ?_ first same
    · rintro line ⟨⟩
      exact render_ne_nil opener
    · rintro line ⟨⟩
      exact render_not_mem unopened valid

theorem parse_of_not_mem {text : Text} (unbroken : '\n' ∉ text) : parse text = [] := by
  have short : (readerLines text).length < 2 := by
    rw [readerLines, List.length_map, pieces_of_not_mem unbroken, List.length_singleton]
    decide
  rw [parse, if_pos short]

theorem head?_ofPieces_dropWhile {lines : List Text} (whole : ∀ line ∈ lines, '\n' ∉ line) :
    (ofPieces (lines.dropWhile List.isEmpty)).head? ≠ some '\n' := by
  rcases eq_or_ne lines [] with rfl | filled
  · simp
  · have stops := List.head?_dropWhile_not (· = '\n') (ofPieces lines)
    rw [← ofPieces_dropWhile_pieces, pieces_ofPieces whole filled] at stops
    intro starts
    rw [starts] at stops
    simp at stops

theorem newline_not_mem_writtenLines (text : Text) : ∀ line ∈ writtenLines text, '\n' ∉ line := by
  refine newline_not_mem_settle _ (scanned_outline _) ?_ false
  rw [lines_outline]
  exact fun line member => newline_not_mem_readerLines member

theorem head?_serialize_parse (text : Text) : (serialize (parse text)).head? ≠ some '\n' := by
  by_cases broken : '\n' ∈ text
  · rw [serialize_parse (two_le_length_pieces.mpr broken)]
    exact head?_ofPieces_dropWhile (newline_not_mem_writtenLines text)
  · rw [parse_of_not_mem broken]
    exact fun starts => by cases starts

/-- No carriage return is written that was not read. -/
theorem countP_serialize_parse_le {text : Text} (broken : '\n' ∈ text) :
    (serialize (parse text)).countP isReturn ≤ tally isReturn (readerLines text) := by
  have kept := tally_settle_le _ (scanned_outline ((readerLines text).dropWhile List.isEmpty))
    false
  have before := @tally_dropWhile_le isReturn (readerLines text)
  have after := @tally_dropWhile_le isReturn (writtenLines text)
  rw [lines_outline] at kept
  rw [serialize_parse (two_le_length_pieces.mpr broken), countP_ofPieces (by decide)]
  exact after.trans (kept.trans before)

/-- The reader takes a carriage return off, and none is put back. -/
theorem endsPlain_of_serialize_parse {text : Text} (broken : '\n' ∈ text)
    (same : serialize (parse text) = text) : EndsPlain text.pieces := by
  intro line member last
  have lost := tally_dropReturn_lt (show isReturn '\r' = true from rfl) member last
  have kept := countP_serialize_parse_le broken
  rw [same, countP_eq_tally (by decide)] at kept
  exact absurd kept (Nat.not_le_of_lt lost)

/-- A text that the reader reads line by line comes back as it was exactly when it is canonical and
its prose starts plainly. -/
theorem serialize_parse_eq_self_of_endsPlain {text : Text} (broken : '\n' ∈ text)
    (starts : text.head? ≠ some '\n') (ends : EndsPlain text.pieces) :
    serialize (parse text) = text ↔
      Canonical text ∧ (outline text.pieces).startsPlain = true := by
  have filled : text ≠ [] := List.ne_nil_of_mem broken
  obtain ⟨first, rest, split, visible⟩ := pieces_head filled starts
  have head : ∀ line ∈ text.pieces.head?, line ≠ [] := by
    rw [split]
    rintro line ⟨⟩
    exact visible
  have written : writtenLines text = (outline text.pieces).settle false := by
    rw [writtenLines, readerLines, map_dropReturn_of_endsPlain ends, dropWhile_isEmpty_of_head head]
  have scanned := scanned_outline text.pieces
  have whole : ∀ line ∈ (outline text.pieces).lines, '\n' ∉ line := by
    rw [lines_outline]
    exact fun line member => newline_not_mem_of_mem_pieces member
  have unchanged := settle_eq_lines_iff _ scanned whole (by rwa [lines_outline]) false
  have behind := dropWhile_settle_eq_lines _ scanned whole (by rwa [lines_outline])
    (by rw [lines_outline]; exact ⟨first, rest, split, visible⟩)
  rw [lines_outline, ← written] at unchanged behind
  rw [serialize_parse (two_le_length_pieces.mpr broken), Canonical, ← unchanged]
  constructor
  · intro same
    apply behind
    conv_rhs => rw [← same]
    rw [pieces_ofPieces]
    · exact fun line member =>
        newline_not_mem_writtenLines text line ((List.dropWhile_sublist _).subset member)
    · intro empty
      rw [empty] at same
      exact filled same.symm
  · intro lines
    rw [lines, dropWhile_isEmpty_of_head head, ofPieces_pieces]

/-- A text comes back as it was exactly when it is empty or settled. -/
theorem serialize_parse_eq_self_iff (text : Text) :
    serialize (parse text) = text ↔ text = [] ∨ Settled text := by
  by_cases broken : '\n' ∈ text
  swap
  · rw [parse_of_not_mem broken]
    exact ⟨fun empty => .inl empty.symm,
      fun state => state.elim Eq.symm fun settled => absurd settled.broken broken⟩
  constructor
  · intro same
    have starts : text.head? ≠ some '\n' := by
      rw [← same]
      exact head?_serialize_parse text
    have ends := endsPlain_of_serialize_parse broken same
    obtain ⟨canonical, plain⟩ := (serialize_parse_eq_self_of_endsPlain broken starts ends).mp same
    exact .inr ⟨broken, starts, ends, plain, canonical⟩
  · rintro (empty | settled)
    · exact absurd empty (List.ne_nil_of_mem broken)
    · exact (serialize_parse_eq_self_of_endsPlain broken settled.starts settled.ends).mpr
        ⟨settled.canonical, settled.plain⟩

end Notebook.Document
