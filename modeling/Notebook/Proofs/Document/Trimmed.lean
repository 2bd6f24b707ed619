import Notebook.Proofs.Document.Image

/-! # Prose with carriage returns

Prose is written without the line breaks at its ends, and a line break can be a carriage return.
The lines that are written are lines of the prose up to carriage returns at the end of a line; only
the first one can also lose some at its start, and only that one can turn into the opener of a
fence. If none is lost, the prose is plain.
-/

namespace Notebook.Document

open Text

/-- The longer line has carriage returns behind the shorter one and is the same otherwise. -/
def Loses (short long : Text) : Prop := ∃ count, long = short ++ List.replicate count '\r'

theorem loses_refl (line : Text) : Loses line line := ⟨0, (List.append_nil line).symm⟩

theorem Loses.dropReturn_iterate {short long : Text} (loses : Loses short long) {p : Text → Prop}
    (step : ∀ line, p line → p (dropReturn line)) (holds : p long) : p short := by
  obtain ⟨count, rfl⟩ := loses
  induction count with
  | zero => rwa [List.replicate_zero, List.append_nil] at holds
  | succ count ih =>
    apply ih
    have shorter := step _ holds
    rwa [List.replicate_succ', ← List.append_assoc, dropReturn_concat] at shorter

theorem Loses.opener? {short long : Text} (loses : Loses short long)
    (unopened : Fence.opener? long = none) : Fence.opener? short = none :=
  loses.dropReturn_iterate (p := fun line => Fence.opener? line = none)
    (fun _ => Fence.opener?_dropReturn_eq_none) unopened

theorem Loses.isCloser {short long : Text} (loses : Loses short long)
    (closes : Fence.isCloser short = true) : Fence.isCloser long = true := by
  by_contra other
  rw [Bool.not_eq_true] at other
  have stays := loses.dropReturn_iterate (p := fun line => Fence.isCloser line = false)
    (fun line stays => by rw [Fence.isCloser_dropReturn, stays]) other
  rw [closes] at stays
  cases stays

theorem unopened_of_forall₂ {lines others : List Text} (related : List.Forall₂ Loses lines others)
    (unopened : Unopened others) : Unopened lines := by
  induction related with
  | nil => exact unopened
  | cons loses _ ih =>
    rw [Unopened, List.forall_mem_cons] at unopened ⊢
    exact ⟨loses.opener? unopened.1, ih unopened.2⟩

/-- Without the line breaks at its end a text has some of its lines, up to carriage returns. -/
theorem forall₂_pieces_dropEndWhile (text : Text) :
    ∃ lines rest, text.pieces = lines ++ rest ∧
      List.Forall₂ Loses (dropEndWhile isLineBreak text).pieces lines := by
  induction text with
  | nil => exact ⟨[[]], [], rfl, .cons (loses_refl []) .nil⟩
  | cons c text ih =>
    obtain ⟨lines, rest, split, related⟩ := ih
    have unfolded : dropEndWhile isLineBreak (c :: text) =
        if (dropEndWhile isLineBreak text).isEmpty && isLineBreak c then []
        else c :: dropEndWhile isLineBreak text := rfl
    rw [unfolded]
    by_cases newline : c = '\n'
    · subst newline
      rw [pieces_newline_cons, split]
      split_ifs
      · exact ⟨[[]], lines ++ rest, rfl, .cons (loses_refl []) .nil⟩
      · rw [pieces_newline_cons]
        exact ⟨[] :: lines, rest, rfl, .cons (loses_refl []) related⟩
    · obtain ⟨first, others, whole, longer⟩ := pieces_cons newline text
      obtain ⟨head, tail, shorter, kept⟩ := pieces_cons newline (dropEndWhile isLineBreak text)
      rw [shorter] at related
      obtain ⟨first', lines', loses, related', rfl⟩ := List.forall₂_cons_left_iff.mp related
      rw [split, List.cons_append] at whole
      obtain ⟨rfl, rfl⟩ := List.cons.inj whole
      rw [longer]
      split_ifs with drops
      · simp only [Bool.and_eq_true, List.isEmpty_iff] at drops
        rw [drops.1, pieces_nil] at shorter
        obtain ⟨rfl, rfl⟩ := List.cons.inj shorter
        cases related'
        have return_char : c = '\r' := by simpa [isLineBreak, newline] using drops.2
        obtain ⟨count, rfl⟩ := loses
        refine ⟨[c :: List.replicate count '\r'], rest, rfl, .cons ⟨count + 1, ?_⟩ .nil⟩
        rw [return_char]
        rfl
      · rw [kept]
        obtain ⟨count, rfl⟩ := loses
        exact ⟨(c :: (head ++ List.replicate count '\r')) :: lines', rest, rfl,
          .cons ⟨count, rfl⟩ related'⟩

/-- Only the first line changes when line breaks at the start are left out. -/
theorem unopened_tail_dropWhile {text : Text} (unopened : Unopened text.pieces.tail) :
    Unopened (pieces (text.dropWhile isLineBreak)).tail := by
  induction text with
  | nil => exact unopened
  | cons c text ih =>
    cases breaks : isLineBreak c with
    | false => rwa [List.dropWhile_cons_of_neg (by simp [breaks])]
    | true =>
      rw [List.dropWhile_cons_of_pos breaks]
      apply ih
      by_cases newline : c = '\n'
      · rw [newline, pieces_newline_cons, List.tail_cons] at unopened
        exact fun line member => unopened line (List.mem_of_mem_tail member)
      · obtain ⟨first, others, split, longer⟩ := pieces_cons newline text
        rw [longer, List.tail_cons] at unopened
        rwa [split, List.tail_cons]

/-- The first line that looks like a fence, before line breaks at the start are left out. -/
theorem find?_isCloser_dropWhile {text first : Text} {rest : List Text}
    (split : pieces (text.dropWhile isLineBreak) = first :: rest)
    (closes : Fence.isCloser first = true) :
    ∃ line, text.pieces.find? Fence.isCloser = some line ∧
      (line = first ∨ line.head? = some '\r') := by
  induction text with
  | nil =>
    obtain ⟨rfl, rfl⟩ := List.cons.inj (show [[]] = first :: rest from split)
    cases closes
  | cons c text ih =>
    cases breaks : isLineBreak c with
    | false =>
      rw [List.dropWhile_cons_of_neg (by simp [breaks])] at split
      exact ⟨first, by rw [split, List.find?_cons_of_pos closes], .inl rfl⟩
    | true =>
      rw [List.dropWhile_cons_of_pos breaks] at split
      obtain ⟨line, found, kind⟩ := ih split
      by_cases newline : c = '\n'
      · refine ⟨line, ?_, kind⟩
        rw [newline, pieces_newline_cons, List.find?_cons_of_neg (by decide), found]
      · obtain ⟨head, others, whole, longer⟩ := pieces_cons newline text
        have same : Fence.isCloser (c :: head) = Fence.isCloser head := by
          rw [← isCloser_dropWhile, List.dropWhile_cons_of_pos breaks, isCloser_dropWhile]
        rw [whole] at found
        rw [longer]
        cases marked : Fence.isCloser head with
        | true =>
          have return_char : c = '\r' := by simpa [isLineBreak, newline] using breaks
          exact ⟨c :: head, List.find?_cons_of_pos (same.trans marked), .inr (congrArg some return_char)⟩
        | false =>
          rw [List.find?_cons_of_neg (by simp [marked])] at found
          exact ⟨line, by rw [List.find?_cons_of_neg (by simp [same, marked]), found], kind⟩

/-! ## Prose as it is written and read -/

section Prose

variable {cell : Cell}

/-- Only the first line of written prose can open a fence. -/
theorem unopened_tail_cellLines (kind : cell.kind = .prose) (sound : SoundProse cell) :
    Unopened (cellLines cell).tail := by
  rw [cellLines_prose kind, trimBreaks]
  have unopened := @unopened_tail_dropWhile cell.content
    (fun line member => sound.unopened line (List.mem_of_mem_tail member))
  obtain ⟨lines, rest, split, related⟩ :=
    forall₂_pieces_dropEndWhile (cell.content.dropWhile isLineBreak)
  obtain ⟨first, others, whole⟩ := List.exists_cons_of_ne_nil
    (pieces_ne_nil (dropEndWhile isLineBreak (cell.content.dropWhile isLineBreak)))
  rw [whole] at related ⊢
  obtain ⟨long, longs, _, tails, rfl⟩ := List.forall₂_cons_left_iff.mp related
  rw [split] at unopened
  exact unopened_of_forall₂ tails
    fun line member => unopened line (List.mem_append_left rest member)

/-- If the first line of written prose is read as an opener, the first line of the prose that looks
like a fence starts with a carriage return. -/
theorem find?_isCloser_content (kind : cell.kind = .prose) (sound : SoundProse cell)
    {first : Text} {rest : List Text} (split : cellLines cell = first :: rest)
    (opens : Fence.opener? (dropReturn first) ≠ none) :
    ∃ line, cell.content.pieces.find? Fence.isCloser = some line ∧ line.head? = some '\r' := by
  rw [cellLines_prose kind, trimBreaks] at split
  obtain ⟨lines, others, whole, related⟩ :=
    forall₂_pieces_dropEndWhile (cell.content.dropWhile isLineBreak)
  rw [split] at related
  obtain ⟨long, longs, loses, _, rfl⟩ := List.forall₂_cons_left_iff.mp related
  have closes : Fence.isCloser first = true := by
    obtain ⟨opener, opens⟩ := Option.ne_none_iff_exists'.mp opens
    rw [← Fence.isCloser_dropReturn, Fence.isCloser_of_opener? opens]
  obtain ⟨line, found, same | head⟩ := find?_isCloser_dropWhile whole (loses.isCloser closes)
  · -- The line itself opens no fence, and neither does it without carriage returns at its end.
    have unopened := sound.unopened line (List.mem_of_find?_eq_some found)
    rw [same] at unopened
    exact absurd (Fence.opener?_dropReturn_eq_none (loses.opener? unopened)) opens
  · exact ⟨line, found, head⟩

/-- The written lines are framed, and so are the lines that are read. -/
theorem framed_map_dropReturn (kind : cell.kind = .prose) (sound : Sound cell) :
    Framed ((cellLines cell).map dropReturn) := by
  refine ⟨head_map_dropReturn_cellLines sound, ?_⟩
  have visible := (sound.prose kind).visible
  rw [← isBlank_trimBreaks] at visible
  have filled : trimBreaks cell.content ≠ [] := fun empty => by
    rw [empty] at visible
    cases visible
  have ends : isLineBreak ((trimBreaks cell.content).getLast filled) = false := by
    have stops := List.rdropWhile_last_not isLineBreak (cell.content.dropWhile isLineBreak)
      (by rw [← dropEndWhile_eq_rdropWhile]; exact filled)
    simp only [← dropEndWhile_eq_rdropWhile, Bool.not_eq_true] at stops
    exact stops
  have other : (trimBreaks cell.content).getLast? ≠ some '\n' ∧
      (trimBreaks cell.content).getLast? ≠ some '\r' := by
    rw [List.getLast?_eq_some_getLast filled]
    simpa [isLineBreak] using ends
  obtain ⟨rest, line, split, line_filled⟩ := pieces_last filled other.1
  have final : line.getLast? ≠ some '\r' := by
    rw [← getLast?_ofPieces rest line_filled, ← split, ofPieces_pieces]
    exact other.2
  refine ⟨rest.map dropReturn, line, ?_, line_filled⟩
  rw [cellLines_prose kind, split, List.map_append, List.map_singleton, dropReturn_of_getLast? final]

/-- Prose that is read as it was is plain. -/
theorem plain_of_content_eq (kind : cell.kind = .prose) (sound : Sound cell)
    (same : ofPieces ((cellLines cell).map dropReturn) = cell.content) : Plain cell := by
  -- All characters but newlines are counted: none can be lost.
  have written := (trimBreaks_sublist cell.content).countP_le (p := (· ≠ '\n'))
  rw [countP_eq_tally (by decide), ← cellLines_prose kind] at written
  have read := congrArg (List.countP (· ≠ '\n')) same
  rw [countP_ofPieces (by decide)] at read
  have ends : EndsPlain (cellLines cell) := by
    intro line member last
    have lost := @tally_dropReturn_lt (· ≠ '\n') (by decide) _ _ member last
    omega
  rw [map_dropReturn_of_endsPlain ends, cellLines_prose kind, ofPieces_pieces] at same
  refine ⟨?_, fun _ starts => ?_⟩
  · rwa [cellLines_prose kind, same] at ends
  · obtain ⟨c, rest, split, stops⟩ := trimBreaks_head (sound.prose kind).visible
    rw [← same, split, List.head?_cons, Option.some_inj] at starts
    rw [starts] at stops
    cases stops

end Prose

end Notebook.Document
