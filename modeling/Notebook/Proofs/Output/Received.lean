import Notebook.Proofs.Output.Alignment
import Notebook.Proofs.Text.Decoding

/-! # Output that is cut off in a character

The text of the bytes received so far is the beginning of every later one as long as the bytes are
well-formed, wherever they are cut. Once a sequence is malformed, a character that is cut off at the
end is shown as a replacement character, which is taken back when the rest of its bytes comes.
-/

namespace Notebook.Output

open Utf8

/-- The text with a replacement character for each malformed sequence. -/
def shownText (chars : List (Option Char)) : Text :=
  chars.map (·.getD replacement)

/-- A character under way is shown if and only if a malformed sequence stands ahead of it. -/
theorem decode_eq (bytes : List UInt8) :
    decode bytes = shownText (run none bytes).chars ++
      if (run none bytes).pending.isSome ∧ none ∈ (run none bytes).chars then [replacement]
      else [] := by
  by_cases malformed : none ∈ (run none bytes).chars
  · have found : (run none bytes).chars.contains none = true := List.contains_iff_mem.mpr malformed
    rw [decode, found, Bool.not_true, Bool.and_false, if_neg Bool.false_ne_true, decodeLossy]
    simp only [malformed, and_true]
    rfl
  · obtain ⟨text, chars⟩ := exists_map_some malformed
    rw [decode_of_chars chars, if_neg (fun both => malformed both.2), chars, shownText,
      List.map_map, List.append_nil]
    exact (List.map_id text).symm

/-- What is shown for a character under way stays if and only if what comes next does not complete
it, or completes a replacement character. -/
theorem decode_prefix_append_iff {bytes : List UInt8} {pending : Pending}
    (cut : (run none bytes).pending = some pending) (malformed : none ∈ (run none bytes).chars)
    (more : List UInt8) :
    decode bytes <+: decode (bytes ++ more) ↔
      ∀ c, (run (some pending) more).chars.head? = some (some c) → c = replacement := by
  have behind := List.mem_append_left (run (some pending) more).chars malformed
  rw [decode_eq, decode_eq, run_append, cut, shownText, shownText, List.map_append,
    List.append_assoc, List.prefix_append_right_inj, if_pos ⟨rfl, malformed⟩]
  cases later : (run (some pending) more).chars with
  | nil =>
    obtain ⟨_, _, _, under, _⟩ := exists_under bytes
    rw [cut] at under
    have waits := under.isSome_pending_run later
    rw [later] at behind
    rw [if_pos ⟨waits, behind⟩]
    exact iff_of_true List.prefix_rfl nofun
  | cons char? rest =>
    rw [List.map_cons, List.cons_append, List.cons_prefix_cons]
    cases char? with
    | none => exact iff_of_true ⟨rfl, List.nil_prefix⟩ nofun
    | some c =>
      constructor
      · rintro ⟨same, _⟩ d read
        obtain rfl := Option.some_inj.mp (Option.some_inj.mp read)
        exact same.symm
      · intro same
        exact ⟨(same c rfl).symm, List.nil_prefix⟩

/-- More bytes take back what was shown if and only if the bytes were malformed and ended inside a
character whose other bytes come next; only a replacement character may come in this way and change
nothing. In well-formed bytes a character that is cut off at the end is left out, in others it is
shown as malformed. -/
theorem decode_cut_off (bytes more : List UInt8) :
    (decode bytes <+: decode (bytes ++ more) ↔
      IsWellFormed bytes ∨ ∀ start part rest c, bytes = start ++ part → SplitsChar c part rest →
        rest <+: more → c = replacement) ∧
      ∀ start part rest c, bytes = start ++ part → SplitsChar c part rest →
        (IsWellFormed bytes → decode bytes = decodeLossy start) ∧
          (¬IsWellFormed bytes → decode bytes = decodeLossy start ++ [replacement]) := by
  constructor
  · have grows : ¬((run none bytes).pending.isSome = true ∧ none ∈ (run none bytes).chars) →
        decode bytes <+: decode (bytes ++ more) := by
      intro shown
      rw [decode_eq, decode_eq, if_neg shown, List.append_nil, run_append, shownText, shownText,
        List.map_append, List.append_assoc]
      exact List.prefix_append _ _
    by_cases wellFormed : IsWellFormed bytes
    · refine iff_of_true (grows fun both => ?_) (.inl wellFormed)
      exact none_mem_chars_run_iff.mp both.2 wellFormed
    rw [or_iff_right wellFormed]
    have malformed := none_mem_chars_run_iff.mpr wellFormed
    cases cut : (run none bytes).pending with
    | none =>
      refine iff_of_true (grows fun both => ?_) fun start part rest c split splits _ => ?_
      · rw [cut] at both
        exact absurd both.1 Bool.false_ne_true
      · obtain ⟨pending, _, same⟩ := splits.run_eq start
        rw [split, same] at cut
        cases cut
    | some pending =>
      rw [decode_prefix_append_iff cut malformed]
      constructor
      · intro stays start part rest c split splits next
        obtain ⟨pending, under, same⟩ := splits.run_eq start
        rw [split, same] at cut
        obtain rfl := Option.some_inj.mp cut
        exact stays c (under.head?_chars_run_iff.mpr ⟨rest, next, splits⟩)
      · intro stays c read
        obtain ⟨start, part, split, under, _⟩ := exists_under bytes
        rw [cut] at under
        obtain ⟨rest, next, splits⟩ := under.head?_chars_run_iff.mp read
        exact stays start part rest c split splits next
  · rintro start part rest c rfl splits
    obtain ⟨pending, _, same⟩ := splits.run_eq start
    have ahead : shownText (run none (start ++ part)).chars = decodeLossy start := by
      rw [same, shownText, decodeLossy, List.map_append]
      split_ifs <;> rfl
    rw [decode_eq, ahead, same]
    constructor
    · intro wellFormed
      rw [if_neg, List.append_nil]
      exact fun both => none_mem_chars_run_iff.mp (same ▸ both.2) wellFormed
    · intro malformed
      rw [if_pos]
      exact ⟨rfl, same ▸ none_mem_chars_run_iff.mpr malformed⟩

/-- A byte that is malformed comes first, and the two bytes of a letter come one by one. -/
theorem decode_cut_off_letter :
    decode [0xFF, 0xC3] = "\ufffd\ufffd" ∧ decode ([0xFF, 0xC3] ++ [0xA9]) = "\ufffdé" ∧
      ¬decode [0xFF, 0xC3] <+: decode ([0xFF, 0xC3] ++ [0xA9]) := by
  decide

end Notebook.Output
