import Mathlib.Data.List.Infix
import Notebook.Text.Basic

/-! # Phrases of a text

A phrase occurs in a text if it is a stretch of it. A cut at a phrase is made at the first
occurrence, and there is none before the first character that the phrase starts with. Occurrences at
the start are left out up to the first text that does not start with the phrase.
-/

namespace Notebook.Text

variable {text phrase before : Text}

theorem isPrefixOf?_cons_of_ne {c d : Char} (differ : c ≠ d) (phrase rest : Text) :
    (c :: phrase).isPrefixOf? (d :: rest) = none := by
  rw [List.isPrefixOf?, beq_eq_false_iff_ne.mpr differ]
  rfl

theorem hasPhrase_iff : text.hasPhrase phrase = true ↔ phrase <:+: text := by
  rw [hasPhrase]
  induction text with
  | nil =>
    cases phrase with
    | nil => exact iff_of_true rfl (List.infix_refl _)
    | cons d phrase => simp [cutPhrase?, List.isPrefixOf?]
  | cons c rest ih =>
    rw [List.infix_cons_iff, ← ih, cutPhrase?]
    cases opens : phrase.isPrefixOf? (c :: rest) with
    | some after => simp [← List.isPrefixOf?_eq_some_iff_append_eq.mp opens]
    | none =>
      have apart : ¬phrase <+: c :: rest := by
        rw [← List.isPrefixOf_iff_prefix, ← List.isSome_isPrefixOf?_eq_isPrefixOf, opens]
        exact Bool.false_ne_true
      simp [apart]

theorem hasPhrase_eq_false_iff : text.hasPhrase phrase = false ↔ ¬phrase <:+: text := by
  rw [← hasPhrase_iff, Bool.not_eq_true]

/-- No occurrence starts ahead of the first character that the phrase starts with. -/
theorem cutPhrase?_append {c : Char} (absent : c ∉ before) (after : Text) :
    (before ++ (c :: phrase ++ after)).cutPhrase? (c :: phrase) = some (before, after) := by
  induction before with
  | nil =>
    have opens : (c :: phrase).isPrefixOf? (c :: phrase ++ after) = some after :=
      List.isPrefixOf?_eq_some_iff_append_eq.mpr rfl
    rw [List.nil_append, cutPhrase?.eq_def, opens]
  | cons d before ih =>
    rw [List.mem_cons, not_or] at absent
    rw [List.cons_append, cutPhrase?, isPrefixOf?_cons_of_ne absent.1]
    dsimp only
    rw [ih absent.2]
    rfl

/-! ## Occurrences at the start -/

section Leading

variable {rest : Text} (apart : phrase.isPrefixOf? rest = none)

include apart

theorem dropRepeated_append {count bound : Nat} (enough : count ≤ bound) :
    dropRepeated phrase bound ((List.replicate count phrase).flatten ++ rest) = rest := by
  induction count generalizing bound with
  | zero =>
    rw [List.replicate_zero, List.flatten_nil, List.nil_append]
    cases bound with
    | zero => rfl
    | succ bound => rw [dropRepeated, apart]
  | succ count ih =>
    cases bound with
    | zero => exact absurd enough (Nat.not_succ_le_zero count)
    | succ bound =>
      rw [List.replicate_succ, List.flatten_cons, List.append_assoc, dropRepeated,
        List.isPrefixOf?_eq_some_iff_append_eq.mpr rfl]
      exact ih (Nat.le_of_succ_le_succ enough)

theorem dropLeading_append (filled : phrase ≠ []) (count : Nat) :
    dropLeading ((List.replicate count phrase).flatten ++ rest) phrase = rest := by
  apply dropRepeated_append apart
  rw [List.length_append, List.length_flatten, List.map_replicate, List.sum_replicate_nat]
  have enough := Nat.le_mul_of_pos_right count (List.length_pos_of_ne_nil filled)
  omega

end Leading

theorem exists_dropRepeated (phrase : Text) (bound : Nat) (text : Text) :
    ∃ count, text = (List.replicate count phrase).flatten ++ dropRepeated phrase bound text := by
  induction bound generalizing text with
  | zero => exact ⟨0, rfl⟩
  | succ bound ih =>
    rw [dropRepeated]
    cases starts : phrase.isPrefixOf? text with
    | none => exact ⟨0, rfl⟩
    | some rest =>
      obtain ⟨count, split⟩ := ih rest
      refine ⟨count + 1, ?_⟩
      dsimp only
      rw [List.replicate_succ, List.flatten_cons, List.append_assoc, ← split]
      exact (List.isPrefixOf?_eq_some_iff_append_eq.mp starts).symm

end Notebook.Text
