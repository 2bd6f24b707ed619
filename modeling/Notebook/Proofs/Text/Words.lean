import Notebook.Proofs.Text.Lines

/-! # Words of a text

A word ends at the first blank behind it. What follows a word without a blank belongs to it.
-/

namespace Notebook.Text

/-- The text is not empty and has no blanks. -/
def isWord (text : Text) : Bool :=
  text ≠ [] && text.all fun c => !Notebook.isBlank c

variable {word gap : Text}

theorem isWord_iff : word.isWord = true ↔ word ≠ [] ∧ ∀ c ∈ word, Notebook.isBlank c = false := by
  simp [isWord]

theorem words_append_blank {c : Char} (blank : Notebook.isBlank c = true) (before after : Text) :
    words (before ++ c :: after) = words before ++ words after := by
  rw [words, List.splitOnP_append_cons _ _ blank, List.filter_append]
  rfl

theorem words_blank_append (blank : gap.isBlank = true) (text : Text) :
    words (gap ++ text) = words text := by
  induction gap with
  | nil => rfl
  | cons c gap ih =>
    obtain ⟨here, behind⟩ := List.forall_mem_cons.mp (List.all_eq_true.mp blank)
    have first := words_append_blank here [] (gap ++ text)
    exact first.trans (ih (List.all_eq_true.mpr behind))

theorem words_of_word (isWord : word.isWord = true) : words word = [word] := by
  obtain ⟨filled, visible⟩ := isWord_iff.mp isWord
  rw [words, List.splitOnP_eq_singleton visible, List.filter_cons_of_pos (by simpa using filled)]
  rfl

/-- A word with blanks behind it. -/
theorem words_word_gap (isWord : word.isWord = true) (blank : gap.isBlank = true)
    (apart : gap ≠ []) (text : Text) : words (word ++ (gap ++ text)) = word :: words text := by
  obtain ⟨c, gap, rfl⟩ := List.exists_cons_of_ne_nil apart
  obtain ⟨here, behind⟩ := List.forall_mem_cons.mp (List.all_eq_true.mp blank)
  rw [List.cons_append, words_append_blank here, words_of_word isWord,
    words_blank_append (List.all_eq_true.mpr behind)]
  rfl

/-- A word that the text goes on with is the start of the first word. -/
theorem exists_words_start (word : Text) (isWord : word.isWord = true) (text : Text) :
    ∃ more others, words (word ++ text) = (word ++ more) :: others := by
  induction text generalizing word with
  | nil => exact ⟨[], [], by rw [List.append_nil, words_of_word isWord]⟩
  | cons c text ih =>
    cases blank : Notebook.isBlank c with
    | true =>
      refine ⟨[], words text, ?_⟩
      rw [words_append_blank blank, words_of_word isWord, List.append_nil]
      rfl
    | false =>
      have longer : (word ++ [c]).isWord = true := by
        obtain ⟨filled, visible⟩ := isWord_iff.mp isWord
        refine isWord_iff.mpr ⟨List.append_ne_nil_of_left_ne_nil filled [c], ?_⟩
        exact List.forall_mem_append.mpr ⟨visible, List.forall_mem_singleton.mpr blank⟩
      obtain ⟨more, others, split⟩ := ih (word ++ [c]) longer
      refine ⟨c :: more, others, ?_⟩
      rw [List.append_cons, split, ← List.append_cons]

end Notebook.Text
