import Notebook.Fence
import Notebook.Proofs.Text.Lines

/-! # Fence lines

A line opens a block exactly when it is the rendering of an opener with one of three indentations
and an info text with a visible character. Every opening line would also close a block that is
open, the line written to close a block opens none, and neither reading depends on a carriage
return at the end of the line.
-/

namespace Notebook.Fence

open Text

/-- What may stand before the mark of an opener. -/
def indents : List Text := [[], ['\t'], "    "]

/-- The line that is written to close a block. -/
def closing (indent : Text) : Text := indent ++ mark

/-- The opener is one that a line can be read as. -/
structure Opener.Valid (opener : Opener) : Prop where
  indent : opener.indent ∈ indents
  visible : opener.info.isBlank = false

theorem mark_eq : mark = ['`', '`', '`'] := rfl

theorem isBlank_indent {indent : Text} (valid : indent ∈ indents) : indent.isBlank = true := by
  revert indent
  decide

private theorem unindent_append {indent : Text} (valid : indent ∈ indents) (rest : Text) :
    unindent (indent ++ mark ++ rest) = (indent, mark ++ rest) := by
  simp only [indents, List.mem_cons, List.not_mem_nil, or_false] at valid
  rcases valid with rfl | rfl | rfl <;> rfl

private theorem unindent_spec (line : Text) :
    (unindent line).1 ∈ indents ∧ line = (unindent line).1 ++ (unindent line).2 := by
  unfold unindent
  split
  · next rest found =>
    rw [List.isPrefixOf?_eq_some_iff_append_eq] at found
    exact ⟨by simp [indents], found.symm⟩
  · split
    · next rest found =>
      rw [List.isPrefixOf?_eq_some_iff_append_eq] at found
      exact ⟨by simp [indents], found.symm⟩
    · exact ⟨by simp [indents], rfl⟩

/-- A line is read as an opener exactly when it renders one that is valid. -/
theorem opener?_eq_some_iff {line : Text} {opener : Opener} :
    opener? line = some opener ↔ opener.Valid ∧ line = opener.render := by
  constructor
  · intro found
    unfold opener? at found
    obtain ⟨member, split⟩ := unindent_spec line
    generalize unindent line = parts at found member split
    obtain ⟨indent, rest⟩ := parts
    dsimp only at found member split
    split at found
    · next info marked =>
      rw [List.isPrefixOf?_eq_some_iff_append_eq] at marked
      split_ifs at found with blank
      cases found
      refine ⟨⟨member, Bool.eq_false_iff.mpr blank⟩, ?_⟩
      rw [split, ← marked, Opener.render, List.append_assoc]
    · cases found
  · rintro ⟨valid, rfl⟩
    have marked : mark.isPrefixOf? (mark ++ opener.info) = some opener.info :=
      List.isPrefixOf?_eq_some_iff_append_eq.mpr rfl
    rw [opener?, Opener.render, unindent_append valid.indent]
    simp only [marked, valid.visible, Bool.false_eq_true, ↓reduceIte]

theorem opener?_render {opener : Opener} (valid : opener.Valid) :
    opener? opener.render = some opener :=
  opener?_eq_some_iff.mpr ⟨valid, rfl⟩

/-! ## Closing lines -/

theorem isCloser_marked {indent : Text} (blank : indent.isBlank = true) (rest : Text) :
    isCloser (indent ++ mark ++ rest) = true := by
  have start : trimStart (mark ++ rest) = mark ++ rest := rfl
  rw [isCloser, List.append_assoc, trimStart_append blank, start]
  exact List.isPrefixOf_iff_prefix.mpr (List.prefix_append _ _)

theorem isCloser_of_opener? {line : Text} {opener : Opener} (opens : opener? line = some opener) :
    isCloser line = true := by
  obtain ⟨valid, rfl⟩ := opener?_eq_some_iff.mp opens
  exact isCloser_marked (isBlank_indent valid.indent) _

theorem opener?_of_not_isCloser {line : Text} (closes : isCloser line = false) :
    opener? line = none := by
  rw [Option.eq_none_iff_forall_ne_some]
  intro opener opens
  rw [isCloser_of_opener? opens] at closes
  cases closes

theorem isCloser_closing {indent : Text} (valid : indent ∈ indents) :
    isCloser (closing indent) = true := by
  have marked := isCloser_marked (isBlank_indent valid) []
  rwa [List.append_nil] at marked

/-- The line that closes a block opens none. -/
theorem opener?_closing {indent : Text} (valid : indent ∈ indents) :
    opener? (closing indent) = none := by
  have read := unindent_append valid []
  rw [List.append_nil] at read
  rw [closing, opener?, read]
  rfl

theorem isCloser_of_isBlank {line : Text} (blank : line.isBlank = true) :
    isCloser line = false := by
  rw [isCloser, trimStart_eq_nil_iff.mpr blank]
  rfl

/-! ## Carriage returns -/

theorem isBlank_dropReturn (line : Text) : (dropReturn line).isBlank = line.isBlank := by
  have return_blank : Notebook.isBlank '\r' = true := by decide
  rcases dropReturn_cases line with same | split
  · rw [same]
  · conv_rhs => rw [split]
    simp [Text.isBlank, return_blank]

theorem dropReturn_append {start rest : Text} (filled : rest ≠ []) :
    dropReturn (start ++ rest) = start ++ dropReturn rest := by
  by_cases ends : rest.getLast? = some '\r'
  · obtain ⟨before, rfl⟩ := List.getLast?_eq_some_iff.mp ends
    rw [← List.append_assoc, dropReturn_concat, dropReturn_concat]
  · rw [dropReturn_of_getLast? ends, dropReturn_of_getLast?]
    rwa [List.getLast?_append_of_ne_nil _ filled]

theorem isCloser_dropReturn (line : Text) : isCloser (dropReturn line) = isCloser line := by
  rcases dropReturn_cases line with same | split
  · rw [same]
  · conv_rhs => rw [split]
    by_cases blank : (dropReturn line).isBlank = true
    · rw [isCloser_of_isBlank blank, isCloser_of_isBlank]
      rw [← split, ← isBlank_dropReturn]
      exact blank
    · have start : trimStart (dropReturn line ++ ['\r']) = trimStart (dropReturn line) ++ ['\r'] := by
        rw [trimStart, List.dropWhile_append, trimStart, if_neg]
        rw [List.isEmpty_iff]
        exact fun empty => blank (trimStart_eq_nil_iff.mp empty)
      rw [isCloser, isCloser, start, mark_eq]
      rcases trimStart (dropReturn line) with _ | ⟨a, _ | ⟨b, _ | ⟨c, rest⟩⟩⟩ <;> simp [List.isPrefixOf]

theorem Opener.render_dropReturn {opener : Opener} (valid : opener.Valid) :
    dropReturn opener.render = (⟨opener.indent, dropReturn opener.info⟩ : Opener).render := by
  have filled : opener.info ≠ [] := by
    intro empty
    have visible := valid.visible
    rw [empty] at visible
    cases visible
  rw [Opener.render, dropReturn_append filled]
  rfl

theorem Opener.Valid.dropReturn {opener : Opener} (valid : opener.Valid) :
    (⟨opener.indent, Text.dropReturn opener.info⟩ : Opener).Valid :=
  ⟨valid.indent, by rw [isBlank_dropReturn]; exact valid.visible⟩

theorem opener?_dropReturn_eq_none {line : Text} (opens : opener? line = none) :
    opener? (dropReturn line) = none := by
  rcases dropReturn_cases line with same | split
  · rwa [same]
  · rw [Option.eq_none_iff_forall_ne_some]
    intro opener found
    obtain ⟨valid, read⟩ := opener?_eq_some_iff.mp found
    have longer : opener? line = some ⟨opener.indent, opener.info ++ ['\r']⟩ := by
      rw [opener?_eq_some_iff]
      refine ⟨⟨valid.indent, ?_⟩, ?_⟩
      · rw [← isBlank_dropReturn, dropReturn_concat]
        exact valid.visible
      · rw [split, read, Opener.render, Opener.render, List.append_assoc]
    rw [opens] at longer
    cases longer

end Notebook.Fence
