import Mathlib.Data.List.ModifyLast
import Notebook.Proofs.Text.Trim

/-! # Indentation

Trimming a text keeps the lines from the first visible one to the last one. The first of them loses
its indentation, and each other one keeps its own.
-/

namespace Notebook.Text

/-- The number of blanks that a line starts with. -/
def indentation (line : Text) : Nat :=
  (line.takeWhile Notebook.isBlank).length

/-- The lines from the first visible one to the last one. -/
def bodyLines (text : Text) : List Text :=
  (text.pieces.dropWhile isBlank).rdropWhile isBlank

section Line

variable {line : Text}

/-- A visible line is blanks and then a character that is not blank. -/
theorem exists_indent (visible : line.isBlank = false) :
    ∃ (indent rest : Text) (c : Char), line = indent ++ c :: rest ∧ indent.isBlank = true ∧
      Notebook.isBlank c = false := by
  cases behind : line.dropWhile Notebook.isBlank with
  | nil =>
    rw [trimStart_eq_nil_iff.mp behind] at visible
    cases visible
  | cons c rest =>
    refine ⟨line.takeWhile Notebook.isBlank, rest, c, ?_, isBlank_takeWhile line, ?_⟩
    · rw [← behind, List.takeWhile_append_dropWhile]
    · have stops := List.head?_dropWhile_not Notebook.isBlank line
      rw [behind] at stops
      simpa using stops

theorem trimStart_indent {indent rest : Text} {c : Char} (blank : indent.isBlank = true)
    (visible : Notebook.isBlank c = false) : trimStart (indent ++ c :: rest) = c :: rest := by
  rw [trimStart_append blank, trimStart, List.dropWhile_cons_of_neg (by simp [visible])]

theorem indentation_indent {indent rest : Text} {c : Char} (blank : indent.isBlank = true)
    (visible : Notebook.isBlank c = false) :
    indentation (indent ++ c :: rest) = indent.length := by
  rw [indentation, List.takeWhile_append_of_pos (List.all_eq_true.mp blank),
    List.takeWhile_cons_of_neg (by simp [visible]), List.append_nil]

theorem indentation_cons {c : Char} (visible : Notebook.isBlank c = false) (rest : Text) :
    indentation (c :: rest) = 0 :=
  @indentation_indent [] rest c rfl visible

/-- What follows a visible line makes no difference to its indentation. -/
theorem indentation_append (visible : line.isBlank = false) (more : Text) :
    indentation (line ++ more) = line.indentation := by
  obtain ⟨indent, rest, c, rfl, blank, shown⟩ := exists_indent visible
  rw [List.append_assoc, List.cons_append, indentation_indent blank shown,
    indentation_indent blank shown]

theorem trimStart_append_of_visible (visible : line.isBlank = false) (more : Text) :
    trimStart (line ++ more) = line.trimStart ++ more := by
  obtain ⟨indent, rest, c, rfl, blank, shown⟩ := exists_indent visible
  rw [List.append_assoc, List.cons_append, trimStart_indent blank shown,
    trimStart_indent blank shown, List.cons_append]

theorem trimEnd_append_visible (visible : line.isBlank = false) (start : Text) :
    trimEnd (start ++ line) = start ++ line.trimEnd := by
  obtain ⟨indent, rest, c, rfl, _, shown⟩ := exists_indent visible
  rw [← List.append_assoc, trimEnd_append_of_visible shown, trimEnd_append_of_visible shown,
    List.append_assoc]

theorem isBlank_trimStart (line : Text) : line.trimStart.isBlank = line.isBlank := by
  cases visible : line.isBlank with
  | true => rw [trimStart_eq_nil_iff.mpr visible]; rfl
  | false =>
    obtain ⟨indent, rest, c, rfl, blank, shown⟩ := exists_indent visible
    rw [trimStart_indent blank shown, isBlank, List.all_cons, shown, Bool.false_and]

theorem isBlank_trimEnd (line : Text) : line.trimEnd.isBlank = line.isBlank := by
  obtain ⟨after, split, blank⟩ := exists_trimEnd_append line
  rw [isBlank] at blank
  conv_rhs => rw [split, isBlank, List.all_append, blank, Bool.and_true]
  rfl

theorem indentation_trimStart (line : Text) : line.trimStart.indentation = 0 := by
  cases visible : line.isBlank with
  | true => rw [trimStart_eq_nil_iff.mpr visible]; rfl
  | false =>
    obtain ⟨indent, rest, c, rfl, blank, shown⟩ := exists_indent visible
    rw [trimStart_indent blank shown, indentation_cons shown]

theorem indentation_trimEnd (visible : line.isBlank = false) :
    line.trimEnd.indentation = line.indentation := by
  obtain ⟨after, split, _⟩ := exists_trimEnd_append line
  conv_rhs => rw [split, indentation_append ((isBlank_trimEnd line).trans visible)]

end Line

/-! ## Lines of a text -/

theorem trimStart_ofPieces {before : List Text} (blank : ∀ line ∈ before, line.isBlank = true)
    {first : Text} (visible : first.isBlank = false) (rest : List Text) :
    trimStart (ofPieces (before ++ first :: rest)) = ofPieces (first.trimStart :: rest) := by
  induction before with
  | nil =>
    obtain ⟨after, joined⟩ := ofPieces_cons_append [] rest
    have shift (line : Text) : ofPieces (line :: rest) = line ++ after := by
      simpa using joined line
    rw [List.nil_append, shift, shift, trimStart_append_of_visible visible]
  | cons line before ih =>
    rw [List.forall_mem_cons] at blank
    have start : isBlank (line ++ ['\n']) = true := by
      rw [isBlank, List.all_append, ← isBlank, blank.1]
      rfl
    rw [List.cons_append, ofPieces_cons (by simp), List.append_cons, trimStart_append start,
      ih blank.2]

theorem trimEnd_ofPieces {after : List Text} (blank : ∀ line ∈ after, line.isBlank = true)
    {last : Text} (visible : last.isBlank = false) (lines : List Text) :
    trimEnd (ofPieces (lines ++ [last] ++ after)) = ofPieces (lines ++ [last.trimEnd]) := by
  induction after using List.reverseRecOn with
  | nil =>
    rw [List.append_nil]
    cases lines with
    | nil => rw [List.nil_append, List.nil_append, ofPieces_singleton, ofPieces_singleton]
    | cons line lines =>
      rw [ofPieces_concat (List.cons_ne_nil _ _), ofPieces_concat (List.cons_ne_nil _ _),
        List.append_cons, trimEnd_append_visible visible, List.append_assoc]
      rfl
  | append_singleton after line ih =>
    rw [List.forall_mem_append, List.forall_mem_singleton] at blank
    have finish : isBlank ('\n' :: line) = true := blank.2
    rw [← List.append_assoc, ofPieces_concat (by simp), trimEnd_append finish, ih blank.1]

theorem bodyLines_of_isBlank {text : Text} (blank : text.isBlank = true) : text.bodyLines = [] := by
  have start : text.pieces.dropWhile isBlank = [] := by
    rw [List.dropWhile_eq_nil_iff, ← List.all_eq_true, ← isBlank_ofPieces, ofPieces_pieces, blank]
  rw [bodyLines, start, List.rdropWhile_nil]

/-- The body of a visible text starts and ends with a visible line. -/
theorem bodyLines_ends {text : Text} (visible : text.isBlank = false) :
    (∃ first rest, text.bodyLines = first :: rest ∧ first.isBlank = false) ∧
      ∃ lines last, text.bodyLines = lines ++ [last] ∧ last.isBlank = false := by
  have filled : text.bodyLines ≠ [] := by
    rw [bodyLines, Ne, List.rdropWhile_eq_nil_iff]
    intro blank
    have whole : text.pieces.all isBlank = true := by
      rw [← List.takeWhile_append_dropWhile (p := isBlank) (l := text.pieces), List.all_append,
        List.all_eq_true.mpr blank, Bool.and_true]
      exact List.all_eq_true.mpr fun line member => List.mem_takeWhile_imp member
    rw [← isBlank_ofPieces, ofPieces_pieces, visible] at whole
    cases whole
  refine ⟨?_, text.bodyLines.dropLast, text.bodyLines.getLast filled,
    (List.dropLast_append_getLast filled).symm, ?_⟩
  · obtain ⟨first, rest, split⟩ := List.exists_cons_of_ne_nil filled
    refine ⟨first, rest, split, ?_⟩
    obtain ⟨more, start⟩ := List.rdropWhile_prefix isBlank (text.pieces.dropWhile isBlank)
    have stops := List.head?_dropWhile_not isBlank text.pieces
    rw [bodyLines] at split
    rw [← start, split] at stops
    simpa using stops
  · exact Bool.not_eq_true _ ▸ List.rdropWhile_last_not isBlank _ filled

theorem newline_not_mem_bodyLines {text line : Text} (member : line ∈ text.bodyLines) :
    '\n' ∉ line := by
  have inside := (List.rdropWhile_prefix isBlank _).subset member
  exact newline_not_mem_of_mem_pieces ((List.dropWhile_sublist _).subset inside)

/-- The lines around the body are blank. -/
theorem pieces_eq_bodyLines (text : Text) :
    ∃ before after, text.pieces = before ++ (text.bodyLines ++ after) ∧
      (∀ line ∈ before, line.isBlank = true) ∧ ∀ line ∈ after, line.isBlank = true := by
  refine ⟨text.pieces.takeWhile isBlank, (text.pieces.dropWhile isBlank).rtakeWhile isBlank, ?_,
    fun line member => List.mem_takeWhile_imp member,
    fun line member => List.mem_rtakeWhile_imp member⟩
  rw [bodyLines, List.rdropWhile_append_rtakeWhile, List.takeWhile_append_dropWhile]

/-- Trimming a text trims the first line of its body at the start and the last one at the end. -/
theorem pieces_trim {text : Text} (visible : text.isBlank = false) :
    text.trim.pieces = (text.bodyLines.modifyHead trimStart).modifyLast trimEnd := by
  obtain ⟨before, after, split, blankBefore, blankAfter⟩ := pieces_eq_bodyLines text
  obtain ⟨⟨first, rest, body, shown⟩, start, last, ends, shownLast⟩ := bodyLines_ends visible
  have front : text.trimStart = ofPieces (first.trimStart :: rest ++ after) := by
    conv_lhs => rw [← ofPieces_pieces text, split, body]
    exact trimStart_ofPieces blankBefore shown (rest ++ after)
  have whole : ∀ line ∈ first.trimStart :: rest, '\n' ∉ line := by
    rw [List.forall_mem_cons]
    refine ⟨fun member => ?_, fun line member => ?_⟩
    · have inside : first ∈ text.bodyLines := body ▸ List.mem_cons_self ..
      exact newline_not_mem_bodyLines inside ((List.dropWhile_sublist _).subset member)
    · exact newline_not_mem_bodyLines (body ▸ List.mem_cons_of_mem _ member)
  obtain ⟨lines, final, finish, shownFinal⟩ : ∃ lines final,
      first.trimStart :: rest = lines ++ [final] ∧ final.isBlank = false := by
    cases start with
    | nil =>
      obtain ⟨rfl, rfl⟩ := List.cons.inj (body.symm.trans ends)
      exact ⟨[], first.trimStart, rfl, (isBlank_trimStart first).trans shown⟩
    | cons line start =>
      obtain ⟨rfl, rfl⟩ := List.cons.inj (body.symm.trans ends)
      exact ⟨first.trimStart :: start, last, rfl, shownLast⟩
  rw [trim, front, body, List.modifyHead_cons, finish, trimEnd_ofPieces blankAfter shownFinal,
    List.modifyLast_concat]
  rw [finish, List.forall_mem_append, List.forall_mem_singleton] at whole
  refine pieces_ofPieces ?_ (by simp)
  rw [List.forall_mem_append, List.forall_mem_singleton]
  exact ⟨whole.1, fun member => whole.2 ((trimEnd_isPrefix final).subset member)⟩

end Notebook.Text
