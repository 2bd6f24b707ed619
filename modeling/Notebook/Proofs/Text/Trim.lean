import Notebook.Proofs.Text.Lines

/-! # Trimming and cutting

Trimming takes off blanks at the ends and nothing else, so that a trimmed text is left alone and one
more blank at the end makes no difference. A cut finds the first occurrence of a character, and what
is added at the end goes to the part behind it.
-/

namespace Notebook.Text

/-! ## Trimming -/

theorem not_mem_of_isBlank {text : Text} {c : Char} (blank : text.isBlank = true)
    (visible : Notebook.isBlank c = false) : c ∉ text := by
  intro member
  rw [List.all_eq_true.mp blank c member] at visible
  cases visible

theorem isBlank_takeWhile (text : Text) : isBlank (text.takeWhile Notebook.isBlank) = true :=
  List.all_eq_true.mpr fun _ member => List.mem_takeWhile_imp member

theorem trimEnd_concat {c : Char} (blank : Notebook.isBlank c = true) (text : Text) :
    (text ++ [c]).trimEnd = text.trimEnd := by
  rw [trimEnd, dropEndWhile_concat, if_pos blank]
  rfl

theorem trimStart_concat {text : Text} (visible : text.isBlank = false) (c : Char) :
    (text ++ [c]).trimStart = text.trimStart ++ [c] := by
  rw [trimStart, List.dropWhile_append, if_neg]
  · rfl
  · rw [List.isEmpty_iff]
    intro empty
    rw [trimStart_eq_nil_iff.mp empty] at visible
    cases visible

/-- A blank at the end makes no difference. -/
theorem trim_concat {c : Char} (blank : Notebook.isBlank c = true) (text : Text) :
    (text ++ [c]).trim = text.trim := by
  cases visible : text.isBlank with
  | true =>
    rw [trim_eq_nil_iff.mpr visible, trim_eq_nil_iff, isBlank, List.all_append, List.all_cons,
      blank]
    rw [isBlank] at visible
    rw [visible]
    rfl
  | false => rw [trim, trimStart_concat visible, trimEnd_concat blank, trim]

theorem trim_append_of_isBlank {after : Text} (blank : after.isBlank = true) (text : Text) :
    (text ++ after).trim = text.trim := by
  induction after using List.reverseRecOn with
  | nil => rw [List.append_nil]
  | append_singleton after c ih =>
    rw [isBlank, List.all_append, Bool.and_eq_true, List.all_cons, List.all_nil,
      Bool.and_true] at blank
    rw [← List.append_assoc, trim_concat blank.2, ih blank.1]

theorem trimEnd_trimEnd (text : Text) : text.trimEnd.trimEnd = text.trimEnd := by
  simp only [trimEnd, dropEndWhile_eq_rdropWhile, List.rdropWhile_idempotent]

theorem trimEnd_append {after : Text} (blank : after.isBlank = true) (text : Text) :
    (text ++ after).trimEnd = text.trimEnd := by
  simp only [trimEnd, dropEndWhile_eq_rdropWhile, List.rdropWhile, List.reverse_append]
  rw [List.dropWhile_append_of_pos]
  intro c member
  exact List.all_eq_true.mp blank c (List.mem_reverse.mp member)

/-- What trimming takes off the end is blank. -/
theorem exists_trimEnd_append (text : Text) :
    ∃ after, text = text.trimEnd ++ after ∧ after.isBlank = true := by
  refine ⟨text.rtakeWhile Notebook.isBlank, ?_, ?_⟩
  · rw [trimEnd, dropEndWhile_eq_rdropWhile, List.rdropWhile_append_rtakeWhile]
  · exact List.all_eq_true.mpr fun c member => List.mem_rtakeWhile_imp member

theorem trimEnd_eq_self_of_trim {text : Text} (trimmed : text.trim = text) :
    text.trimEnd = text := by
  rw [← trimmed, trim, trimEnd_trimEnd]

/-- A trimmed text starts with a character that is not blank. -/
theorem head?_trim {text : Text} {c : Char} (first : text.trim.head? = some c) :
    Notebook.isBlank c = false := by
  have start := List.rdropWhile_prefix Notebook.isBlank text.trimStart
  rw [← dropEndWhile_eq_rdropWhile] at start
  obtain ⟨rest, split⟩ := start
  have head : text.trimStart.head? = some c := by
    rw [← split, List.head?_append]
    rw [trim, trimEnd] at first
    rw [first]
    rfl
  have stops := List.head?_dropWhile_not Notebook.isBlank text
  rw [trimStart] at head
  rw [head] at stops
  simpa using stops

theorem getLast?_of_trimEnd {text : Text} {c : Char} (trimmed : text.trimEnd = text)
    (last : text.getLast? = some c) : Notebook.isBlank c = false := by
  rw [trimEnd, dropEndWhile_eq_rdropWhile, List.rdropWhile_eq_self_iff] at trimmed
  have filled : text ≠ [] := by
    rintro rfl
    cases last
  have stops := trimmed filled
  rw [List.getLast?_eq_some_getLast filled, Option.some_inj] at last
  rwa [last, Bool.not_eq_true] at stops

theorem trim_trim (text : Text) : text.trim.trim = text.trim := by
  have start : text.trim.trimStart = text.trim := by
    cases split : text.trim with
    | nil => rfl
    | cons c rest =>
      have visible := head?_trim (show text.trim.head? = some c by rw [split]; rfl)
      exact List.dropWhile_cons_of_neg (by simp [visible])
  conv_lhs => rw [trim, start, trim, trimEnd_trimEnd]
  rfl

/-- A trimmed text that is not empty behind one that starts visibly gives a trimmed text. -/
theorem trim_append {start rest : Text} {c : Char} (visible : Notebook.isBlank c = false)
    (filled : rest ≠ []) (trimmed : rest.trimEnd = rest) :
    trim (c :: start ++ rest) = c :: start ++ rest := by
  have front : trimStart (c :: start ++ rest) = c :: start ++ rest :=
    List.dropWhile_cons_of_neg (by simp [visible])
  rw [trim, front, trimEnd, dropEndWhile_eq_rdropWhile, List.rdropWhile_eq_self_iff]
  intro _
  have last := List.getLast?_eq_some_getLast filled
  have stops := getLast?_of_trimEnd trimmed last
  rw [List.getLast_append_of_ne_nil _ filled, stops]
  exact Bool.false_ne_true

theorem trimEnd_concat_of_visible {c : Char} (visible : Notebook.isBlank c = false) (text : Text) :
    (text ++ [c]).trimEnd = text ++ [c] := by
  rw [trimEnd, dropEndWhile_concat, if_neg (by rw [visible]; exact Bool.false_ne_true)]

/-- A word is left alone, and blanks behind it are taken off. -/
theorem trim_append_blank {word after : Text}
    (visible : ∀ c ∈ word, Notebook.isBlank c = false) (blank : after.isBlank = true) :
    (word ++ after).trim = word := by
  have ends : word.trimEnd = word := by
    rw [trimEnd, dropEndWhile_eq_rdropWhile, List.rdropWhile_eq_self_iff]
    intro filled
    rw [visible _ (List.getLast_mem filled)]
    exact Bool.false_ne_true
  cases word with
  | nil => exact trim_eq_nil_iff.mpr blank
  | cons c word =>
    have starts : trimStart (c :: word ++ after) = c :: word ++ after :=
      List.dropWhile_cons_of_neg (by simp [visible c (List.mem_cons_self ..)])
    rw [trim, starts, trimEnd_append blank, ends]

theorem trimEnd_append_of_visible {c : Char} (visible : Notebook.isBlank c = false)
    (start rest : Text) : (start ++ c :: rest).trimEnd = start ++ c :: rest.trimEnd := by
  induction rest using List.reverseRecOn with
  | nil => exact trimEnd_concat_of_visible visible start
  | append_singleton rest d ih =>
    rw [← List.cons_append, ← List.append_assoc]
    cases blank : Notebook.isBlank d with
    | true => rw [trimEnd_concat blank, trimEnd_concat blank, ih]
    | false =>
      rw [trimEnd_concat_of_visible blank, trimEnd_concat_of_visible blank, List.append_assoc,
        List.cons_append]

section Infix

variable {part text : Text} {c : Char}

theorem infix_trimStart (starts : part.head? = some c) (visible : Notebook.isBlank c = false)
    (inside : part <:+: text) : part <:+: text.trimStart := by
  obtain ⟨before, after, rfl⟩ := inside
  obtain ⟨rest, rfl⟩ := List.head?_eq_some_iff.mp starts
  have stays : (c :: rest ++ after).dropWhile Notebook.isBlank = c :: rest ++ after :=
    List.dropWhile_cons_of_neg (by simp [visible])
  rw [trimStart, List.append_assoc, List.dropWhile_append, stays]
  split
  · exact (List.prefix_append ..).isInfix
  · exact List.infix_append' ..

theorem infix_trimEnd (ends : part.getLast? = some c) (visible : Notebook.isBlank c = false)
    (inside : part <:+: text) : part <:+: text.trimEnd := by
  obtain ⟨before, after, rfl⟩ := inside
  obtain ⟨start, rfl⟩ := List.getLast?_eq_some_iff.mp ends
  have whole : before ++ (start ++ [c]) ++ after = (before ++ start) ++ c :: after := by simp
  rw [whole, trimEnd_append_of_visible visible]
  exact ⟨before, trimEnd after, by simp⟩

end Infix

theorem trimEnd_isPrefix (text : Text) : text.trimEnd <+: text := by
  rw [trimEnd, dropEndWhile_eq_rdropWhile]
  exact List.rdropWhile_prefix _ _

theorem mem_head?_of_trimEnd {text : Text} : ∀ c ∈ text.trimEnd.head?, c ∈ text.head? := by
  intro c first
  obtain ⟨more, split⟩ := trimEnd_isPrefix text
  rw [← split, List.head?_append, Option.mem_def, Option.or_eq_some_iff]
  exact .inl first

theorem trim_isInfix (text : Text) : text.trim <:+: text :=
  (trimEnd_isPrefix _).isInfix.trans (List.dropWhile_suffix _).isInfix

theorem trim_sublist (text : Text) : text.trim.Sublist text :=
  (trim_isInfix text).sublist

/-- What is not blank is not trimmed off. -/
theorem mem_trim {text : Text} {c : Char} (visible : Notebook.isBlank c = false)
    (member : c ∈ text) : c ∈ text.trim := by
  have dropped : ∀ {list : Text}, c ∈ list → c ∈ list.dropWhile Notebook.isBlank := by
    intro list member
    rw [← List.takeWhile_append_dropWhile (p := Notebook.isBlank) (l := list)] at member
    refine (List.mem_append.mp member).resolve_left fun blank => ?_
    rw [List.mem_takeWhile_imp blank] at visible
    cases visible
  rw [trim, trimEnd, dropEndWhile_eq_rdropWhile, List.rdropWhile, List.mem_reverse]
  exact dropped (List.mem_reverse.mpr (dropped member))

/-- More text at the end leaves what trimming has left, once that is something. -/
theorem trim_prefix_trim {text longer : Text} (visible : text.isBlank = false)
    (first : text <+: longer) : text.trim <+: longer.trim := by
  obtain ⟨more, rfl⟩ := first
  induction more using List.reverseRecOn with
  | nil => simp
  | append_singleton more c ih =>
    rw [← List.append_assoc]
    cases blank : Notebook.isBlank c with
    | true => rwa [trim_concat blank]
    | false =>
      have whole : isBlank (text ++ more) = false := by
        rw [isBlank] at visible ⊢
        rw [List.all_append, visible, Bool.false_and]
      have grown : trim (text ++ more ++ [c]) = (text ++ more).trimStart ++ [c] := by
        rw [trim, trimStart_concat whole, trimEnd_concat_of_visible blank]
      rw [grown]
      exact ih.trans ((trimEnd_isPrefix _).trans (List.prefix_append _ _))

/-- More text at the end leaves what trimming has left. -/
theorem trim_infix_trim_append (text more : Text) : text.trim <:+: trim (text ++ more) := by
  cases blank : text.isBlank with
  | true =>
    rw [trim_eq_nil_iff.mpr blank]
    exact List.nil_infix
  | false => exact (trim_prefix_trim blank (List.prefix_append text more)).isInfix

theorem trim_trimEnd (text : Text) : text.trimEnd.trim = text.trim := by
  obtain ⟨after, split, blank⟩ := exists_trimEnd_append text
  conv_rhs => rw [split, trim_append_of_isBlank blank]

/-! ## Cutting -/

section Cut

variable {mark : Char} {text before after : Text}

theorem cut?_append (absent : mark ∉ before) (after : Text) :
    cut? mark (before ++ mark :: after) = some (before, after) := by
  induction before with
  | nil => rw [List.nil_append, cut?, if_pos rfl]
  | cons c before ih =>
    rw [List.mem_cons, not_or] at absent
    rw [List.cons_append, cut?, if_neg (Ne.symm absent.1), ih absent.2]
    rfl

theorem cut?_eq_none_iff : cut? mark text = none ↔ mark ∉ text := by
  induction text with
  | nil => simp [cut?]
  | cons c text ih =>
    rw [cut?, List.mem_cons, not_or]
    split_ifs with same
    · simp [same]
    · rw [Option.map_eq_none_iff, ih, and_iff_right (Ne.symm same)]

theorem cut?_eq_some_iff :
    cut? mark text = some (before, after) ↔ text = before ++ mark :: after ∧ mark ∉ before := by
  refine ⟨fun found => ?_, fun ⟨split, absent⟩ => by rw [split, cut?_append absent]⟩
  induction text generalizing before with
  | nil => cases found
  | cons c text ih =>
    rw [cut?] at found
    split_ifs at found with same
    · cases found
      exact ⟨by rw [same]; rfl, List.not_mem_nil⟩
    · obtain ⟨⟨start, rest⟩, cut, parts⟩ := Option.map_eq_some_iff.mp found
      cases parts
      obtain ⟨rfl, absent⟩ := ih cut
      exact ⟨rfl, by rw [List.mem_cons, not_or]; exact ⟨Ne.symm same, absent⟩⟩

/-- What is added at the end goes to the part behind the mark. -/
theorem cut?_concat {c : Char} (other : c ≠ mark) (text : Text) :
    cut? mark (text ++ [c]) = (cut? mark text).map fun (before, after) => (before, after ++ [c]) := by
  cases found : cut? mark text with
  | none =>
    rw [Option.map_none, cut?_eq_none_iff, List.mem_append, not_or, List.mem_singleton]
    exact ⟨cut?_eq_none_iff.mp found, Ne.symm other⟩
  | some parts =>
    obtain ⟨before, after⟩ := parts
    obtain ⟨rfl, absent⟩ := cut?_eq_some_iff.mp found
    rw [Option.map_some, List.append_assoc, List.cons_append, cut?_append absent]

end Cut

end Notebook.Text
