import Mathlib.Data.List.Basic
import Notebook.Source.Statement

/-! # Nested brackets

Reading a text keeps a stack of the brackets that are open; a closing bracket must fit the innermost
one. The size of the stack is the bracket depth that statements are grouped by, so in a text with
properly nested brackets the depth never falls below zero, and each statement is nested on its own.
-/

namespace Notebook.Source

/-! ## Open brackets -/

/-- Opening brackets with the brackets that close them. -/
def bracketPairs : List (Char × Char) := [('{', '\x7d'), ('(', ')'), ('[', ']')]

/-- Closes the innermost of the open brackets. -/
def closeInnermost? (c : Char) : List Char → Option (List Char)
  | [] => none
  | innermost :: rest => if (innermost, c) ∈ bracketPairs then some rest else none

/-- The brackets that are open after a character, the innermost first; none if it closes a bracket
that is not the innermost. -/
def bracketStep? (opened : List Char) (c : Char) : Option (List Char) :=
  if c = '{' ∨ c = '(' ∨ c = '[' then some (c :: opened)
  else if c = '\x7d' ∨ c = ')' ∨ c = ']' then closeInnermost? c opened
  else some opened

/-- A character opens a bracket, closes the innermost one, or is no bracket. -/
theorem bracketStep?_cases {opened inside : List Char} {c : Char}
    (stepped : bracketStep? opened c = some inside) :
    ((c = '{' ∨ c = '(' ∨ c = '[') ∧ inside = c :: opened) ∨
      (¬(c = '{' ∨ c = '(' ∨ c = '[') ∧ (c = '\x7d' ∨ c = ')' ∨ c = ']') ∧
        ∃ innermost, opened = innermost :: inside ∧ (innermost, c) ∈ bracketPairs) ∨
      (¬(c = '{' ∨ c = '(' ∨ c = '[') ∧ ¬(c = '\x7d' ∨ c = ')' ∨ c = ']') ∧ inside = opened) := by
  rw [bracketStep?] at stepped
  split at stepped
  next opens => exact .inl ⟨opens, (Option.some_inj.mp stepped).symm⟩
  next notOpening =>
    split at stepped
    next closes =>
      cases opened with
      | nil => contradiction
      | cons innermost rest =>
        obtain ⟨fits, same⟩ := Option.ite_none_right_eq_some.mp stepped
        obtain rfl := Option.some_inj.mp same
        exact .inr (.inl ⟨notOpening, closes, innermost, rfl, fits⟩)
    next plain => exact .inr (.inr ⟨notOpening, plain, (Option.some_inj.mp stepped).symm⟩)

/-- The brackets that are open after a text. -/
def opened? (opened : List Char) (text : Text) : Option (List Char) :=
  text.foldlM bracketStep? opened

/-- The brackets of the text are properly nested. -/
def IsNested (text : Text) : Prop :=
  opened? [] text = some []

instance (text : Text) : Decidable (IsNested text) :=
  inferInstanceAs (Decidable (opened? [] text = some []))

theorem opened?_append (opened : List Char) (text rest : Text) :
    opened? opened (text ++ rest) = (opened? opened text).bind fun inside => opened? inside rest :=
  List.foldlM_append

theorem opened?_cons (opened : List Char) (c : Char) (rest : Text) :
    opened? opened (c :: rest) = (bracketStep? opened c).bind fun inside => opened? inside rest :=
  rfl

/-- Brackets that were open before do not matter. -/
theorem bracketStep?_append {opened inside : List Char} {c : Char}
    (stepped : bracketStep? opened c = some inside) (below : List Char) :
    bracketStep? (opened ++ below) c = some (inside ++ below) := by
  rw [bracketStep?]
  obtain ⟨opens, rfl⟩ | ⟨notOpening, closes, innermost, rfl, fits⟩ | ⟨notOpening, plain, rfl⟩ :=
    bracketStep?_cases stepped
  · exact if_pos opens
  · rw [if_neg notOpening, if_pos closes]
    exact if_pos fits
  · rw [if_neg notOpening, if_neg plain]

theorem opened?_below {opened inside : List Char} {text : Text}
    (reads : opened? opened text = some inside) (below : List Char) :
    opened? (opened ++ below) text = some (inside ++ below) := by
  induction text generalizing opened with
  | nil =>
    obtain rfl := Option.some_inj.mp reads
    rfl
  | cons c rest ih =>
    rw [opened?_cons, Option.bind_eq_some_iff] at reads
    obtain ⟨next, stepped, reads⟩ := reads
    rw [opened?_cons, bracketStep?_append stepped, Option.bind_some]
    exact ih reads

theorem IsNested.opened? {text : Text} (nested : IsNested text) (opened : List Char) :
    opened? opened text = some opened :=
  opened?_below nested opened

theorem isNested_nil : IsNested [] := rfl

theorem IsNested.append {text rest : Text} (first : IsNested text) (second : IsNested rest) :
    IsNested (text ++ rest) := by
  rw [IsNested, opened?_append, first, Option.bind_some]
  exact second

theorem IsNested.of_append {text rest : Text} (first : IsNested text)
    (whole : IsNested (text ++ rest)) : IsNested rest := by
  rwa [IsNested, opened?_append, first, Option.bind_some] at whole

theorem isNested_flatMap {α : Type} {list : List α} {part : α → Text}
    (nested : ∀ item ∈ list, IsNested (part item)) : IsNested (list.flatMap part) := by
  induction list with
  | nil => exact isNested_nil
  | cons item others ih =>
    rw [List.flatMap_cons]
    apply IsNested.append
    · exact nested item (List.mem_cons_self ..)
    · exact ih fun other member => nested other (List.mem_cons_of_mem _ member)

/-- The innermost bracket that is open after a text, with what stands before it and behind it. -/
theorem exists_innermost {text : Text} {innermost : Char} {opened : List Char}
    (reads : opened? [] text = some (innermost :: opened)) :
    ∃ before inside, text = before ++ innermost :: inside ∧ opened? [] before = some opened ∧
      IsNested inside := by
  rcases List.eq_nil_or_concat' text with rfl | ⟨start, c, rfl⟩
  · cases reads
  · rw [opened?_append, Option.bind_eq_some_iff] at reads
    obtain ⟨inner, startReads, last⟩ := reads
    have stepped : bracketStep? inner c = some (innermost :: opened) :=
      (Option.bind_fun_some _).symm.trans last
    obtain ⟨_, same⟩ | ⟨notOpening, isClosing, closed, rfl, fits⟩ | ⟨notOpening, plain, rfl⟩ :=
      bracketStep?_cases stepped
    · obtain ⟨rfl, rfl⟩ := List.cons_eq_cons.mp same
      exact ⟨start, [], rfl, startReads, isNested_nil⟩
    · -- The last character closes a bracket; the one in question was open ahead of that one.
      obtain ⟨ahead, within, rfl, aheadReads, withinNested⟩ := exists_innermost startReads
      obtain ⟨before, inside, rfl, beforeReads, insideNested⟩ := exists_innermost aheadReads
      refine ⟨before, inside ++ (closed :: (within ++ [c])), by simp, beforeReads, ?_⟩
      refine insideNested.append ?_
      have opens : bracketStep? [] closed = some [closed] := by
        simp only [bracketPairs, List.mem_cons, Prod.mk.injEq, List.not_mem_nil, or_false] at fits
        rcases fits with ⟨rfl, _⟩ | ⟨rfl, _⟩ | ⟨rfl, _⟩ <;> rfl
      have closes : bracketStep? [closed] c = some [] := by
        rw [bracketStep?, if_neg notOpening, if_pos isClosing]
        exact if_pos fits
      rw [IsNested, opened?_cons, opens, Option.bind_some, opened?_append, withinNested.opened?,
        Option.bind_some]
      exact (Option.bind_fun_some _).trans closes
    · obtain ⟨before, inside, rfl, beforeReads, insideNested⟩ := exists_innermost startReads
      have here : bracketStep? [] c = some [] := by
        rw [bracketStep?, if_neg notOpening, if_neg plain]
      refine ⟨before, inside ++ [c], by simp, beforeReads, insideNested.append ?_⟩
      exact (Option.bind_fun_some _).trans here
termination_by text.length

/-- A nested text that ends with a brace has the brace that it closes. -/
theorem exists_body {text : Text} (nested : IsNested (text ++ ['\x7d'])) :
    ∃ before inside, text = before ++ '{' :: inside ∧ IsNested before ∧ IsNested inside := by
  rw [IsNested, opened?_append, Option.bind_eq_some_iff] at nested
  obtain ⟨opened, reads, closes⟩ := nested
  have closes : closeInnermost? '\x7d' opened = some [] := (Option.bind_fun_some _).symm.trans closes
  cases opened with
  | nil => cases closes
  | cons innermost opened =>
    obtain ⟨fits, same⟩ := Option.ite_none_right_eq_some.mp closes
    obtain rfl := Option.some_inj.mp same
    obtain ⟨before, inside, split, beforeNested, insideNested⟩ := exists_innermost reads
    obtain rfl : innermost = '{' := by
      simpa [bracketPairs] using fits
    exact ⟨before, inside, split, beforeNested, insideNested⟩

/-- The character is no bracket. -/
def isNoBracket (c : Char) : Bool :=
  c ∉ ['{', '(', '[', '\x7d', ')', ']']

theorem isNoBracket_of_isBlank {c : Char} (blank : isBlank c = true) : isNoBracket c = true := by
  rw [isNoBracket, decide_eq_true_eq]
  intro bracket
  simp only [List.mem_cons, List.not_mem_nil, or_false] at bracket
  rcases bracket with rfl | rfl | rfl | rfl | rfl | rfl <;> cases blank

theorem opened?_of_noBracket {text : Text} (none : ∀ c ∈ text, isNoBracket c = true)
    (opened : List Char) : opened? opened text = some opened := by
  induction text with
  | nil => rfl
  | cons c rest ih =>
    obtain ⟨here, behind⟩ := List.forall_mem_cons.mp none
    have stepped : bracketStep? opened c = some opened := by
      simp only [isNoBracket, decide_eq_true_eq, List.mem_cons, List.not_mem_nil, not_or] at here
      simp [bracketStep?, here]
    rw [opened?_cons, stepped, Option.bind_some, ih behind]

/-! ## Depth -/

/-- The bracket depth is the number of open brackets. -/
theorem depthStep_length {opened inside : List Char} {c : Char}
    (stepped : bracketStep? opened c = some inside) :
    depthStep opened.length c = inside.length := by
  rw [depthStep]
  obtain ⟨opens, rfl⟩ | ⟨notOpening, closes, innermost, rfl, _⟩ | ⟨notOpening, plain, rfl⟩ :=
    bracketStep?_cases stepped
  · rw [if_pos opens, List.length_cons]
    omega
  · rw [if_neg notOpening, if_pos closes, List.length_cons]
    omega
  · rw [if_neg notOpening, if_neg plain]

theorem foldl_depthStep {opened inside : List Char} {text : Text}
    (reads : opened? opened text = some inside) :
    text.foldl depthStep opened.length = inside.length := by
  induction text generalizing opened with
  | nil =>
    obtain rfl := Option.some_inj.mp reads
    rfl
  | cons c rest ih =>
    rw [opened?_cons, Option.bind_eq_some_iff] at reads
    obtain ⟨next, stepped, reads⟩ := reads
    rw [List.foldl_cons, depthStep_length stepped]
    exact ih reads

theorem lineDepth_length {opened inside : List Char} {line : List Glyph}
    (reads : opened? opened (Glyph.shownText line) = some inside) :
    lineDepth opened.length line = inside.length := by
  rw [lineDepth, foldl_depthStep reads]
  exact Int.toNat_natCast _

/-! ## Statements -/

theorem flatten_groupLines (depth : Nat) (lines : List (List Glyph)) :
    (groupLines depth lines).flatten = lines := by
  induction lines generalizing depth with
  | nil => rfl
  | cons line rest ih =>
    rw [groupLines]
    split
    · rw [List.flatten_cons, ih]
      rfl
    · have grouped := ih (lineDepth depth line)
      split
      next none =>
        rw [none] at grouped
        rw [← grouped]
        rfl
      next statement others some =>
        rw [some] at grouped
        rw [← grouped]
        rfl

/-- The masked lines of a statement, each ended by a newline. -/
def statementMask (statement : List (List Glyph)) : Text :=
  Text.ofLines (statement.map Glyph.shownText)

theorem opened?_ofLines_cons (opened : List Char) (line : Text) (lines : List Text) :
    opened? opened (Text.ofLines (line :: lines)) =
      (opened? opened line).bind fun inside => opened? inside (Text.ofLines lines) := by
  change opened? opened ((line ++ ['\n']) ++ Text.ofLines lines) = _
  rw [List.append_assoc, opened?_append]
  rfl

/-- If some brackets are open before lines and all are closed after them, the first statement closes
the open ones, and each further statement is nested. -/
theorem isNested_groupLines {opened : List Char} {lines : List (List Glyph)}
    (reads : opened? opened (Text.ofLines (lines.map Glyph.shownText)) = some []) :
    ∀ statement others, groupLines opened.length lines = statement :: others →
      opened? opened (statementMask statement) = some [] ∧
        ∀ other ∈ others, IsNested (statementMask other) := by
  induction lines generalizing opened with
  | nil => exact fun _ _ grouped => nomatch grouped
  | cons line rest ih =>
    intro statement others grouped
    rw [List.map_cons, opened?_ofLines_cons, Option.bind_eq_some_iff] at reads
    obtain ⟨inside, lineReads, restReads⟩ := reads
    rw [groupLines, lineDepth_length lineReads] at grouped
    split at grouped
    next ends =>
      obtain rfl := List.length_eq_zero_iff.mp ends
      obtain ⟨rfl, rfl⟩ := List.cons_eq_cons.mp grouped
      constructor
      · rw [statementMask, List.map_singleton, opened?_ofLines_cons, lineReads]
        rfl
      · intro other member
        cases next : groupLines 0 rest with
        | nil =>
          rw [next] at member
          contradiction
        | cons first more =>
          obtain ⟨firstNested, moreNested⟩ := ih restReads first more next
          rw [next] at member
          rcases List.mem_cons.mp member with rfl | member
          · exact firstNested
          · exact moreNested other member
    next goesOn =>
      split at grouped
      next nothing =>
        obtain ⟨rfl, rfl⟩ := List.cons_eq_cons.mp grouped
        have none : rest = [] := by
          rw [← flatten_groupLines inside.length rest, nothing]
          rfl
        subst none
        constructor
        · rw [statementMask, List.map_singleton, opened?_ofLines_cons, lineReads]
          exact restReads
        · exact fun _ member => nomatch member
      next first more next =>
        obtain ⟨rfl, rfl⟩ := List.cons_eq_cons.mp grouped
        obtain ⟨firstReads, moreNested⟩ := ih restReads first more next
        refine ⟨?_, moreNested⟩
        rw [statementMask, List.map_cons, opened?_ofLines_cons, lineReads]
        exact firstReads

end Notebook.Source
