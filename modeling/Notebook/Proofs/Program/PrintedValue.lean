import Notebook.Proofs.Program.Flushing
import Notebook.Proofs.Source.Nesting

/-! # Values that are printed

A cell whose last line is a bare value prints it, and whether it is one is read off that line alone.
If the line starts with no bracket open, the brackets of the cell stay properly nested. A line that
goes on with a statement of the lines above closes their brackets inside the call it is put into,
which fits only where each of them is a parenthesis.
-/

namespace Notebook.Python

open Source

/-! ## Brackets inside a call -/

/-- What closes another bracket does not close a parenthesis. -/
theorem not_fits_parenthesis {opening closing : Char} (fits : (opening, closing) ∈ bracketPairs)
    (other : opening ≠ '(') : ('(', closing) ∉ bracketPairs := by
  simp only [bracketPairs, List.mem_cons, Prod.mk.injEq, List.not_mem_nil, or_false] at fits ⊢
  rcases fits with ⟨rfl, rfl⟩ | ⟨rfl, rfl⟩ | ⟨rfl, rfl⟩
  · decide
  · exact absurd rfl other
  · decide

/-- A text that closes brackets also closes them with one more parenthesis below, and leaves that
parenthesis open, if and only if they are parentheses. Brackets it opens itself do not matter. -/
theorem opened?_inside_call {text : Text} (inner : List Char) {opened : List Char}
    (closes : opened? (inner ++ opened) text = some []) :
    opened? (inner ++ '(' :: opened) text = some ['('] ↔ ∀ bracket ∈ opened, bracket = '(' := by
  induction text generalizing inner opened with
  | nil =>
    obtain ⟨rfl, rfl⟩ := List.append_eq_nil_iff.mp (Option.some_inj.mp closes)
    exact iff_of_true rfl fun _ member => absurd member List.not_mem_nil
  | cons c rest ih =>
    rw [opened?_cons, Option.bind_eq_some_iff] at closes
    obtain ⟨inside, stepped, closes⟩ := closes
    cases inner with
    | cons innermost inner =>
      -- The bracket in reach is one that the text has opened.
      obtain ⟨next, here, rfl⟩ : ∃ next, bracketStep? (innermost :: inner) c = some next ∧
          inside = next ++ opened := by
        obtain ⟨opens, rfl⟩ | ⟨notOpening, isClosing, fitting, split, fits⟩ |
            ⟨notOpening, plain, rfl⟩ := bracketStep?_cases stepped
        · exact ⟨c :: innermost :: inner, if_pos opens, rfl⟩
        · obtain ⟨rfl, rfl⟩ := List.cons_eq_cons.mp split
          refine ⟨inner, ?_, rfl⟩
          rw [bracketStep?, if_neg notOpening, if_pos isClosing]
          exact if_pos fits
        · refine ⟨innermost :: inner, ?_, rfl⟩
          rw [bracketStep?, if_neg notOpening, if_neg plain]
      rw [opened?_cons, bracketStep?_append here, Option.bind_some]
      exact ih next closes
    | nil =>
      rw [List.nil_append] at stepped ⊢
      obtain ⟨opens, same⟩ | ⟨notOpening, isClosing, innermost, same, fits⟩ |
          ⟨notOpening, plain, same⟩ := bracketStep?_cases stepped
      · have here : bracketStep? ('(' :: opened) c = some (c :: '(' :: opened) := if_pos opens
        rw [same] at closes
        rw [opened?_cons, here, Option.bind_some]
        exact ih [c] closes
      · have behind := ih [] closes
        rw [List.nil_append] at behind
        rw [same, List.forall_mem_cons, ← behind, opened?_cons, bracketStep?, if_neg notOpening,
          if_pos isClosing, closeInnermost?]
        rcases eq_or_ne innermost '(' with rfl | other
        · rw [if_pos fits, Option.bind_some, and_iff_right rfl]
        · rw [if_neg (not_fits_parenthesis fits other)]
          exact iff_of_false (by simp) fun both => other both.1
      · have here : bracketStep? ('(' :: opened) c = some ('(' :: opened) := by
          rw [bracketStep?, if_neg notOpening, if_neg plain]
        rw [same] at closes
        rw [opened?_cons, here, Option.bind_some]
        exact ih [] closes

/-- A parenthesis among nested brackets closes what is open ahead of them. -/
theorem opened?_closing (start rest : Text) (first : IsNested start) (last : IsNested rest)
    (opened : List Char) :
    opened? opened (start ++ ')' :: rest) = closeInnermost? ')' opened := by
  rw [opened?_append, first.opened?, Option.bind_some, opened?_cons]
  exact (congrArg _ (funext last.opened?)).trans (Option.bind_fun_some _)

/-- A value that closes the brackets open ahead of it does so in a call, too, if and only if they
are parentheses. -/
theorem opened?_call {before after value : Text} {opened : List Char}
    (begins : opened? opened before = some ('(' :: opened))
    (ends : ∀ inside, opened? inside after = closeInnermost? ')' inside)
    (closes : opened? opened value = some []) :
    opened? opened (before ++ value ++ after) = some [] ↔ ∀ bracket ∈ opened, bracket = '(' := by
  rw [← opened?_inside_call [] closes, List.nil_append, List.append_assoc,
    opened?_append, begins, Option.bind_some, opened?_append, Option.bind_eq_some_iff]
  constructor
  · rintro ⟨inside, reads, closed⟩
    rw [ends] at closed
    cases inside with
    | nil => cases closed
    | cons innermost inside =>
      obtain ⟨fits, same⟩ := Option.ite_none_right_eq_some.mp closed
      obtain rfl := Option.some_inj.mp same
      have round : innermost = '(' := by
        by_contra other
        exact not_fits_parenthesis fits other (by decide)
      rw [reads, round]
  · intro reads
    exact ⟨['('], reads, ends ['(']⟩

/-! ## Values -/

theorem parenthesis_not_mem_of_isBareValue {line : Text} (bare : isBareValue line = true) :
    '(' ∉ line := by
  intro member
  simp only [isBareValue, Bool.and_eq_true, Bool.not_eq_true', Bool.or_eq_false_iff] at bare
  have absent : '(' ∉ line.dropOne "!" := by simpa using bare.1.2.2
  rw [Text.dropOne] at absent
  cases marked : ("!" : Text).isPrefixOf? line with
  | none =>
    rw [marked] at absent
    exact absent member
  | some value =>
    rw [marked] at absent
    rw [← List.isPrefixOf?_eq_some_iff_append_eq.mp marked] at member
    exact absent ((List.mem_append.mp member).resolve_left (by decide))

/-- A bare value is no call. -/
theorem flushLine_of_isBareValue {line : Text} (bare : isBareValue line = true) :
    flushLine line = line := by
  obtain same | ⟨call, rfl, _⟩ := flushLine_cases line
  · exact same
  · refine absurd ?_ (parenthesis_not_mem_of_isBareValue bare)
    rw [call.text_eq]
    exact List.mem_append_right _ (List.mem_append_left _ (by decide))

/-- A call with one more argument is no bare value either. -/
theorem isBareValue_flushLine (line : Text) : isBareValue (flushLine line) = isBareValue line := by
  obtain same | ⟨call, rfl, flushes⟩ := flushLine_cases line
  · rw [same]
  · have opens : '(' ∈ call.start :=
      List.mem_append_right _ (List.mem_append_left _ (by decide))
    have call_not_bare : isBareValue call.text = false :=
      Bool.not_eq_true _ ▸ fun bare =>
        parenthesis_not_mem_of_isBareValue bare (List.mem_append_left _ opens)
    have flushed_not_bare : isBareValue call.flushed = false :=
      Bool.not_eq_true _ ▸ fun bare =>
        parenthesis_not_mem_of_isBareValue bare (List.mem_append_left _ opens)
    rw [flushes, call_not_bare, flushed_not_bare]

/-- A bare value that closes the brackets open ahead of it still does so when it is printed, if and
only if they are parentheses. -/
theorem opened?_printValue {line : Text} {opened : List Char} (bare : isBareValue line = true)
    (closes : opened? opened line = some []) :
    opened? opened (printValue line) = some [] ↔ ∀ bracket ∈ opened, bracket = '(' := by
  rw [printValue, if_pos bare]
  split
  next value marked =>
    rw [← List.isPrefixOf?_eq_some_iff_append_eq.mp marked] at closes
    exact opened?_call rfl (opened?_closing [] "\nsys.stdout.flush()" isNested_nil rfl) closes
  next => exact opened?_call rfl (opened?_closing ", flush=True" [] rfl isNested_nil) closes

/-! ## Cells -/

theorem opened?_flushLine (opened : List Char) (line : Text) :
    opened? opened (flushLine line) = opened? opened line := by
  obtain same | ⟨call, rfl, flushes⟩ := flushLine_cases line
  · rw [same]
  · have plain : ∀ c ∈ flushArgument call.arguments, isNoBracket c = true := by
      rw [flushArgument]
      refine List.all_eq_true.mp ?_
      split_ifs <;> rfl
    rw [flushes, PrintLine.flushed, PrintLine.text, opened?_append, opened?_append]
    congr 1
    funext inside
    rw [opened?_append, opened?_of_noBracket plain, Option.bind_some]

theorem opened?_ofLines_flushLine (opened : List Char) (lines : List Text) :
    opened? opened (Text.ofLines (lines.map flushLine)) = opened? opened (Text.ofLines lines) := by
  induction lines generalizing opened with
  | nil => rfl
  | cons line lines ih =>
    rw [List.map_cons, opened?_ofLines_cons, opened?_ofLines_cons, opened?_flushLine]
    congr 1
    funext inside
    exact ih inside

/-- Blanks at the ends are no brackets. -/
theorem opened?_trim (opened : List Char) (text : Text) :
    opened? opened text.trim = opened? opened text := by
  have plain : ∀ {blank : Text}, blank.isBlank = true → ∀ c ∈ blank, isNoBracket c = true :=
    fun blank c member => isNoBracket_of_isBlank (List.all_eq_true.mp blank c member)
  have start := Text.isBlank_takeWhile text
  obtain ⟨after, split, finish⟩ := Text.exists_trimEnd_append text.trimStart
  have whole : opened? opened text = opened? opened text.trimStart := by
    conv_lhs => rw [← List.takeWhile_append_dropWhile (p := isBlank) (l := text)]
    rw [opened?_append, opened?_of_noBracket (plain start), Option.bind_some]
    rfl
  rw [whole]
  conv_rhs => rw [split, opened?_append]
  rw [Text.trim]
  exact ((congrArg _ (funext (opened?_of_noBracket (plain finish)))).trans
    (Option.bind_fun_some _)).symm

theorem fileName?_of_not_mem {line : Text} (plain : '#' ∉ line) : fileName? line = none := by
  rw [fileName?, if_neg]
  intro opens
  obtain ⟨rest, split⟩ := List.isPrefixOf_iff_prefix.mp opens
  have member : '#' ∈ line.filter fun c => !isBlank c := by
    rw [← split]
    exact List.mem_append_left _ (by decide)
  exact plain (List.mem_of_mem_filter member)

theorem printLast_concat (lines : List Text) (last : Text) :
    printLast (lines ++ [last]) = lines ++ [printValue last] := by
  induction lines with
  | nil => rfl
  | cons line lines ih =>
    cases lines with
    | nil => rfl
    | cons next lines =>
      rw [List.cons_append, List.cons_append, printLast, ← List.cons_append, ih]
      · rfl
      · simp

/-- A line with its call flushed is printed if the line is a bare value. -/
theorem printValue_flushLine (line : Text) :
    printValue (flushLine line) = if isBareValue line then printValue line else flushLine line := by
  split_ifs with bare
  · rw [flushLine_of_isBareValue bare]
  · rw [printValue, isBareValue_flushLine, if_neg bare]

theorem cellLines_eq {content last : Text} {lines : List Text} (plain : '#' ∉ content)
    (split : content.trim.pieces = lines ++ [last]) :
    cellLines content = lines.map flushLine ++
      [if isBareValue last then printValue last else flushLine last] := by
  have flushed : (addFlush content.trim).pieces = lines.map flushLine ++ [flushLine last] := by
    rw [pieces_addFlush, split, List.map_append, List.map_singleton]
  have unnamed : ∀ line ∈ (addFlush content.trim).pieces, fileName? line = none := by
    intro line member
    rw [pieces_addFlush] at member
    obtain ⟨piece, isPiece, rfl⟩ := List.mem_map.mp member
    refine fileName?_of_not_mem (not_mem_flushLine (by decide) fun sharp => plain ?_)
    have inside : '#' ∈ content.trim := by
      rw [← Text.ofPieces_pieces content.trim, Text.mem_ofPieces (by decide)]
      exact ⟨piece, isPiece, sharp⟩
    exact (Text.trim_sublist content).subset inside
  rw [← printValue_flushLine, ← printLast_concat, ← flushed, cellLines]
  split
  next none => rw [none]; rfl
  next line rest some =>
    rw [unnamed line (some ▸ List.mem_cons_self ..), some]
    rfl

/-- The last line of a cell is printed if it looks like a bare value, whatever is open ahead of it.
In a cell with nested brackets and no comment the lines of the program are nested, too, if and only
if it is not printed or nothing but parentheses is open ahead of it. -/
theorem isNested_cellLines_iff {content : Text} (plain : '#' ∉ content)
    (nested : IsNested content) :
    ∃ lines last opened, content.trim.pieces = lines ++ [last] ∧
      opened? [] (Text.ofLines lines) = some opened ∧
      cellLines content = lines.map flushLine ++
        [if isBareValue last then printValue last else flushLine last] ∧
      (IsNested (Text.ofLines (cellLines content)) ↔
        (isBareValue last = true → ∀ bracket ∈ opened, bracket = '(')) := by
  obtain ⟨lines, last, split⟩ : ∃ lines last, content.trim.pieces = lines ++ [last] :=
    (List.eq_nil_or_concat' _).resolve_left (Text.pieces_ne_nil _)
  have whole : opened? [] (Text.ofLines (lines ++ [last])) = some [] := by
    have trimmed : opened? [] content.trim = some [] := (opened?_trim [] content).trans nested
    rw [← split, Text.ofLines_eq (Text.pieces_ne_nil _), Text.ofPieces_pieces, opened?_append,
      trimmed]
    rfl
  have parts : ∀ (start : List Text) (line : Text),
      opened? [] (Text.ofLines (start ++ [line])) =
        (opened? [] (Text.ofLines start)).bind fun opened => opened? opened line := by
    intro start line
    rw [Text.ofLines, List.flatMap_append, opened?_append]
    congr 1
    funext opened
    exact (opened?_ofLines_cons opened line []).trans (Option.bind_fun_some _)
  rw [parts, Option.bind_eq_some_iff] at whole
  obtain ⟨opened, reads, closes⟩ := whole
  have shown := cellLines_eq plain split
  refine ⟨lines, last, opened, split, reads, shown, ?_⟩
  rw [shown, IsNested, parts, opened?_ofLines_flushLine, reads, Option.bind_some]
  split_ifs with bare
  · rw [opened?_printValue bare closes]
    exact ⟨fun round _ => round, fun round => round bare⟩
  · rw [opened?_flushLine, closes]
    exact iff_of_true rfl fun isBare => absurd isBare bare

/-- An attribute is printed behind a list that has been closed on a line ahead of it. -/
theorem isNested_cellLines_attribute :
    '#' ∉ ("x = [\n1\n]\nx.y" : Text) ∧ IsNested "x = [\n1\n]\nx.y" ∧
      ∃ lines last opened, Text.pieces (Text.trim "x = [\n1\n]\nx.y") = lines ++ [last] ∧
        opened? [] (Text.ofLines lines) = some opened ∧
        cellLines "x = [\n1\n]\nx.y" = lines.map flushLine ++
          [if isBareValue last then printValue last else flushLine last] ∧
        (IsNested (Text.ofLines (cellLines "x = [\n1\n]\nx.y")) ↔
          (isBareValue last = true → ∀ bracket ∈ opened, bracket = '(')) :=
  ⟨by decide, by decide, isNested_cellLines_iff (by decide) (by decide)⟩

/-- A list that is closed on a line of its own is closed inside the call. -/
theorem isNested_cellLines_list :
    IsNested "x = [\n1\n]" ∧ (∀ c ∈ ['"', '\'', '#'], c ∉ ("x = [\n1\n]" : Text)) ∧
      cellLines "x = [\n1\n]" = ["x = [", "1", "print(], flush=True)"] ∧
      opened? [] "x = [\n1\n" = some ['['] ∧
      ¬IsNested (Text.ofLines (cellLines "x = [\n1\n]")) := by
  refine ⟨by decide, ?_, rfl, rfl, ?_⟩
  · simp only [List.forall_mem_cons]
    exact ⟨by decide, by decide, by decide, nofun⟩
  · rw [(rfl : cellLines "x = [\n1\n]" = ["x = [", "1", "print(], flush=True)"])]
    decide

end Notebook.Python
