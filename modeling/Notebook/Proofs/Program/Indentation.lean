import Notebook.Document.Reader
import Notebook.Proofs.Program.PrintedValue
import Notebook.Proofs.Text.Indentation

/-! # Indentation in a program

The lines of a cell keep their indentation in the program, but for two of them. The text of the cell
is trimmed, which takes its first visible line to the margin, and a last line that is a bare value
goes there with the call it is put into. So the lines keep their place to each other if and only if
these two have no indentation to lose, or the program has no other line of the cell and they lose
the same.
-/

namespace Notebook.Python

open Text

/-! ## File lines -/

theorem fileName?_flushLine (line : Text) : fileName? (flushLine line) = fileName? line := by
  obtain same | ⟨call, rfl, flushes⟩ := flushLine_cases line
  · rw [same]
  · -- The first visible character of either line is a `p`.
    have none (rest : Text) : fileName? (call.start ++ rest) = none := by
      rw [fileName?, if_neg]
      rw [PrintLine.start, List.append_assoc, List.filter_append, List.filter_eq_nil_iff.mpr]
      · exact Bool.false_ne_true
      · intro c member
        simp [List.all_eq_true.mp call.isIndent c member]
    rw [flushes, PrintLine.flushed, PrintLine.text, none, none]

/-- Blanks around a line are no part of the name. -/
theorem fileName?_blanks {before after : Text} (blank : before.isBlank = true)
    (blankAfter : after.isBlank = true) (line : Text) :
    fileName? (before ++ (line ++ after)) = fileName? line := by
  have visible : (before ++ (line ++ after)).filter (fun c => !Notebook.isBlank c) =
      line.filter fun c => !Notebook.isBlank c := by
    have dropped {blanks : Text} (isBlank : blanks.isBlank = true) :
        blanks.filter (fun c => !Notebook.isBlank c) = [] :=
      List.filter_eq_nil_iff.mpr fun c member => by simp [List.all_eq_true.mp isBlank c member]
    rw [List.filter_append, List.filter_append, dropped blank, dropped blankAfter,
      List.nil_append, List.append_nil]
  have absent {blanks : Text} (isBlank : blanks.isBlank = true) : ':' ∉ blanks :=
    not_mem_of_isBlank isBlank rfl
  rw [fileName?, fileName?, visible]
  congr 1
  cases found : line.cut? ':' with
  | none =>
    have missing : cut? ':' (before ++ (line ++ after)) = none := by
      rw [cut?_eq_none_iff, List.mem_append, List.mem_append, not_or, not_or]
      exact ⟨absent blank, cut?_eq_none_iff.mp found, absent blankAfter⟩
    rw [missing]
  | some parts =>
    obtain ⟨start, name⟩ := parts
    obtain ⟨rfl, first⟩ := cut?_eq_some_iff.mp found
    have cut : cut? ':' (before ++ (start ++ ':' :: name ++ after)) =
        some (before ++ start, name ++ after) := by
      rw [List.append_assoc, List.cons_append, ← List.append_assoc, cut?_append]
      exact List.mem_append.not.mpr (not_or.mpr ⟨absent blank, first⟩)
    rw [cut, Option.bind_some, Option.bind_some]
    dsimp only
    rw [trim_append_of_isBlank blankAfter]

theorem fileName?_trimStart (line : Text) : fileName? line.trimStart = fileName? line := by
  have same := @fileName?_blanks _ [] (isBlank_takeWhile line) rfl line.trimStart
  rw [List.append_nil] at same
  rw [← same]
  exact congrArg fileName? List.takeWhile_append_dropWhile

theorem fileName?_trimEnd (line : Text) : fileName? line.trimEnd = fileName? line := by
  obtain ⟨after, split, blank⟩ := exists_trimEnd_append line
  conv_rhs => rw [split]
  exact (@fileName?_blanks [] _ rfl blank line.trimEnd).symm

/-! ## Lines of a cell -/

/-- The lines that a program has for lines of a cell. -/
def written (lines : List Text) : List Text :=
  printLast ((lines.modifyLast trimEnd).map flushLine)

theorem written_concat (lines : List Text) (last : Text) :
    written (lines ++ [last]) = lines.map flushLine ++ [printValue (flushLine last.trimEnd)] := by
  rw [written, List.modifyLast_concat, List.map_append, List.map_singleton, printLast_concat]

theorem written_getElem? {lines : List Text} {i : Nat} {line : Text}
    (isLine : lines[i]? = some line) :
    (written lines)[i]? = some
      (if i + 1 = lines.length then printValue (flushLine line.trimEnd) else flushLine line) := by
  induction lines using List.reverseRecOn with
  | nil => cases isLine
  | append_singleton lines last _ =>
    rw [written_concat, List.length_append, List.length_singleton]
    rcases Nat.lt_trichotomy i lines.length with inside | rfl | outside
    · rw [List.getElem?_append_left inside] at isLine
      rw [List.getElem?_append_left (by simpa using inside), List.getElem?_map, isLine,
        if_neg (by omega)]
      rfl
    · rw [List.getElem?_concat_length, Option.some_inj] at isLine
      simp [isLine]
    · rw [List.getElem?_eq_none (by simp; omega)] at isLine
      cases isLine

/-- The lines of a cell that the program has lines for: a `# file:` line is left out. -/
def writtenLines (content : Text) : List Text :=
  match content.bodyLines with
  | [] => []
  | first :: rest => if (fileName? first).isSome then rest else first :: rest

theorem cellLines_cons {content first : Text} {rest : List Text}
    (lines : (addFlush content.trim).pieces = first :: rest) :
    cellLines content =
      if (fileName? first).isSome then printLast rest else printLast (first :: rest) := by
  rw [cellLines, lines]

theorem cellLines_eq_written {content first : Text} {rest : List Text}
    (visible : content.isBlank = false) (body : content.bodyLines = first :: rest) :
    cellLines content =
      if (fileName? first).isSome then written rest else written (first.trimStart :: rest) := by
  have lines : (addFlush content.trim).pieces =
      ((first.trimStart :: rest).modifyLast trimEnd).map flushLine := by
    rw [pieces_addFlush, pieces_trim visible, body, List.modifyHead_cons]
  cases rest with
  | nil =>
    have name : fileName? (flushLine first.trim) = fileName? first := by
      rw [fileName?_flushLine, trim, fileName?_trimEnd, fileName?_trimStart]
    rw [← name]
    exact cellLines_cons lines
  | cons next rest =>
    have split : (first.trimStart :: next :: rest).modifyLast trimEnd =
        first.trimStart :: (next :: rest).modifyLast trimEnd :=
      List.modifyLast_append_of_right_ne_nil trimEnd [first.trimStart] _ (List.cons_ne_nil _ _)
    have name : fileName? (flushLine first.trimStart) = fileName? first := by
      rw [fileName?_flushLine, fileName?_trimStart]
    rw [← name, written, written, split]
    rw [split] at lines
    exact cellLines_cons lines

/-! ## Indentation of lines -/

theorem PrintLine.isBlank_start (call : PrintLine) : Text.isBlank call.start = false := by
  rw [PrintLine.start, Text.isBlank, List.all_append, List.all_append, Bool.and_eq_false_iff]
  exact .inr rfl

theorem indentation_flushLine (line : Text) :
    indentation (flushLine line) = line.indentation := by
  obtain same | ⟨call, rfl, flushes⟩ := flushLine_cases line
  · rw [same]
  · rw [flushes, PrintLine.flushed, PrintLine.text, indentation_append call.isBlank_start,
      indentation_append call.isBlank_start]

theorem pieces_pprint {value : Text} (whole : '\n' ∉ value) :
    pieces ("from pprint import pprint\npprint(" ++ value ++ ")\nsys.stdout.flush()") =
      (["from pprint import pprint", "pprint(" ++ value ++ ")", "sys.stdout.flush()"] :
        List Text) := by
  have call : '\n' ∉ ("pprint(" ++ value ++ ")" : Text) := by
    rw [List.mem_append, List.mem_append, not_or, not_or]
    exact ⟨⟨by decide, whole⟩, by decide⟩
  have split : ("from pprint import pprint\npprint(" ++ value ++ ")\nsys.stdout.flush()" : Text) =
      "from pprint import pprint" ++ '\n' :: ("pprint(" ++ value ++ ")" ++
        '\n' :: "sys.stdout.flush()") := by
    simp
  rw [split, pieces_append_newline, pieces_append_newline, pieces_of_not_mem call]
  rfl

/-- All lines of a call that prints a value are at the margin. -/
theorem indentation_printValue {line part : Text} (whole : '\n' ∉ line)
    (isPart : part ∈ (printValue line).pieces) :
    part.indentation = if isBareValue line then 0 else line.indentation := by
  rw [printValue] at isPart
  split_ifs at isPart ⊢ with bare
  · split at isPart
    next value marked =>
      rw [← List.isPrefixOf?_eq_some_iff_append_eq.mp marked, List.mem_append, not_or] at whole
      rw [pieces_pprint whole.2, List.mem_cons, List.mem_cons, List.mem_singleton] at isPart
      rcases isPart with rfl | rfl | rfl
      · rfl
      · exact indentation_cons (c := 'p') rfl _
      · rfl
    next =>
      have call : '\n' ∉ ("print(" ++ line ++ ", flush=True)" : Text) := by
        rw [List.mem_append, List.mem_append, not_or, not_or]
        exact ⟨⟨by decide, whole⟩, by decide⟩
      rw [pieces_of_not_mem call, List.mem_singleton] at isPart
      rw [isPart]
      exact indentation_cons (c := 'p') rfl _
  · rw [pieces_of_not_mem whole, List.mem_singleton] at isPart
    rw [isPart]

/-! ## Lines of the program -/

/-- The program has the part for a visible line of the cell. -/
structure WrittenAt (content : Text) (i : Nat) (line part : Text) : Prop where
  isLine : (writtenLines content)[i]? = some line
  visible : line.isBlank = false
  isPart : ∃ text, (cellLines content)[i]? = some text ∧ part ∈ text.pieces

/-- The line is the first visible one of its cell, or the last one and a value to print. -/
def GoesToMargin (content : Text) (i : Nat) (line : Text) : Prop :=
  i = 0 ∧ writtenLines content = content.bodyLines ∨
    i + 1 = (writtenLines content).length ∧ isBareValue line.trimEnd = true

instance (content : Text) (i : Nat) (line : Text) : Decidable (GoesToMargin content i line) :=
  inferInstanceAs (Decidable (_ ∨ _))

/-- Any two lines keep their place to each other. -/
def KeepsIndentation (content : Text) : Prop :=
  ∀ {i j : Nat} {line other part otherPart : Text}, WrittenAt content i line part →
    WrittenAt content j other otherPart →
    (part.indentation : Int) - otherPart.indentation = line.indentation - other.indentation

theorem written_indentation {lines : List Text} {i : Nat} {line : Text}
    (whole : '\n' ∉ line) (visible : line.isBlank = false) (isLine : lines[i]? = some line) :
    ∃ text, (written lines)[i]? = some text ∧ ∀ part ∈ text.pieces,
      part.indentation =
        if i + 1 = lines.length ∧ isBareValue line.trimEnd = true then 0 else line.indentation := by
  refine ⟨_, written_getElem? isLine, fun part isPart => ?_⟩
  have wholeFlushed {line : Text} (whole : '\n' ∉ line) : '\n' ∉ flushLine line :=
    not_mem_flushLine (by decide) whole
  by_cases last : i + 1 = lines.length
  · rw [if_pos last] at isPart
    have wholeEnd : '\n' ∉ line.trimEnd :=
      fun member => whole ((trimEnd_isPrefix line).subset member)
    rw [indentation_printValue (wholeFlushed wholeEnd) isPart, isBareValue_flushLine,
      indentation_flushLine, indentation_trimEnd visible]
    simp [last]
  · rw [if_neg last, pieces_of_not_mem (wholeFlushed whole), List.mem_singleton] at isPart
    rw [isPart, indentation_flushLine, if_neg fun both => last both.1]

/-- A line keeps its indentation unless it goes to the margin. -/
theorem cellLines_indentation {content : Text} {i : Nat} {line : Text}
    (isLine : (writtenLines content)[i]? = some line) (visible : line.isBlank = false) :
    ∃ text, (cellLines content)[i]? = some text ∧ ∀ part ∈ text.pieces,
      part.indentation = if GoesToMargin content i line then 0 else line.indentation := by
  cases body : content.bodyLines with
  | nil =>
    rw [writtenLines, body] at isLine
    cases isLine
  | cons first rest =>
    have shown : content.isBlank = false := Bool.eq_false_iff.mpr fun blank => by
      rw [bodyLines_of_isBlank blank] at body
      cases body
    have lines := cellLines_eq_written shown body
    have whole {line : Text} (member : line ∈ first :: rest) : '\n' ∉ line :=
      newline_not_mem_bodyLines (body ▸ member)
    have own : writtenLines content = if (fileName? first).isSome then rest else first :: rest := by
      rw [writtenLines, body]
    by_cases named : (fileName? first).isSome = true
    · rw [if_pos named] at lines own
      rw [own] at isLine
      have inside := List.mem_cons_of_mem first (List.mem_of_getElem? isLine)
      obtain ⟨text, isText, parts⟩ := written_indentation (whole inside) visible isLine
      refine ⟨text, lines ▸ isText, fun part isPart => (parts part isPart).trans ?_⟩
      have shorter : rest ≠ first :: rest := (List.cons_ne_self first rest).symm
      simp only [GoesToMargin, own, body, shorter, and_false, false_or]
    · rw [if_neg named] at lines own
      rw [own] at isLine
      cases i with
      | zero =>
        obtain rfl : first = line := Option.some_inj.mp isLine
        have start : '\n' ∉ first.trimStart := fun member =>
          whole (List.mem_cons_self ..) ((List.dropWhile_sublist _).subset member)
        obtain ⟨text, isText, parts⟩ := written_indentation start
          ((isBlank_trimStart first).trans visible)
          (show (first.trimStart :: rest)[0]? = some first.trimStart from rfl)
        refine ⟨text, lines ▸ isText, fun part isPart => (parts part isPart).trans ?_⟩
        rw [indentation_trimStart, ite_self, if_pos (.inl ⟨rfl, own.trans body.symm⟩)]
      | succ i =>
        have isNext : (first.trimStart :: rest)[i + 1]? = some line := isLine
        obtain ⟨text, isText, parts⟩ :=
          written_indentation (whole (List.mem_of_getElem? isLine)) visible isNext
        refine ⟨text, lines ▸ isText, fun part isPart => (parts part isPart).trans ?_⟩
        simp only [GoesToMargin, own, Nat.add_one_ne_zero, false_and, false_or, List.length_cons]

theorem WrittenAt.indentation_eq {content line part : Text} {i : Nat}
    (isWritten : WrittenAt content i line part) :
    part.indentation = if GoesToMargin content i line then 0 else line.indentation := by
  obtain ⟨text, isText, parts⟩ := cellLines_indentation isWritten.isLine isWritten.visible
  obtain ⟨other, isOther, isPart⟩ := isWritten.isPart
  obtain rfl := Option.some_inj.mp (isOther.symm.trans isText)
  exact parts part isPart

theorem exists_writtenAt {content line : Text} {i : Nat}
    (isLine : (writtenLines content)[i]? = some line) (visible : line.isBlank = false) :
    ∃ part, WrittenAt content i line part := by
  obtain ⟨text, isText, _⟩ := cellLines_indentation isLine visible
  obtain ⟨part, isPart⟩ := List.exists_mem_of_ne_nil _ (pieces_ne_nil text)
  exact ⟨part, isLine, visible, text, isText, isPart⟩

/-- The lines keep their place to each other if those that go to the margin are there already, or if
all of them go there from the same indentation. -/
theorem keepsIndentation_iff {content : Text} :
    KeepsIndentation content ↔
      (∀ i line part, WrittenAt content i line part → GoesToMargin content i line →
        line.indentation = 0) ∨
      ∃ n, ∀ i line part, WrittenAt content i line part →
        GoesToMargin content i line ∧ line.indentation = n := by
  constructor
  · intro keeps
    by_cases all : ∀ i line part, WrittenAt content i line part → GoesToMargin content i line
    · refine .inr ?_
      by_cases any : ∃ i line part, WrittenAt content i line part
      · obtain ⟨i, line, part, isWritten⟩ := any
        refine ⟨line.indentation, fun j other otherPart isOther => ⟨all _ _ _ isOther, ?_⟩⟩
        have same := keeps isWritten isOther
        rw [isWritten.indentation_eq, if_pos (all _ _ _ isWritten), isOther.indentation_eq,
          if_pos (all _ _ _ isOther)] at same
        omega
      · exact ⟨0, fun i line part isWritten => absurd ⟨i, line, part, isWritten⟩ any⟩
    · push Not at all
      obtain ⟨j, other, otherPart, isOther, stays⟩ := all
      refine .inl fun i line part isWritten moves => ?_
      have same := keeps isWritten isOther
      rw [isWritten.indentation_eq, if_pos moves, isOther.indentation_eq, if_neg stays] at same
      omega
  · rintro (margin | ⟨n, all⟩) i j line other part otherPart isWritten isOther
    · have kept {i : Nat} {line part : Text} (isWritten : WrittenAt content i line part) :
          part.indentation = line.indentation := by
        rw [isWritten.indentation_eq]
        split_ifs with moves
        · exact (margin i line part isWritten moves).symm
        · rfl
      rw [kept isWritten, kept isOther]
    · obtain ⟨moves, level⟩ := all i line part isWritten
      obtain ⟨otherMoves, otherLevel⟩ := all j other otherPart isOther
      rw [isWritten.indentation_eq, if_pos moves, isOther.indentation_eq, if_pos otherMoves, level,
        otherLevel, Int.sub_self, Int.sub_self]

/-- The lines of a cell stand behind its marker. -/
theorem source_eq_cellLines (context : ProgramContext) {history : History}
    {planned : PlannedEntry} (member : planned ∈ history.plan)
    (contributes : planned.role.contributes = true) :
    ∃ before after, (program context history).source =
      before ++ Family.python.markerStatement ++
        Text.ofLines (cellLines planned.entry.content) ++ after := by
  obtain ⟨earlier, later, split⟩ := List.append_of_mem member
  let shown (list : List PlannedEntry) : Text :=
    list.flatMap fun planned => '\n' :: Family.python.markerStatement ++ block planned
  have own : block planned = Text.ofLines (cellLines planned.entry.content) := if_pos contributes
  refine ⟨header context ++ shown earlier ++ ['\n'], shown later, ?_⟩
  have whole : shown history.plan = shown earlier ++
      ('\n' :: Family.python.markerStatement ++ block planned ++ shown later) := by
    rw [split]
    exact List.flatMap_append
  calc (program context history).source = header context ++ shown history.plan := rfl
    _ = _ := by
      rw [whole, own]
      simp only [List.append_assoc, List.cons_append, List.nil_append]

/-- In the program of a history every visible line of a cell that contributes keeps its indentation,
unless it is the first one of the cell or a value that is printed: these are at the margin. So any
two lines keep their place to each other if and only if the lines that go to the margin are there
already, or all of them go there from the same indentation. -/
theorem program_indentation (context : ProgramContext) {history : History}
    {planned : PlannedEntry} (member : planned ∈ history.plan)
    (contributes : planned.role.contributes = true) :
    let content := planned.entry.content
    (∃ before after, (program context history).source =
      before ++ Family.python.markerStatement ++ Text.ofLines (cellLines content) ++ after) ∧
    (∀ i line, (writtenLines content)[i]? = some line → line.isBlank = false →
      ∃ part, WrittenAt content i line part) ∧
    (∀ i line part, WrittenAt content i line part →
      part.indentation = if GoesToMargin content i line then 0 else line.indentation) ∧
    (KeepsIndentation content ↔
      (∀ i line part, WrittenAt content i line part → GoesToMargin content i line →
        line.indentation = 0) ∨
      ∃ n, ∀ i line part, WrittenAt content i line part →
        GoesToMargin content i line ∧ line.indentation = n) :=
  ⟨source_eq_cellLines context member contributes, fun _ _ => exists_writtenAt,
    fun _ _ _ isWritten => isWritten.indentation_eq, keepsIndentation_iff⟩

/-- The body of a block stays indented below a first line and a last one at the margin. -/
theorem program_indentation_block :
    let planned : PlannedEntry := ⟨⟨1, 0, "if a:\n    b(1)\nc", none⟩, .body, true⟩
    let history := History.ofSources [(planned.entry.content, none)]
    planned ∈ history.plan ∧ planned.role.contributes = true ∧
      cellLines planned.entry.content = ["if a:", "    b(1)", "print(c, flush=True)"] ∧
      KeepsIndentation planned.entry.content := by
  intro planned history
  have member : planned ∈ history.plan := by decide
  have keeps := (program_indentation ⟨"/w", none⟩ member rfl).2.2.2
  refine ⟨member, rfl, rfl, keeps.mpr (.inl fun i line part isWritten moves => ?_)⟩
  have lines : writtenLines planned.entry.content = ["if a:", "    b(1)", "c"] := rfl
  have isLine := isWritten.isLine
  rw [lines] at isLine
  match i with
  | 0 | 2 =>
    obtain rfl := Option.some_inj.mp isLine
    rfl
  | 1 =>
    obtain rfl := Option.some_inj.mp isLine
    exact absurd moves (by decide)

/-- The first line of a cell that was read from an indented fence loses its indentation. -/
theorem keepsIndentation_indented_fence :
    let document : Text := "    ```python\n    x = 1\n    y = 2\n    ```\n"
    let content : Text := "    x = 1\n    y = 2"
    let history := History.ofSources [(content, none)]
    (Document.parse document).map (·.content) = [content] ∧
      History.collect (Document.parse document) 0 = .ok history ∧
      (program ⟨"/w", none⟩ history).source =
        header ⟨"/w", none⟩ ++ ('\n' :: Family.python.markerStatement) ++ "x = 1\n    y = 2\n" ∧
      WrittenAt content 0 "    x = 1" "x = 1" ∧ WrittenAt content 1 "    y = 2" "    y = 2" ∧
      ¬KeepsIndentation content := by
  intro document content history
  have first : WrittenAt content 0 "    x = 1" "x = 1" := ⟨rfl, rfl, "x = 1", rfl, by decide⟩
  have second : WrittenAt content 1 "    y = 2" "    y = 2" :=
    ⟨rfl, rfl, "    y = 2", rfl, by decide⟩
  refine ⟨by decide +kernel, by decide +kernel, by decide +kernel, first, second, fun keeps => ?_⟩
  exact absurd (keeps first second) (by decide)

end Notebook.Python
