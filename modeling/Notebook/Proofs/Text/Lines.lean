import Mathlib.Data.List.DropRight
import Notebook.Text.Basic

/-! # Lines and blanks of a text

A text and its list of pieces determine each other as long as no piece holds a newline. Carriage
returns at line ends, blanks and trimming are described on lines, so that statements about
documents need not look at characters again.
-/

namespace Notebook.Text

/-! ## Pieces -/

@[simp] theorem pieces_nil : pieces [] = [[]] := rfl

theorem pieces_ne_nil (text : Text) : text.pieces ≠ [] :=
  List.splitOn_ne_nil _ _

theorem ofPieces_pieces (text : Text) : ofPieces text.pieces = text :=
  List.intercalate_splitOn _

theorem pieces_ofPieces {lines : List Text} (whole : ∀ line ∈ lines, '\n' ∉ line)
    (filled : lines ≠ []) : (ofPieces lines).pieces = lines :=
  List.splitOn_intercalate _ whole filled

theorem pieces_append_newline (before after : Text) :
    (before ++ '\n' :: after).pieces = before.pieces ++ after.pieces :=
  List.splitOn_append_cons_self _ _

theorem pieces_newline_cons (text : Text) : pieces ('\n' :: text) = [] :: text.pieces :=
  pieces_append_newline [] text

theorem pieces_of_not_mem {line : Text} (whole : '\n' ∉ line) : line.pieces = [line] :=
  List.splitOn_eq_singleton whole

theorem pieces_cons {c : Char} (other : c ≠ '\n') (text : Text) :
    ∃ line rest, text.pieces = line :: rest ∧ pieces (c :: text) = (c :: line) :: rest := by
  obtain ⟨line, rest, split⟩ := List.exists_cons_of_ne_nil (pieces_ne_nil text)
  refine ⟨line, rest, split, ?_⟩
  rw [pieces] at split ⊢
  rw [List.splitOn_cons_eq_if_modifyHead, if_neg (by simpa using other), split, List.modifyHead_cons]

theorem newline_not_mem_of_mem_pieces {text line : Text} (member : line ∈ text.pieces) :
    '\n' ∉ line := by
  induction text generalizing line with
  | nil =>
    obtain rfl := List.mem_singleton.mp member
    exact List.not_mem_nil
  | cons c rest ih =>
    by_cases newline : c = '\n'
    · rw [newline, pieces_newline_cons] at member
      rcases List.mem_cons.mp member with rfl | member
      · exact List.not_mem_nil
      · exact ih member
    · obtain ⟨first, others, split, whole⟩ := pieces_cons newline rest
      rw [split] at ih
      rw [whole] at member
      rcases List.mem_cons.mp member with rfl | member
      · rw [List.mem_cons, not_or]
        exact ⟨fun same => newline same.symm, ih (List.mem_cons_self ..)⟩
      · exact ih (List.mem_cons_of_mem _ member)

theorem newline_not_mem_replicate {count : Nat} {line : Text}
    (member : line ∈ List.replicate count ([] : Text)) : '\n' ∉ line := by
  rw [List.eq_of_mem_replicate member]
  exact List.not_mem_nil

theorem pieces_newlines_append (count : Nat) (text : Text) :
    pieces (List.replicate count '\n' ++ text) = List.replicate count [] ++ text.pieces := by
  induction count with
  | zero => rfl
  | succ count ih =>
    simp only [List.replicate_succ, List.cons_append, pieces_newline_cons, ih]

theorem pieces_append_newlines (text : Text) (count : Nat) :
    (text ++ List.replicate count '\n').pieces = text.pieces ++ List.replicate count [] := by
  cases count with
  | zero => simp
  | succ count =>
    rw [List.replicate_succ, pieces_append_newline]
    have ends := pieces_newlines_append count []
    rw [List.append_nil] at ends
    rw [ends, pieces_nil, ← List.replicate_succ', List.replicate_succ]

/-- A text has a second line exactly when it holds a newline. -/
theorem two_le_length_pieces {text : Text} : 2 ≤ text.pieces.length ↔ '\n' ∈ text := by
  constructor
  · intro many
    by_contra whole
    rw [pieces_of_not_mem whole] at many
    simp at many
  · intro member
    obtain ⟨before, after, rfl⟩ := List.append_of_mem member
    have first := List.length_pos_iff.mpr (pieces_ne_nil before)
    have second := List.length_pos_iff.mpr (pieces_ne_nil after)
    rw [pieces_append_newline, List.length_append]
    omega

@[simp] theorem ofPieces_nil : ofPieces [] = [] := rfl

@[simp] theorem ofPieces_singleton (line : Text) : ofPieces [line] = line :=
  List.intercalate_singleton

theorem ofPieces_cons {line : Text} {lines : List Text} (more : lines ≠ []) :
    ofPieces (line :: lines) = line ++ '\n' :: ofPieces lines := by
  rw [ofPieces, List.intercalate_cons_of_ne_nil more]
  simp [ofPieces]

theorem mem_ofPieces {lines : List Text} {c : Char} (other : c ≠ '\n') :
    c ∈ ofPieces lines ↔ ∃ line ∈ lines, c ∈ line := by
  induction lines with
  | nil => simp
  | cons line lines ih =>
    cases lines with
    | nil => simp
    | cons next lines =>
      rw [ofPieces_cons (List.cons_ne_nil _ _), List.mem_append, List.mem_cons, ih]
      simp [other]

theorem dropWhile_isEmpty_replicate (count : Nat) (lines : List Text) :
    (List.replicate count [] ++ lines).dropWhile List.isEmpty = lines.dropWhile List.isEmpty :=
  List.dropWhile_append_of_pos fun line member => by rw [List.eq_of_mem_replicate member]; rfl

/-- The text without the empty lines at its start. -/
theorem ofPieces_dropWhile_pieces (text : Text) :
    ofPieces (text.pieces.dropWhile List.isEmpty) = text.dropWhile (· = '\n') := by
  induction text with
  | nil => rfl
  | cons c text ih =>
    by_cases newline : c = '\n'
    · rw [newline, pieces_newline_cons, List.dropWhile_cons_of_pos rfl,
        List.dropWhile_cons_of_pos (by simp), ih]
    · obtain ⟨line, rest, _, split⟩ := pieces_cons newline text
      rw [split, List.dropWhile_cons_of_neg (by simp), ← split, ofPieces_pieces,
        List.dropWhile_cons_of_neg (by simpa using newline)]

theorem ofPieces_cons_append (line : Text) (lines : List Text) :
    ∃ rest, ∀ start : Text, ofPieces ((start ++ line) :: lines) = start ++ (line ++ rest) := by
  cases lines with
  | nil => exact ⟨[], fun start => by rw [ofPieces_singleton, List.append_nil]⟩
  | cons next lines =>
    refine ⟨'\n' :: ofPieces (next :: lines), fun start => ?_⟩
    rw [ofPieces_cons (List.cons_ne_nil _ _), List.append_assoc]

theorem ofPieces_concat {lines : List Text} (more : lines ≠ []) (last : Text) :
    ofPieces (lines ++ [last]) = ofPieces lines ++ '\n' :: last := by
  induction lines with
  | nil => exact absurd rfl more
  | cons line lines ih =>
    rcases eq_or_ne lines [] with rfl | filled
    · rw [List.singleton_append, ofPieces_cons (List.cons_ne_nil _ _), ofPieces_singleton,
        ofPieces_singleton]
    · rw [List.cons_append, ofPieces_cons (by simp), ih filled, ofPieces_cons filled,
        List.append_assoc]
      rfl

theorem getLast?_ofPieces (lines : List Text) {last : Text} (filled : last ≠ []) :
    (ofPieces (lines ++ [last])).getLast? = last.getLast? := by
  induction lines with
  | nil => rw [List.nil_append, ofPieces_singleton]
  | cons line lines ih =>
    have more : lines ++ [last] ≠ [] := by simp
    have ends : ofPieces (lines ++ [last]) ≠ [] := by
      intro empty
      rw [empty] at ih
      exact filled (List.getLast?_eq_none_iff.mp ih.symm)
    rw [List.cons_append, ofPieces_cons more, ← List.singleton_append, ← List.append_assoc,
      List.getLast?_append_of_ne_nil _ ends, ih]

/-- The pieces of a text ended by a newline, without the empty piece after it. -/
theorem ofLines_eq {lines : List Text} (filled : lines ≠ []) :
    ofLines lines = ofPieces lines ++ ['\n'] := by
  induction lines with
  | nil => exact absurd rfl filled
  | cons line lines ih =>
    cases lines with
    | nil => simp [ofLines]
    | cons next lines =>
      have rest := ih (List.cons_ne_nil _ _)
      rw [ofPieces_cons (List.cons_ne_nil _ _)]
      simp only [ofLines, List.flatMap_cons] at rest ⊢
      rw [rest]
      simp

theorem ofLines_inj {lines others : List Text} (whole : ∀ line ∈ lines, '\n' ∉ line)
    (whole' : ∀ line ∈ others, '\n' ∉ line) (same : ofLines lines = ofLines others) :
    lines = others := by
  rcases eq_or_ne lines [] with rfl | filled
  · rcases eq_or_ne others [] with rfl | filled'
    · rfl
    · rw [ofLines_eq filled'] at same
      simp [ofLines] at same
  · rcases eq_or_ne others [] with rfl | filled'
    · rw [ofLines_eq filled] at same
      simp [ofLines] at same
    · rw [ofLines_eq filled, ofLines_eq filled', List.append_cancel_right_eq] at same
      rw [← pieces_ofPieces whole filled, same, pieces_ofPieces whole' filled']

/-- The first line of a text is not empty unless the text starts with a newline. -/
theorem pieces_head {text : Text} (filled : text ≠ []) (starts : text.head? ≠ some '\n') :
    ∃ line rest, text.pieces = line :: rest ∧ line ≠ [] := by
  cases text with
  | nil => exact absurd rfl filled
  | cons c text =>
    obtain ⟨line, rest, _, split⟩ :=
      pieces_cons (fun same => starts (by rw [same]; rfl) : c ≠ '\n') text
    exact ⟨c :: line, rest, split, List.cons_ne_nil _ _⟩

/-- The last line of a text is not empty unless the text ends with a newline. -/
theorem pieces_last {text : Text} (filled : text ≠ []) (finishes : text.getLast? ≠ some '\n') :
    ∃ rest line, text.pieces = rest ++ [line] ∧ line ≠ [] := by
  refine ⟨text.pieces.dropLast, text.pieces.getLast (pieces_ne_nil text),
    (List.dropLast_concat_getLast _).symm, fun empty => ?_⟩
  have whole := ofPieces_pieces text
  have split := List.dropLast_concat_getLast (pieces_ne_nil text)
  rw [empty] at split
  rcases eq_or_ne text.pieces.dropLast [] with none | more
  · rw [← split, none] at whole
    exact filled whole.symm
  · rw [← split, ofPieces_concat more] at whole
    exact finishes (by rw [← whole, List.getLast?_concat])

/-! ## Carriage returns at line ends -/

theorem dropReturn_concat (line : Text) : dropReturn (line ++ ['\r']) = line := by
  have found : ['\r'].isSuffixOf? (line ++ ['\r']) = some line := by
    simp [List.isSuffixOf?]
  rw [dropReturn, found, Option.getD_some]

theorem dropReturn_of_getLast? {line : Text} (ends : line.getLast? ≠ some '\r') :
    dropReturn line = line := by
  have none : ['\r'].isSuffixOf? line = none := by
    rw [List.isSuffixOf?, Option.map_eq_none_iff, Option.eq_none_iff_forall_ne_some]
    intro rest found
    rw [List.isPrefixOf?_eq_some_iff_append_eq] at found
    apply ends
    rw [← List.head?_reverse, ← found]
    rfl
  rw [dropReturn, none, Option.getD_none]

/-- A line is as it was, or it lost the carriage return at its end. -/
theorem dropReturn_cases (line : Text) :
    dropReturn line = line ∨ line = dropReturn line ++ ['\r'] := by
  by_cases ends : line.getLast? = some '\r'
  · obtain ⟨rest, rfl⟩ := List.getLast?_eq_some_iff.mp ends
    exact .inr (by rw [dropReturn_concat])
  · exact .inl (dropReturn_of_getLast? ends)

theorem dropReturn_of_not_mem {line : Text} (plain : '\r' ∉ line) : dropReturn line = line :=
  dropReturn_of_getLast? fun ends => plain (List.mem_of_getLast? ends)

theorem dropReturn_eq_self_iff {line : Text} :
    dropReturn line = line ↔ line.getLast? ≠ some '\r' := by
  refine ⟨fun same ends => ?_, dropReturn_of_getLast?⟩
  obtain ⟨rest, rfl⟩ := List.getLast?_eq_some_iff.mp ends
  rw [dropReturn_concat] at same
  simpa using congrArg List.length same

theorem not_mem_dropReturn {line : Text} {c : Char} (absent : c ∉ line) : c ∉ dropReturn line := by
  rcases dropReturn_cases line with same | split
  · rwa [same]
  · rw [split, List.mem_append] at absent
    exact fun member => absent (.inl member)

/-! ## Counting characters of lines -/

/-- The number of characters of the class in the lines. -/
def tally (p : Char → Bool) (lines : List Text) : Nat := lines.flatten.countP p

section Tally

variable {p : Char → Bool}

@[simp] theorem tally_nil : tally p [] = 0 := rfl

theorem tally_append (lines others : List Text) :
    tally p (lines ++ others) = tally p lines + tally p others := by
  rw [tally, List.flatten_append, List.countP_append]
  rfl

theorem tally_cons (line : Text) (lines : List Text) :
    tally p (line :: lines) = line.countP p + tally p lines := by
  rw [tally, List.flatten_cons, List.countP_append]
  rfl

theorem tally_replicate (count : Nat) : tally p (List.replicate count []) = 0 := by
  rw [tally, List.flatten_replicate_nil]
  rfl

/-- Characters other than newlines are those of the lines. -/
theorem countP_ofPieces (newline : p '\n' = false) (lines : List Text) :
    (ofPieces lines).countP p = tally p lines := by
  induction lines with
  | nil => rfl
  | cons line lines ih =>
    rw [tally_cons, ← ih]
    rcases eq_or_ne lines [] with rfl | more
    · rw [ofPieces_singleton]
      rfl
    · rw [ofPieces_cons more, List.countP_append, List.countP_cons_of_neg (by simp [newline])]

theorem countP_eq_tally (newline : p '\n' = false) (text : Text) :
    text.countP p = tally p text.pieces := by
  rw [← countP_ofPieces newline, ofPieces_pieces]

theorem tally_dropWhile_le (lines : List Text) :
    tally p (lines.dropWhile List.isEmpty) ≤ tally p lines := by
  conv_rhs => rw [← List.takeWhile_append_dropWhile (p := List.isEmpty) (l := lines), tally_append]
  exact Nat.le_add_left _ _

theorem countP_dropReturn_le (line : Text) : (dropReturn line).countP p ≤ line.countP p := by
  rcases dropReturn_cases line with same | split
  · rw [same]
  · conv_rhs => rw [split]
    exact (List.sublist_append_left _ _).countP_le

theorem tally_dropReturn_le (lines : List Text) :
    tally p (lines.map dropReturn) ≤ tally p lines := by
  induction lines with
  | nil => exact Nat.le_refl 0
  | cons line lines ih =>
    have first := @countP_dropReturn_le p line
    rw [List.map_cons, tally_cons, tally_cons]
    omega

/-- A carriage return at the end of a line is lost. -/
theorem tally_dropReturn_lt (counts : p '\r' = true) {lines : List Text} {line : Text}
    (member : line ∈ lines) (ends : line.getLast? = some '\r') :
    tally p (lines.map dropReturn) < tally p lines := by
  obtain ⟨before, after, rfl⟩ := List.append_of_mem member
  obtain ⟨start, rfl⟩ := List.getLast?_eq_some_iff.mp ends
  have first := @tally_dropReturn_le p before
  have last := @tally_dropReturn_le p after
  have one : (['\r'] : Text).countP p = 1 := by simp [counts]
  rw [List.map_append, List.map_cons, dropReturn_concat, tally_append, tally_append, tally_cons,
    tally_cons, List.countP_append, one]
  omega

end Tally

/-! ## Blanks -/

theorem isBlank_ofPieces (lines : List Text) : (ofPieces lines).isBlank = lines.all isBlank := by
  induction lines with
  | nil => rfl
  | cons line lines ih =>
    cases lines with
    | nil => simp
    | cons next lines =>
      have newline : Notebook.isBlank '\n' = true := by decide
      rw [ofPieces_cons (List.cons_ne_nil _ _)]
      simp only [isBlank, List.all_append, List.all_cons, newline, Bool.true_and] at ih ⊢
      rw [ih]

theorem trimStart_eq_nil_iff {text : Text} : text.trimStart = [] ↔ text.isBlank = true := by
  simp [trimStart, isBlank, List.dropWhile_eq_nil_iff, List.all_eq_true]

theorem trimStart_append {indent : Text} (blank : indent.isBlank = true) (rest : Text) :
    trimStart (indent ++ rest) = rest.trimStart :=
  List.dropWhile_append_of_pos (List.all_eq_true.mp blank)

theorem dropEndWhile_eq_rdropWhile (p : Char → Bool) (text : Text) :
    text.dropEndWhile p = text.rdropWhile p := by
  induction text with
  | nil => rfl
  | cons c rest ih =>
    have step : dropEndWhile p (c :: rest) =
        if (dropEndWhile p rest).isEmpty && p c then [] else c :: dropEndWhile p rest := rfl
    have halves := @List.dropWhile_append _ p rest.reverse [c]
    rw [step, ih, List.rdropWhile, List.rdropWhile, List.reverse_cons, halves]
    cases kept : List.dropWhile p rest.reverse with
    | nil => cases holds : p c <;> simp [holds]
    | cons last others => simp

theorem dropEndWhile_concat (p : Char → Bool) (text : Text) (c : Char) :
    (text ++ [c]).dropEndWhile p = if p c then text.dropEndWhile p else text ++ [c] := by
  simp only [dropEndWhile_eq_rdropWhile, List.rdropWhile_concat]

theorem trim_eq_nil_iff {text : Text} : text.trim = [] ↔ text.isBlank = true := by
  rw [trim, trimEnd, dropEndWhile_eq_rdropWhile, List.rdropWhile_eq_nil_iff, ← trimStart_eq_nil_iff]
  constructor
  · intro blank
    by_contra filled
    have visible : Notebook.isBlank (text.trimStart.head filled) = false :=
      List.head_dropWhile_not Notebook.isBlank filled
    exact absurd (blank _ (List.head_mem filled)) (by simp [visible])
  · rintro empty c member
    rw [empty] at member
    exact absurd member List.not_mem_nil

end Notebook.Text
