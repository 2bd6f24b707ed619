import Notebook.Proofs.Document.Settling

/-! # Texts that reading and writing leave alone

A text is canonical when its fences are closed by their own marks, its prose is visible, and the
output of a cell stands in the form in which outputs are written. A canonical text is read and
written back as it was, up to the empty lines at its start. The converse holds as well: a text is
left alone only if it is canonical.
-/

namespace Notebook.Document

open Text

/-! ## Canonical texts -/

/-- The lines are all empty, or one of them has a visible character. -/
def isTidy (gap : List Text) : Bool :=
  gap.all List.isEmpty || !gap.all Text.isBlank

/-- A fence that is read as the output of the cell before it looks the way outputs are written: it
is tagged `text` and nothing else, is not empty, and has one empty line before it. -/
def isTidyOutput (awaiting : Bool) (gap : List Text) (opener : Fence.Opener) (body : List Text) :
    Bool :=
  !(isOutputFence opener && (awaiting && gap.all Text.isBlank)) ||
    (opener.info = Fence.outputTag && body ≠ [] && gap = [[]])

/-- Every fence is closed by its own mark, every stretch outside fences is tidy, and so is every
fence that is read as output. An output is awaited after a fence that is none itself. -/
def Outline.isCanonical : Outline → Bool → Bool
  | .outside gap, _ => isTidy gap
  | .unclosed .., _ => false
  | .fenced gap opener body closer rest, awaiting =>
    isTidy gap && closer = Fence.closing opener.indent && isTidyOutput awaiting gap opener body &&
      rest.isCanonical (!isOutputFence opener)

/-- The text is written the way the writer writes. -/
def Canonical (text : Text) : Prop := (outline text.pieces).isCanonical false = true

instance (text : Text) : Decidable (Canonical text) := inferInstanceAs (Decidable (_ = true))

/-- The first line that is not empty does not start with a carriage return. -/
def startsPlain (gap : List Text) : Bool :=
  (gap.dropWhile List.isEmpty).head?.bind List.head? ≠ some '\r'

/-- No prose starts with a carriage return. -/
def Outline.startsPlain : Outline → Bool
  | .outside gap | .unclosed gap _ _ => Document.startsPlain gap
  | .fenced gap _ _ _ rest => Document.startsPlain gap && rest.startsPlain

/-- No line ends with a carriage return. -/
def EndsPlain (lines : List Text) : Prop := ∀ line ∈ lines, line.getLast? ≠ some '\r'

instance (lines : List Text) : Decidable (EndsPlain lines) :=
  inferInstanceAs (Decidable (∀ line ∈ lines, line.getLast? ≠ some '\r'))

theorem map_dropReturn_eq_self_iff {lines : List Text} :
    lines.map dropReturn = lines ↔ EndsPlain lines := by
  have unchanged : lines = lines.map id := (List.map_id lines).symm
  conv_lhs => rhs; rw [unchanged]
  rw [List.map_inj_left]
  exact forall₂_congr fun _ _ => dropReturn_eq_self_iff

theorem map_dropReturn_of_endsPlain {lines : List Text} (ends : EndsPlain lines) :
    lines.map dropReturn = lines := map_dropReturn_eq_self_iff.mpr ends

/-! ## Stretches outside fences -/

theorem settledGap_replicate (count : Nat) :
    settledGap (List.replicate count []) = List.replicate count [] := by
  rw [settledGap, addGap_replicate]
  rfl

theorem settledGap_blank {before after : Nat} {middle : List Text} (framed : Framed middle)
    (blank : middle.all Text.isBlank = true) :
    settledGap (List.replicate before [] ++ middle ++ List.replicate after []) =
      List.replicate after [] := by
  rw [settledGap, addGap_framed _ framed, Reading.addBlock, isBlank_prose, if_pos blank]
  rfl

theorem settledGap_visible {before after : Nat} {middle : List Text} (framed : Framed middle)
    (visible : middle.all Text.isBlank = false) :
    settledGap (List.replicate before [] ++ middle ++ List.replicate after []) =
      List.replicate before [] ++ (trimBreaks (ofPieces middle)).pieces ++
        List.replicate after [] := by
  rw [settledGap, addGap_framed _ framed, Reading.addBlock, isBlank_prose, visible,
    if_neg Bool.false_ne_true, documentLines_cons, cellLines_prose rfl]
  have leading : (Reading.proseCell before middle).leading.length = before :=
    List.length_replicate
  rw [leading, documentLines, List.flatMap_nil, List.append_nil]
  rfl

/-- A line that ends plainly does not end with a line break. -/
theorem isLineBreak_of_getLast? {line : Text} {c : Char} (whole : '\n' ∉ line)
    (ends : line.getLast? ≠ some '\r') (last : line.getLast? = some c) : isLineBreak c = false := by
  simp only [isLineBreak, Bool.or_eq_false_iff, decide_eq_false_iff_not]
  refine ⟨?_, ?_⟩
  · rintro rfl
    exact whole (List.mem_of_getLast? last)
  · rintro rfl
    exact ends last

theorem dropWhile_isLineBreak_ne_nil {line : Text} (whole : '\n' ∉ line)
    (ends : line.getLast? ≠ some '\r') (visible : line ≠ []) :
    line.dropWhile isLineBreak ≠ [] := by
  intro empty
  have last := List.getLast?_eq_some_getLast visible
  have plain := isLineBreak_of_getLast? whole ends last
  rw [List.dropWhile_eq_nil_iff.mp empty _ (List.mem_of_getLast? last)] at plain
  cases plain

/-- Prose whose lines end plainly loses only the carriage returns at its start. -/
theorem pieces_trimBreaks {first : Text} {rest : List Text} (framed : Framed (first :: rest))
    (whole : ∀ line ∈ first :: rest, '\n' ∉ line) (ends : EndsPlain (first :: rest)) :
    (trimBreaks (ofPieces (first :: rest))).pieces = first.dropWhile isLineBreak :: rest := by
  obtain ⟨line, others, split, visible⟩ := framed.first
  obtain ⟨rfl, rfl⟩ := List.cons.inj split
  have last := List.getLast?_eq_some_getLast visible
  have plain := isLineBreak_of_getLast? (whole first (List.mem_cons_self ..))
    (ends first (List.mem_cons_self ..)) last
  have kept := dropWhile_isLineBreak_ne_nil (whole first (List.mem_cons_self ..))
    (ends first (List.mem_cons_self ..)) visible
  have pieces := List.takeWhile_append_dropWhile (p := isLineBreak) (l := first)
  have start_whole : '\n' ∉ first.dropWhile isLineBreak :=
    fun member => whole first (List.mem_cons_self ..) ((List.dropWhile_sublist _).subset member)
  obtain ⟨after, joined⟩ := ofPieces_cons_append (first.dropWhile isLineBreak) rest
  have bare := joined []
  rw [List.nil_append, List.nil_append] at bare
  have dropped : (ofPieces (first :: rest)).dropWhile isLineBreak =
      ofPieces (first.dropWhile isLineBreak :: rest) := by
    have breaks : ∀ d ∈ first.takeWhile isLineBreak, isLineBreak d = true :=
      fun d member => List.mem_takeWhile_imp member
    conv_lhs => rw [← pieces, joined, List.dropWhile_append_of_pos breaks]
    rw [bare, List.dropWhile_append, List.dropWhile_idempotent, if_neg (by simpa using kept)]
  have finish : ∀ c ∈ (ofPieces (first.dropWhile isLineBreak :: rest)).getLast?,
      isLineBreak c = false := by
    intro c at_end
    obtain ⟨init, final, split, final_visible⟩ := framed.last
    cases init with
    | nil =>
      obtain ⟨rfl, rfl⟩ := List.cons.inj split
      rw [ofPieces_singleton] at at_end
      have same := List.getLast?_append_of_ne_nil (first.takeWhile isLineBreak) kept
      rw [pieces, at_end] at same
      rw [last] at same
      rwa [Option.some.inj same] at plain
    | cons head init =>
      obtain ⟨rfl, rfl⟩ := List.cons.inj split
      have same := getLast?_ofPieces (first.dropWhile isLineBreak :: init) final_visible
      have member : final ∈ first :: (init ++ [final]) := by simp
      exact isLineBreak_of_getLast? (whole final member) (ends final member) (same.symm.trans at_end)
  rw [trimBreaks, dropped, dropEndWhile_eq_rdropWhile, List.rdropWhile_eq_self_iff.mpr, pieces_ofPieces]
  · intro line member
    rcases List.mem_cons.mp member with rfl | member
    · exact start_whole
    · exact whole line (List.mem_cons_of_mem _ member)
  · exact List.cons_ne_nil _ _
  · intro filled
    simp [finish _ (List.getLast?_eq_some_getLast filled)]

/-- A stretch whose lines end plainly is written as empty lines alone, or line by line with the
carriage returns at its start left out. -/
theorem settledGap_cases {gap : List Text} (whole : ∀ line ∈ gap, '\n' ∉ line)
    (ends : EndsPlain gap) :
    (∃ count, gap = List.replicate count [] ∧ settledGap gap = gap) ∨
      (∃ count, gap.all Text.isBlank = true ∧ gap.all List.isEmpty = false ∧
        settledGap gap = List.replicate count []) ∨
      ∃ before first rest, gap.all Text.isBlank = false ∧ first ≠ [] ∧
        gap = List.replicate before [] ++ first :: rest ∧
        settledGap gap = List.replicate before [] ++ first.dropWhile isLineBreak :: rest := by
  rcases gap_cases gap with ⟨count, rfl⟩ | ⟨before, middle, after, framed, rfl⟩
  · exact .inl ⟨count, rfl, settledGap_replicate count⟩
  · right
    obtain ⟨first, rest, rfl, visible⟩ := framed.first
    have inside : ∀ line ∈ first :: rest,
        line ∈ List.replicate before [] ++ first :: rest ++ List.replicate after [] :=
      fun line member => List.mem_append_left _ (List.mem_append_right _ member)
    cases blank : (first :: rest).all Text.isBlank with
    | true =>
      refine .inl ⟨after, ?_, ?_, settledGap_blank framed blank⟩
      · rw [all_isBlank_framed, blank]
      · rw [List.all_eq_false]
        exact ⟨first, inside first (List.mem_cons_self ..), by simpa using visible⟩
    | false =>
      refine .inr ⟨before, first, rest ++ List.replicate after [], ?_, visible, ?_, ?_⟩
      · rw [all_isBlank_framed, blank]
      · rw [List.append_assoc, List.cons_append]
      · rw [settledGap_visible framed blank, pieces_trimBreaks framed
          (fun line member => whole line (inside line member))
          (fun line member => ends line (inside line member)), List.append_assoc, List.cons_append]

theorem dropWhile_isLineBreak_eq_self_iff {line : Text} (whole : '\n' ∉ line) :
    line.dropWhile isLineBreak = line ↔ line.head? ≠ some '\r' := by
  cases line with
  | nil => simp
  | cons c rest =>
    cases breaks : isLineBreak c with
    | true =>
      rw [List.dropWhile_cons_of_pos breaks]
      refine ⟨fun same => ?_, fun plain => ?_⟩
      · have bound := (List.dropWhile_sublist isLineBreak (l := rest)).length_le
        rw [same, List.length_cons] at bound
        omega
      · simp only [isLineBreak, Bool.or_eq_true, decide_eq_true_eq] at breaks
        rcases breaks with rfl | rfl
        · exact absurd (List.mem_cons_self ..) whole
        · exact absurd rfl plain
    | false =>
      rw [List.dropWhile_cons_of_neg (by simp [breaks])]
      refine ⟨fun _ same => ?_, fun _ => rfl⟩
      rw [Option.some.inj same] at breaks
      cases breaks

/-- A stretch is written as it was exactly when it is tidy and starts plainly. -/
theorem settledGap_eq_self_iff {gap : List Text} (whole : ∀ line ∈ gap, '\n' ∉ line)
    (ends : EndsPlain gap) :
    settledGap gap = gap ↔ isTidy gap = true ∧ startsPlain gap = true := by
  rcases settledGap_cases whole ends with ⟨count, rfl, same⟩ | ⟨count, blank, filled, settled⟩ |
    ⟨before, first, rest, visible, first_visible, rfl, settled⟩
  · have empty : (List.replicate count ([] : Text)).all List.isEmpty = true := by simp
    have dropped := (@takeWhile_isEmpty_replicate count [] (by simp)).2
    rw [List.append_nil] at dropped
    simp only [same, isTidy, startsPlain, empty, dropped, Bool.true_or, true_and, true_iff]
    rfl
  · rw [isTidy, blank, filled, settled]
    simp only [Bool.not_true, Bool.or_self, Bool.false_eq_true, false_and, iff_false]
    intro same
    rw [← same] at filled
    simp at filled
  · have dropped := (@takeWhile_isEmpty_replicate before (first :: rest) (by simpa using first_visible)).2
    have first_whole := whole first (by simp)
    rw [settled, isTidy, visible, startsPlain, dropped, List.append_cancel_left_eq, List.cons.injEq,
      dropWhile_isLineBreak_eq_self_iff first_whole]
    simp only [List.head?_cons, Option.bind_some, Bool.not_false, Bool.or_true, and_true, true_and]
    exact decide_eq_true_iff.symm

theorem isCloser_dropWhile (line : Text) :
    Fence.isCloser (line.dropWhile isLineBreak) = Fence.isCloser line := by
  have start : trimStart (line.dropWhile isLineBreak) = line.trimStart := by
    conv_rhs => rw [← List.takeWhile_append_dropWhile (p := isLineBreak) (l := line)]
    rw [Text.trimStart_append]
    exact List.all_eq_true.mpr fun c member =>
      isBlank_of_isLineBreak (List.mem_takeWhile_imp member)
  rw [Fence.isCloser, Fence.isCloser, start]

theorem countP_replicate (count : Nat) :
    (List.replicate count ([] : Text)).countP Fence.isCloser = 0 := by
  rw [List.countP_eq_zero]
  intro line member
  rw [List.eq_of_mem_replicate member]
  decide

theorem countP_settledGap_le {gap : List Text} (whole : ∀ line ∈ gap, '\n' ∉ line)
    (ends : EndsPlain gap) :
    (settledGap gap).countP Fence.isCloser ≤ gap.countP Fence.isCloser := by
  rcases settledGap_cases whole ends with ⟨count, _, same⟩ | ⟨count, _, _, settled⟩ |
    ⟨before, first, rest, _, _, rfl, settled⟩
  · rw [same]
  · rw [settled, countP_replicate]
    exact Nat.zero_le _
  · rw [settled, List.countP_append, List.countP_append, List.countP_cons, List.countP_cons,
      isCloser_dropWhile]

/-- Empty lines in front of an opener can only come from empty lines. -/
theorem gap_of_append {gap lines others : List Text} {line : Text} {count : Nat}
    (absent : line ∉ gap)
    (same : List.replicate count [] ++ line :: lines = gap ++ others) :
    ∃ more, gap = List.replicate (count - more) [] ∧ more ≤ count ∧
      others = List.replicate more [] ++ line :: lines := by
  induction count generalizing gap with
  | zero =>
    cases gap with
    | nil => exact ⟨0, rfl, Nat.le_refl 0, same.symm⟩
    | cons first gap =>
      obtain ⟨rfl, _⟩ := List.cons.inj (show line :: lines = first :: (gap ++ others) from same)
      exact absurd (List.mem_cons_self ..) absent
  | succ count ih =>
    cases gap with
    | nil => exact ⟨count + 1, by rw [Nat.sub_self]; rfl, Nat.le_refl _, same.symm⟩
    | cons first gap =>
      obtain ⟨rfl, tail⟩ := List.cons.inj
        (show [] :: (List.replicate count [] ++ line :: lines) = first :: (gap ++ others) from same)
      obtain ⟨more, rfl, bound, rfl⟩ := ih (fun member => absent (List.mem_cons_of_mem _ member)) tail
      refine ⟨more, ?_, by omega, rfl⟩
      rw [Nat.succ_sub bound, List.replicate_succ]

/-- If an opener follows, the stretch before it is written as it was. -/
theorem settledGap_append_inj {gap lines others : List Text} {line : Text}
    (whole : ∀ line ∈ gap, '\n' ∉ line) (ends : EndsPlain gap) (absent : line ∉ gap)
    (same : settledGap gap ++ line :: lines = gap ++ others) :
    settledGap gap = gap ∧ line :: lines = others := by
  rcases settledGap_cases whole ends with ⟨count, _, settled⟩ | ⟨count, blank, nonempty, settled⟩ |
    ⟨before, first, rest, _, _, rfl, settled⟩
  · rw [settled, List.append_cancel_left_eq] at same
    exact ⟨settled, same⟩
  · rw [settled] at same
    obtain ⟨more, rfl, _, _⟩ := gap_of_append absent same
    simp at nonempty
  · have length : (settledGap (List.replicate before [] ++ first :: rest)).length =
        (List.replicate before [] ++ first :: rest).length := by
      rw [settled]
      simp
    exact List.append_inj same length

/-! ## Fences -/

theorem render_ne_nil (opener : Fence.Opener) : opener.render ≠ [] := by
  rw [Fence.Opener.render, Fence.mark_eq]
  simp

theorem render_not_mem {gap : List Text} (unopened : Unopened gap) {opener : Fence.Opener}
    (valid : opener.Valid) : opener.render ∉ gap := by
  intro member
  have none := unopened _ member
  rw [Fence.opener?_render valid] at none
  cases none

theorem countP_fenceLines {opener : Fence.Opener} (valid : opener.Valid) (body : List Text) :
    (fenceLines opener body).countP Fence.isCloser = body.countP Fence.isCloser + 2 := by
  have opens := Fence.isCloser_of_opener? (Fence.opener?_render valid)
  have closes := Fence.isCloser_closing valid.indent
  rw [fenceLines, List.countP_cons, List.countP_append, List.countP_singleton, opens, closes]
  rfl

theorem valid_outputTag {indent : Text} (valid : indent ∈ Fence.indents) :
    (⟨indent, Fence.outputTag⟩ : Fence.Opener).Valid :=
  ⟨valid, show Text.isBlank Fence.outputTag = false by decide⟩

theorem isOutputFence_outputTag (indent : Text) : isOutputFence ⟨indent, Fence.outputTag⟩ = true :=
  show decide ((Fence.splitInfo Fence.outputTag).1 = Fence.outputTag) = true by decide

theorem countP_settledFence_le {gap : List Text} (whole : ∀ line ∈ gap, '\n' ∉ line)
    (ends : EndsPlain gap) {opener : Fence.Opener} (valid : opener.Valid) (awaiting : Bool)
    (body : List Text) :
    (settledFence awaiting gap opener body).countP Fence.isCloser ≤
      gap.countP Fence.isCloser + body.countP Fence.isCloser + 2 := by
  rw [settledFence]
  split_ifs with folds empty
  · rw [List.countP_nil]
    exact Nat.zero_le _
  · have block := countP_fenceLines (valid_outputTag valid.indent) body
    have none : Fence.isCloser [] = false := by decide
    rw [List.countP_cons, block, none, if_neg Bool.false_ne_true]
    omega
  · have before := countP_settledGap_le whole ends
    rw [List.countP_append, countP_fenceLines valid]
    omega

/-- At most the mark that closes the last fence is added to the lines that look like fences. -/
theorem countP_settle_le (outline : Outline) (scanned : outline.Scanned)
    (whole : ∀ line ∈ outline.lines, '\n' ∉ line) (ends : EndsPlain outline.lines)
    (awaiting : Bool) :
    (outline.settle awaiting).countP Fence.isCloser ≤
      outline.lines.countP Fence.isCloser + 1 := by
  induction outline generalizing awaiting with
  | outside gap =>
    have bound := @countP_settledGap_le gap whole ends
    rw [Outline.settle, Outline.lines]
    omega
  | unclosed gap opener body =>
    obtain ⟨_, valid, _⟩ := scanned
    have opens := Fence.isCloser_of_opener? (Fence.opener?_render valid)
    have bound := countP_settledFence_le (Outline.forall_lines_unclosed.mp whole).1
      (Outline.forall_lines_unclosed.mp ends).1 valid awaiting body
    rw [Outline.settle, Outline.lines, List.countP_append, List.countP_cons, opens, if_pos rfl]
    omega
  | fenced gap opener body closer rest ih =>
    obtain ⟨_, valid, _, closes, scanned⟩ := scanned
    obtain ⟨gap_whole, _, _, _, rest_whole⟩ := Outline.forall_lines_fenced.mp whole
    obtain ⟨gap_ends, _, _, _, rest_ends⟩ := Outline.forall_lines_fenced.mp ends
    have opens := Fence.isCloser_of_opener? (Fence.opener?_render valid)
    have bound := countP_settledFence_le gap_whole gap_ends valid awaiting body
    have tail := ih scanned rest_whole rest_ends (!isOutputFence opener)
    rw [Outline.settle, Outline.lines, List.countP_append, List.countP_append, List.countP_cons,
      List.countP_append, List.countP_cons, opens, closes, if_pos rfl]
    omega

/-! ## Outlines -/

theorem fenceLines_append (opener : Fence.Opener) (body rest : List Text) :
    fenceLines opener body ++ rest =
      opener.render :: (body ++ Fence.closing opener.indent :: rest) := by
  simp [fenceLines]

/-- What it takes for a fence to be written as it was, unless it is an empty output. -/
theorem settledFence_append_eq_iff {gap : List Text} (unopened : Unopened gap)
    (whole : ∀ line ∈ gap, '\n' ∉ line) (ends : EndsPlain gap) {opener : Fence.Opener}
    (valid : opener.Valid) {awaiting : Bool} {body : List Text}
    (filled : (isOutputFence opener && (awaiting && gap.all Text.isBlank)) = true → body ≠ [])
    (rest others : List Text) :
    settledFence awaiting gap opener body ++ rest = gap ++ opener.render :: (body ++ others) ↔
      (isTidy gap = true ∧ startsPlain gap = true) ∧
        isTidyOutput awaiting gap opener body = true ∧
          Fence.closing opener.indent :: rest = others := by
  rw [settledFence, isTidyOutput, ← settledGap_eq_self_iff whole ends]
  cases folds : isOutputFence opener && (awaiting && gap.all Text.isBlank) with
  | true =>
    rw [if_pos rfl, if_neg (filled folds), List.cons_append, fenceLines_append]
    simp only [Bool.not_true, Bool.false_or, Bool.and_eq_true, decide_eq_true_eq]
    constructor
    · intro same
      obtain ⟨more, split, bound, tail⟩ := @gap_of_append gap _ _ _ 1
        (render_not_mem unopened (valid_outputTag valid.indent)) same
      obtain rfl : more = 0 := by
        rcases Nat.le_one_iff_eq_zero_or_eq_one.mp bound with zero | rfl
        · exact zero
        · exact absurd (List.cons.inj tail).1 (render_ne_nil opener)
      obtain ⟨opens, tail⟩ := List.cons.inj tail
      rw [split]
      refine ⟨rfl, ⟨⟨List.append_cancel_left opens, filled folds⟩, rfl⟩, ?_⟩
      exact (List.append_cancel_left tail).symm
    · rintro ⟨_, ⟨⟨info, _⟩, rfl⟩, rfl⟩
      rw [← info]
      rfl
  | false =>
    rw [if_neg Bool.false_ne_true, List.append_assoc, fenceLines_append]
    simp only [Bool.not_false, Bool.true_or, true_and]
    constructor
    · intro same
      obtain ⟨settled, tail⟩ :=
        settledGap_append_inj whole ends (render_not_mem unopened valid) same
      exact ⟨settled, List.append_cancel_left (List.cons.inj tail).2⟩
    · rintro ⟨settled, rfl⟩
      rw [settled]

/-- An outline is written as it was exactly when it is canonical and its prose starts plainly. -/
theorem settle_eq_lines_iff (outline : Outline) (scanned : outline.Scanned)
    (whole : ∀ line ∈ outline.lines, '\n' ∉ line) (ends : EndsPlain outline.lines)
    (awaiting : Bool) :
    outline.settle awaiting = outline.lines ↔
      outline.isCanonical awaiting = true ∧ outline.startsPlain = true := by
  induction outline generalizing awaiting with
  | outside gap => exact settledGap_eq_self_iff whole ends
  | unclosed gap opener body =>
    obtain ⟨unopened, valid, _⟩ := scanned
    simp only [Outline.isCanonical, Bool.false_eq_true, false_and, iff_false]
    intro same
    rw [Outline.settle, Outline.lines] at same
    by_cases empty : (isOutputFence opener && (awaiting && gap.all Text.isBlank)) = true ∧ body = []
    · rw [settledFence, if_pos empty.1, if_pos empty.2] at same
      simp at same
    · have same : settledFence awaiting gap opener body ++ [] =
          gap ++ opener.render :: (body ++ []) := by
        rw [List.append_nil, List.append_nil]
        exact same
      rw [settledFence_append_eq_iff unopened (Outline.forall_lines_unclosed.mp whole).1
        (Outline.forall_lines_unclosed.mp ends).1 valid
        (fun folds none => empty ⟨folds, none⟩)] at same
      exact absurd same.2.2 (List.cons_ne_nil _ _)
  | fenced gap opener body closer rest ih =>
    obtain ⟨unopened, valid, _, closes, scanned⟩ := scanned
    have opens := Fence.isCloser_of_opener? (Fence.opener?_render valid)
    obtain ⟨gap_whole, _, _, _, rest_whole⟩ := Outline.forall_lines_fenced.mp whole
    obtain ⟨gap_ends, _, _, _, rest_ends⟩ := Outline.forall_lines_fenced.mp ends
    rw [Outline.settle, Outline.lines, Outline.isCanonical, Outline.startsPlain]
    by_cases empty : (isOutputFence opener && (awaiting && gap.all Text.isBlank)) = true ∧ body = []
    · -- A mark is missing for each fence that is left out, and at most one is ever added.
      obtain ⟨folds, rfl⟩ := empty
      rw [settledFence, if_pos folds, if_pos rfl, isTidyOutput, folds]
      simp only [List.nil_append, ne_eq, not_true_eq_false, decide_false, Bool.and_false,
        Bool.false_and, Bool.not_true, Bool.or_self, Bool.false_eq_true, false_and, iff_false]
      intro same
      have bound := countP_settle_le rest scanned rest_whole rest_ends (!isOutputFence opener)
      rw [same, List.countP_append, List.countP_cons, List.countP_cons, opens, closes,
        if_pos rfl] at bound
      omega
    · rw [settledFence_append_eq_iff unopened gap_whole gap_ends valid
        (fun folds none => empty ⟨folds, none⟩), List.cons.injEq,
        ih scanned rest_whole rest_ends]
      simp only [Bool.and_eq_true, decide_eq_true_eq]
      grind

/-! ## Canonical texts are left alone -/

/-- Lines in front of the first line of an outline. -/
def Outline.prepend (stretch : List Text) : Outline → Outline
  | .outside gap => .outside (stretch ++ gap)
  | .unclosed gap opener body => .unclosed (stretch ++ gap) opener body
  | .fenced gap opener body closer rest => .fenced (stretch ++ gap) opener body closer rest

theorem Outline.scan_prepend (stretch gap lines : List Text) :
    scan (.outside (stretch ++ gap)) lines = (scan (.outside gap) lines).prepend stretch ∧
      ∀ opener body, scan (.inside (stretch ++ gap) opener body) lines =
        (scan (.inside gap opener body) lines).prepend stretch := by
  induction lines generalizing gap with
  | nil => exact ⟨rfl, fun _ _ => rfl⟩
  | cons line lines ih =>
    constructor
    · cases opens : Fence.opener? line with
      | some opener =>
        rw [scan_opener opens, scan_opener opens]
        exact (ih gap).2 opener []
      | none =>
        simp only [scan, opens]
        rw [List.append_assoc]
        exact (ih (gap ++ [line])).1
    · intro opener body
      cases closes : Fence.isCloser line with
      | true =>
        rw [scan_closer closes, scan_closer closes]
        rfl
      | false =>
        simp only [scan, closes, Bool.false_eq_true, ↓reduceIte]
        exact (ih gap).2 opener (body ++ [line])

theorem isTidy_replicate (count : Nat) (gap : List Text) :
    isTidy (List.replicate count [] ++ gap) = isTidy gap := by
  have empty : (List.replicate count ([] : Text)).all List.isEmpty = true := by simp
  rw [isTidy, isTidy, List.all_append, List.all_append, empty, all_isBlank_replicate,
    Bool.true_and, Bool.true_and]

/-- Empty lines at the start make no difference. -/
theorem isCanonical_prepend (count : Nat) (outline : Outline) :
    (outline.prepend (List.replicate count [])).isCanonical false = outline.isCanonical false := by
  cases outline <;>
    simp [Outline.prepend, Outline.isCanonical, isTidy_replicate, isTidyOutput]

theorem isCanonical_dropWhile (lines : List Text) :
    (outline (lines.dropWhile List.isEmpty)).isCanonical false =
      (outline lines).isCanonical false := by
  have empty : lines.takeWhile List.isEmpty =
      List.replicate (lines.takeWhile List.isEmpty).length [] :=
    List.eq_replicate_iff.mpr
      ⟨rfl, fun line member => List.isEmpty_iff.mp (List.mem_takeWhile_imp member)⟩
  have split : outline lines =
      (outline (lines.dropWhile List.isEmpty)).prepend (lines.takeWhile List.isEmpty) := by
    have parts := List.takeWhile_append_dropWhile (p := List.isEmpty) (l := lines)
    rw [outline, outline, ← (Outline.scan_prepend _ [] _).1, List.append_nil]
    conv_lhs => rw [← parts]
    rw [Outline.scan_outside_append (by rw [empty]; exact unopened_replicate _), List.nil_append]
  rw [split, empty, isCanonical_prepend]

theorem startsPlain_of_not_mem {gap : List Text} (plain : ∀ line ∈ gap, '\r' ∉ line) :
    startsPlain gap = true := by
  rw [startsPlain, decide_eq_true_eq]
  intro starts
  obtain ⟨line, first, head⟩ := Option.bind_eq_some_iff.mp starts
  have member := (List.dropWhile_sublist _).subset (List.mem_of_head? first)
  exact plain line member (List.mem_of_head? head)

theorem Outline.startsPlain_of_not_mem (outline : Outline)
    (plain : ∀ line ∈ outline.lines, '\r' ∉ line) : outline.startsPlain = true := by
  induction outline with
  | outside gap => exact Document.startsPlain_of_not_mem plain
  | unclosed gap opener body =>
    exact Document.startsPlain_of_not_mem fun line member => plain line (by simp [lines, member])
  | fenced gap opener body closer rest ih =>
    rw [startsPlain, ih fun line member => plain line (by simp [lines, member]), Bool.and_true]
    exact Document.startsPlain_of_not_mem fun line member => plain line (by simp [lines, member])

theorem not_mem_of_mem_pieces {text line : Text} {c : Char} (other : c ≠ '\n') (absent : c ∉ text)
    (member : line ∈ text.pieces) : c ∉ line := by
  intro inside
  have whole := (mem_ofPieces other).mpr ⟨line, member, inside⟩
  rw [ofPieces_pieces] at whole
  exact absent whole

theorem readerLines_of_not_mem {text : Text} (plain : '\r' ∉ text) :
    readerLines text = text.pieces := by
  refine map_dropReturn_of_endsPlain fun line member ends => ?_
  exact not_mem_of_mem_pieces (by decide) plain member (List.mem_of_getLast? ends)

/-- A canonical text comes back from reading and writing without the empty lines at its start. -/
theorem serialize_parse_of_canonical {text : Text} (long : 2 ≤ text.pieces.length)
    (plain : '\r' ∉ text) (canonical : Canonical text) :
    serialize (parse text) = text.dropWhile (· = '\n') := by
  have clean : ∀ line ∈ text.pieces.dropWhile List.isEmpty, '\n' ∉ line ∧ '\r' ∉ line := by
    intro line member
    have piece := (List.dropWhile_sublist _).subset member
    exact ⟨newline_not_mem_of_mem_pieces piece,
      not_mem_of_mem_pieces (by decide) plain piece⟩
  have settled : (outline (text.pieces.dropWhile List.isEmpty)).settle false =
      text.pieces.dropWhile List.isEmpty := by
    have unchanged := settle_eq_lines_iff _ (scanned_outline (text.pieces.dropWhile List.isEmpty))
    rw [lines_outline] at unchanged
    refine (unchanged (fun line member => (clean line member).1) ?_ false).mpr
      ⟨(isCanonical_dropWhile _).trans canonical, Outline.startsPlain_of_not_mem _ ?_⟩
    · exact fun line member ends => (clean line member).2 (List.mem_of_getLast? ends)
    · rw [lines_outline]
      exact fun line member => (clean line member).2
  rw [serialize_parse long, writtenLines, readerLines_of_not_mem plain, settled,
    List.dropWhile_idempotent, ofPieces_dropWhile_pieces]

theorem serialize_parse_of_canonical_notes :
    serialize (parse "\n# Notes\n\n\t```py :skip\n\tprint(1)\n\t```\n\n```text\n1\n```\n") =
      "# Notes\n\n\t```py :skip\n\tprint(1)\n\t```\n\n```text\n1\n```\n" :=
  serialize_parse_of_canonical (by decide) (by decide) (by decide)

end Notebook.Document
