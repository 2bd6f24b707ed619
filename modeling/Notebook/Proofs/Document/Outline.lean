import Notebook.Document.Reader
import Notebook.Proofs.Document.Fence

/-! # Outlines of a document

A scan with two states divides the lines of a document: outside a fence, a line that is an opener
opens one, and inside, the first line that is a closer closes it. The outline keeps every line.
`parse_eq_read` says that the reader is a recursion over this outline, which takes up one stretch
outside fences and one fence at a time; all that is known about read documents comes from there.
-/

namespace Notebook.Document

open Text

/-- The lines of a document, as a scan divides them. -/
inductive Outline where
  /-- The lines after the last fence. -/
  | outside (gap : List Text)
  /-- A fence that no line closes. -/
  | unclosed (gap : List Text) (opener : Fence.Opener) (body : List Text)
  /-- A fence, with the line that closes it and what follows. -/
  | fenced (gap : List Text) (opener : Fence.Opener) (body : List Text) (closer : Text)
    (rest : Outline)

/-- Where a scan stands, with the lines since the last fence. -/
inductive Standing where
  | outside (gap : List Text)
  | inside (gap : List Text) (opener : Fence.Opener) (body : List Text)

/-- None of the lines opens a fence. -/
def Unopened (lines : List Text) : Prop := ∀ line ∈ lines, Fence.opener? line = none

/-- None of the lines closes a fence. -/
def Unclosed (lines : List Text) : Prop := ∀ line ∈ lines, Fence.isCloser line = false

namespace Outline

/-- The outline of further lines. -/
def scan : Standing → List Text → Outline
  | .outside gap, [] => .outside gap
  | .outside gap, line :: rest =>
    match Fence.opener? line with
    | some opener => scan (.inside gap opener []) rest
    | none => scan (.outside (gap ++ [line])) rest
  | .inside gap opener body, [] => .unclosed gap opener body
  | .inside gap opener body, line :: rest =>
    if Fence.isCloser line then .fenced gap opener body line (scan (.outside []) rest)
    else scan (.inside gap opener (body ++ [line])) rest

/-- The lines of an outline. -/
def lines : Outline → List Text
  | .outside gap => gap
  | .unclosed gap opener body => gap ++ opener.render :: body
  | .fenced gap opener body closer rest => gap ++ opener.render :: (body ++ closer :: rest.lines)

/-- Every line stands where a scan puts it. -/
def Scanned : Outline → Prop
  | .outside gap => Unopened gap
  | .unclosed gap opener body => Unopened gap ∧ opener.Valid ∧ Unclosed body
  | .fenced gap opener body closer rest =>
    Unopened gap ∧ opener.Valid ∧ Unclosed body ∧ Fence.isCloser closer = true ∧ rest.Scanned

end Outline

/-- The outline of the lines of a document. -/
def outline (lines : List Text) : Outline := .scan (.outside []) lines

/-! ## Stretches of lines -/

theorem unopened_nil : Unopened [] := fun _ member => absurd member List.not_mem_nil

theorem unclosed_nil : Unclosed [] := fun _ member => absurd member List.not_mem_nil

theorem Unclosed.unopened {lines : List Text} (unclosed : Unclosed lines) : Unopened lines :=
  fun line member => Fence.opener?_of_not_isCloser (unclosed line member)

theorem Unopened.append {lines others : List Text} (first : Unopened lines)
    (second : Unopened others) : Unopened (lines ++ others) :=
  List.forall_mem_append.mpr ⟨first, second⟩

theorem Unclosed.append {lines others : List Text} (first : Unclosed lines)
    (second : Unclosed others) : Unclosed (lines ++ others) :=
  List.forall_mem_append.mpr ⟨first, second⟩

theorem unclosed_replicate (count : Nat) : Unclosed (List.replicate count []) := by
  intro line member
  rw [List.eq_of_mem_replicate member]
  decide

theorem unopened_replicate (count : Nat) : Unopened (List.replicate count []) :=
  (unclosed_replicate count).unopened

theorem unopened_map_dropReturn {lines : List Text} (unopened : Unopened lines) :
    Unopened (lines.map dropReturn) := by
  intro line member
  obtain ⟨line, present, rfl⟩ := List.mem_map.mp member
  exact Fence.opener?_dropReturn_eq_none (unopened line present)

theorem unclosed_map_dropReturn {lines : List Text} (unclosed : Unclosed lines) :
    Unclosed (lines.map dropReturn) := by
  intro line member
  obtain ⟨line, present, rfl⟩ := List.mem_map.mp member
  rw [Fence.isCloser_dropReturn, unclosed line present]

/-- The lines start with the opener of a fence, or there are none. -/
def Opening (lines : List Text) : Prop := ∀ line ∈ lines.head?, Fence.opener? line ≠ none

theorem opening_nil : Opening [] := fun _ none => by cases none

theorem opening_render {opener : Fence.Opener} (valid : opener.Valid) (lines : List Text) :
    Opening (opener.render :: lines) := by
  rintro line ⟨⟩
  rw [Fence.opener?_render valid]
  exact Option.some_ne_none opener

/-- The lines up to the next fence. -/
theorem unopened_append_opening (lines : List Text) :
    ∃ gap rest, lines = gap ++ rest ∧ Unopened gap ∧ Opening rest := by
  induction lines with
  | nil => exact ⟨[], [], rfl, unopened_nil, opening_nil⟩
  | cons line lines ih =>
    cases opens : Fence.opener? line with
    | some opener =>
      refine ⟨[], line :: lines, rfl, unopened_nil, ?_⟩
      rintro first ⟨⟩
      rw [opens]
      exact Option.some_ne_none opener
    | none =>
      obtain ⟨gap, rest, rfl, unopened, opening⟩ := ih
      exact ⟨line :: gap, rest, rfl, List.forall_mem_cons.mpr ⟨opens, unopened⟩, opening⟩

/-- The first line that closes a fence, if there is one. -/
theorem unclosed_or_split (lines : List Text) :
    Unclosed lines ∨ ∃ body closer after, lines = body ++ closer :: after ∧ Unclosed body ∧
      Fence.isCloser closer = true := by
  induction lines with
  | nil => exact .inl unclosed_nil
  | cons line lines ih =>
    cases closes : Fence.isCloser line with
    | true => exact .inr ⟨[], line, lines, rfl, unclosed_nil, closes⟩
    | false =>
      rcases ih with unclosed | ⟨body, closer, after, rfl, unclosed, ends⟩
      · exact .inl (List.forall_mem_cons.mpr ⟨closes, unclosed⟩)
      · exact .inr ⟨line :: body, closer, after, rfl,
          List.forall_mem_cons.mpr ⟨closes, unclosed⟩, ends⟩

/-! ## Spans of the reader -/

theorem proseSpan_append {gap lines : List Text} (unopened : Unopened gap)
    (opening : Opening lines) : Block.proseSpan (gap ++ lines) = (gap, lines) := by
  have passes : ∀ line ∈ gap, (Fence.opener? line).isNone = true := fun line member => by
    rw [unopened line member]
    rfl
  rw [Block.proseSpan, List.takeWhile_append_of_pos passes, List.dropWhile_append_of_pos passes]
  cases lines with
  | nil => rw [List.takeWhile_nil, List.dropWhile_nil, List.append_nil]
  | cons line rest =>
    have stops : (Fence.opener? line).isNone = false := by
      rw [Option.isNone_eq_false_iff, Option.isSome_iff_ne_none]
      exact opening line rfl
    rw [List.takeWhile_cons_of_neg (by simp [stops]), List.dropWhile_cons_of_neg (by simp [stops]),
      List.append_nil]

private theorem not_isCloser {body : List Text} (unclosed : Unclosed body) :
    ∀ line ∈ body, (!Fence.isCloser line) = true := fun line member => by
  rw [unclosed line member]
  rfl

theorem bodySpan_append {body : List Text} (unclosed : Unclosed body) {closer : Text}
    (closes : Fence.isCloser closer = true) (lines : List Text) :
    Block.bodySpan (body ++ closer :: lines) = (body, lines) := by
  have stays := not_isCloser unclosed
  rw [Block.bodySpan, List.takeWhile_append_of_pos stays, List.dropWhile_append_of_pos stays,
    List.takeWhile_cons_of_neg (by simp [closes]), List.dropWhile_cons_of_neg (by simp [closes]),
    List.append_nil]
  rfl

theorem bodySpan_unclosed {body : List Text} (unclosed : Unclosed body) :
    Block.bodySpan body = (body, []) := by
  have stays := not_isCloser unclosed
  rw [Block.bodySpan, List.takeWhile_eq_self_iff.mpr stays, List.dropWhile_eq_nil_iff.mpr stays]
  rfl

/-! ## Scanning -/

namespace Outline

variable {gap body stretch : List Text} {opener : Fence.Opener} {line : Text}

theorem scan_outside_append (unopened : Unopened stretch) (rest : List Text) :
    scan (.outside gap) (stretch ++ rest) = scan (.outside (gap ++ stretch)) rest := by
  induction stretch generalizing gap with
  | nil => rw [List.nil_append, List.append_nil]
  | cons line stretch ih =>
    have closed := unopened line (List.mem_cons_self ..)
    rw [List.cons_append, scan, closed]
    dsimp only
    rw [ih (fun other member => unopened other (List.mem_cons_of_mem _ member)), List.append_assoc]
    rfl

theorem scan_opener (opens : Fence.opener? line = some opener) (rest : List Text) :
    scan (.outside gap) (line :: rest) = scan (.inside gap opener []) rest := by
  rw [scan, opens]

theorem scan_inside_append (unclosed : Unclosed stretch) (rest : List Text) :
    scan (.inside gap opener body) (stretch ++ rest) =
      scan (.inside gap opener (body ++ stretch)) rest := by
  induction stretch generalizing body with
  | nil => rw [List.nil_append, List.append_nil]
  | cons line stretch ih =>
    have stays := unclosed line (List.mem_cons_self ..)
    rw [List.cons_append, scan, if_neg (by simp [stays])]
    rw [ih (fun other member => unclosed other (List.mem_cons_of_mem _ member)), List.append_assoc]
    rfl

theorem scan_closer (closes : Fence.isCloser line = true) (rest : List Text) :
    scan (.inside gap opener body) (line :: rest) =
      .fenced gap opener body line (outline rest) := by
  rw [scan, if_pos closes, outline]

/-- A whole fence, written without anything missing. -/
theorem scan_fence (valid : opener.Valid) (unclosed : Unclosed body)
    (closes : Fence.isCloser line = true) (rest : List Text) :
    scan (.outside gap) (opener.render :: (body ++ line :: rest)) =
      .fenced gap opener body line (outline rest) := by
  rw [scan_opener (Fence.opener?_render valid), scan_inside_append unclosed, List.nil_append,
    scan_closer closes]

end Outline

/-- The lines that the scan has taken up so far. -/
def Standing.lines : Standing → List Text
  | .outside gap => gap
  | .inside gap opener body => gap ++ opener.render :: body

/-- The lines taken up so far stand where the scan puts them. -/
def Standing.Scanned : Standing → Prop
  | .outside gap => Unopened gap
  | .inside gap opener body => Unopened gap ∧ opener.Valid ∧ Unclosed body

theorem Outline.lines_scan (standing : Standing) (scanned : standing.Scanned) (lines : List Text) :
    (Outline.scan standing lines).lines = standing.lines ++ lines ∧
      (Outline.scan standing lines).Scanned := by
  induction lines generalizing standing with
  | nil =>
    rw [List.append_nil]
    cases standing with
    | outside gap => exact ⟨rfl, scanned⟩
    | inside gap opener body => exact ⟨rfl, scanned⟩
  | cons line rest ih =>
    cases standing with
    | outside gap =>
      cases opens : Fence.opener? line with
      | none =>
        rw [← List.singleton_append, scan_outside_append (by simpa [Unopened] using opens)]
        have step := ih (.outside (gap ++ [line]))
          (scanned.append (by simpa [Unopened] using opens))
        exact ⟨step.1.trans (List.append_assoc ..), step.2⟩
      | some opener =>
        obtain ⟨valid, rfl⟩ := Fence.opener?_eq_some_iff.mp opens
        rw [scan_opener opens]
        have step := ih (.inside gap opener []) ⟨scanned, valid, unclosed_nil⟩
        exact ⟨step.1.trans (List.append_assoc gap [opener.render] rest), step.2⟩
    | inside gap opener body =>
      obtain ⟨unopened, valid, unclosed⟩ := scanned
      cases closes : Fence.isCloser line with
      | true =>
        have step := ih (.outside []) unopened_nil
        rw [scan_closer closes]
        refine ⟨?_, unopened, valid, unclosed, closes, step.2⟩
        rw [Outline.lines, outline, step.1]
        simp [Standing.lines]
      | false =>
        have stays : Unclosed [line] := by simpa [Unclosed] using closes
        rw [← List.singleton_append, scan_inside_append stays]
        have step := ih (.inside gap opener (body ++ [line]))
          ⟨unopened, valid, unclosed.append stays⟩
        refine ⟨step.1.trans ?_, step.2⟩
        simp [Standing.lines]

@[simp] theorem lines_outline (lines : List Text) : (outline lines).lines = lines :=
  (Outline.lines_scan (.outside []) unopened_nil lines).1

theorem scanned_outline (lines : List Text) : (outline lines).Scanned :=
  (Outline.lines_scan (.outside []) unopened_nil lines).2

/-- What holds of every line holds of the parts, and the other way round. -/
theorem Outline.forall_lines_unclosed {p : Text → Prop} {gap body : List Text}
    {opener : Fence.Opener} :
    (∀ line ∈ (unclosed gap opener body).lines, p line) ↔
      (∀ line ∈ gap, p line) ∧ p opener.render ∧ ∀ line ∈ body, p line := by
  simp only [lines, List.forall_mem_append, List.forall_mem_cons]

theorem Outline.forall_lines_fenced {p : Text → Prop} {gap body : List Text}
    {opener : Fence.Opener} {closer : Text} {rest : Outline} :
    (∀ line ∈ (fenced gap opener body closer rest).lines, p line) ↔
      (∀ line ∈ gap, p line) ∧ p opener.render ∧ (∀ line ∈ body, p line) ∧ p closer ∧
        ∀ line ∈ rest.lines, p line := by
  simp only [lines, List.forall_mem_append, List.forall_mem_cons]

/-! ## Empty lines around prose -/

/-- The first and the last line are not empty. -/
structure Framed (lines : List Text) : Prop where
  first : ∃ line rest, lines = line :: rest ∧ line ≠ []
  last : ∃ rest line, lines = rest ++ [line] ∧ line ≠ []

theorem dropBlankEnd_append (count : Nat) :
    ∀ {lines : List Text}, (∃ rest line, lines = rest ++ [line] ∧ line ≠ []) →
      Block.dropBlankEnd (lines ++ List.replicate count []) = (lines, count) := by
  have empties : ∀ n : Nat, Block.dropBlankEnd (List.replicate n []) = ([], n) := by
    intro n
    induction n with
    | zero => rfl
    | succ n ih => rw [List.replicate_succ, Block.dropBlankEnd, ih]; rfl
  intro lines
  induction lines with
  | nil => rintro ⟨rest, line, split, _⟩; cases rest <;> cases split
  | cons first others ih =>
    rintro ⟨rest, line, split, visible⟩
    rw [List.cons_append, Block.dropBlankEnd]
    cases rest with
    | nil =>
      simp only [List.nil_append, List.cons.injEq] at split
      obtain ⟨rfl, rfl⟩ := split
      rw [List.nil_append, empties]
      simp only [visible, ↓reduceIte]
    | cons head rest =>
      simp only [List.cons_append, List.cons.injEq] at split
      obtain ⟨rfl, split⟩ := split
      rw [ih ⟨rest, line, split, visible⟩, split]
      cases rest <;> rfl

theorem takeWhile_isEmpty_replicate (count : Nat) {lines : List Text}
    (visible : ∀ line ∈ lines.head?, line ≠ []) :
    (List.replicate count [] ++ lines).takeWhile List.isEmpty = List.replicate count [] ∧
      (List.replicate count [] ++ lines).dropWhile List.isEmpty = lines := by
  have empties : ∀ line ∈ List.replicate count ([] : Text), line.isEmpty = true :=
    fun line member => by rw [List.eq_of_mem_replicate member]; rfl
  rw [List.takeWhile_append_of_pos empties, List.dropWhile_append_of_pos empties]
  cases lines with
  | nil => exact ⟨List.append_nil _, rfl⟩
  | cons line rest =>
    have stops : line.isEmpty = false := by
      rw [Bool.eq_false_iff, Ne, List.isEmpty_iff]
      exact visible line rfl
    rw [List.takeWhile_cons_of_neg (by simp [stops]), List.dropWhile_cons_of_neg (by simp [stops])]
    exact ⟨List.append_nil _, rfl⟩

/-- The empty lines at the start, and the others. -/
theorem exists_replicate_append (lines : List Text) :
    ∃ count rest, lines = List.replicate count [] ++ rest ∧ ∀ line ∈ rest.head?, line ≠ [] := by
  induction lines with
  | nil => exact ⟨0, [], rfl, nofun⟩
  | cons line lines ih =>
    by_cases empty : line = []
    · obtain ⟨count, rest, rfl, visible⟩ := ih
      exact ⟨count + 1, rest, by rw [empty]; rfl, visible⟩
    · refine ⟨0, line :: lines, rfl, ?_⟩
      rintro first ⟨⟩
      exact empty

/-- A stretch of lines is empty lines around lines that are framed, or empty lines alone. -/
theorem gap_cases (gap : List Text) :
    (∃ count, gap = List.replicate count []) ∨
      ∃ before middle after, Framed middle ∧
        gap = List.replicate before [] ++ middle ++ List.replicate after [] := by
  induction gap with
  | nil => exact .inl ⟨0, rfl⟩
  | cons line rest ih =>
    by_cases empty : line = []
    · subst empty
      rcases ih with ⟨count, rfl⟩ | ⟨before, middle, after, framed, rfl⟩
      · exact .inl ⟨count + 1, rfl⟩
      · exact .inr ⟨before + 1, middle, after, framed, rfl⟩
    · right
      rcases ih with ⟨count, rfl⟩ | ⟨before, middle, after, framed, rfl⟩
      · exact ⟨0, [line], count, ⟨⟨line, [], rfl, empty⟩, ⟨[], line, rfl, empty⟩⟩, rfl⟩
      · obtain ⟨others, last, rfl, visible⟩ := framed.last
        refine ⟨0, line :: (List.replicate before [] ++ (others ++ [last])), after,
          ⟨⟨line, _, rfl, empty⟩, ⟨line :: (List.replicate before [] ++ others), last, ?_, visible⟩⟩,
          rfl⟩
        simp

/-! ## Reading an outline -/

/-- Takes up the lines since the last fence. -/
def addGap (cells : List Cell) (gap : List Text) : Reading :=
  match gap.dropWhile List.isEmpty with
  | [] => ⟨cells, gap.length⟩
  | line :: rest =>
    ⟨Reading.addBlock cells (gap.takeWhile List.isEmpty).length
      (.prose (Block.dropBlankEnd (line :: rest)).1), (Block.dropBlankEnd (line :: rest)).2⟩

/-- Takes up a fence and the lines before it. -/
def addFence (cells : List Cell) (gap : List Text) (opener : Fence.Opener) (body : List Text) :
    List Cell :=
  Reading.addBlock (addGap cells gap).cells (addGap cells gap).blanks (.fenced opener body)

/-- The cells of an outline, after cells that have been read, latest first. -/
def Outline.read : Outline → List Cell → List Cell
  | .outside gap, cells => (addGap cells gap).finish
  | .unclosed gap opener body, cells => Reading.finish ⟨addFence cells gap opener body, 0⟩
  | .fenced gap opener body _ rest, cells => rest.read (addFence cells gap opener body)

@[simp] theorem addGap_replicate (cells : List Cell) (count : Nat) :
    addGap cells (List.replicate count []) = ⟨cells, count⟩ := by
  have ends := (@takeWhile_isEmpty_replicate count [] (by simp)).2
  rw [List.append_nil] at ends
  rw [addGap, ends, List.length_replicate]

theorem addGap_visible (cells : List Cell) (before : Nat) {line : Text} (visible : line ≠ [])
    (rest : List Text) :
    addGap cells (List.replicate before [] ++ line :: rest) =
      ⟨Reading.addBlock cells before (.prose (Block.dropBlankEnd (line :: rest)).1),
        (Block.dropBlankEnd (line :: rest)).2⟩ := by
  have halves := @takeWhile_isEmpty_replicate before (line :: rest) (by
    rintro other ⟨⟩
    exact visible)
  rw [addGap, halves.1, halves.2, List.length_replicate]

theorem addGap_framed (cells : List Cell) {middle : List Text} (framed : Framed middle)
    (before after : Nat) :
    addGap cells (List.replicate before [] ++ middle ++ List.replicate after []) =
      ⟨Reading.addBlock cells before (.prose middle), after⟩ := by
  obtain ⟨line, rest, split, visible⟩ := framed.first
  rw [List.append_assoc, split, List.cons_append, addGap_visible cells before visible,
    ← List.cons_append, ← split, dropBlankEnd_append after framed.last]

theorem Outline.read_inside (gap : List Text) (opener : Fence.Opener) (rest : List Text)
    (cells : List Cell) :
    (Outline.scan (.inside gap opener []) rest).read cells =
      (outline (Block.bodySpan rest).2).read (addFence cells gap opener (Block.bodySpan rest).1) := by
  rcases unclosed_or_split rest with unclosed | ⟨body, closer, after, rfl, unclosed, closes⟩
  · have scanned := @scan_inside_append gap [] rest opener unclosed []
    rw [List.append_nil, List.nil_append] at scanned
    rw [scanned, bodySpan_unclosed unclosed]
    exact congrArg Reading.finish (addGap_replicate _ 0).symm
  · rw [scan_inside_append unclosed, List.nil_append, scan_closer closes,
      bodySpan_append unclosed closes]
    rfl

private theorem ofLines_opener {line : Text} {opener : Fence.Opener}
    (opens : Fence.opener? line = some opener) (rest : List Text) (cells : List Cell) (blanks : Nat) :
    (Block.ofLines (line :: rest)).foldl Reading.add ⟨cells, blanks⟩ =
      (Block.ofLines ((Block.bodySpan rest).2.dropWhile List.isEmpty)).foldl Reading.add
        ⟨Reading.addBlock cells blanks (.fenced opener (Block.bodySpan rest).1),
          ((Block.bodySpan rest).2.takeWhile List.isEmpty).length⟩ := by
  rw [Block.ofLines, opens]
  rfl

private theorem ofLines_prose {line : Text} (closed : Fence.opener? line = none)
    (rest : List Text) (cells : List Cell) (blanks : Nat) :
    (Block.ofLines (line :: rest)).foldl Reading.add ⟨cells, blanks⟩ =
      (Block.ofLines (Block.proseSpan rest).2).foldl Reading.add
        ⟨Reading.addBlock cells blanks
            (.prose (Block.dropBlankEnd (line :: (Block.proseSpan rest).1)).1),
          (Block.dropBlankEnd (line :: (Block.proseSpan rest).1)).2⟩ := by
  rw [Block.ofLines, closed]
  rfl

/-- The blocks of lines are read as the outline of the lines is. -/
theorem foldl_add_ofLines (lines : List Text) (cells : List Cell) :
    ((Block.ofLines (lines.dropWhile List.isEmpty)).foldl Reading.add
      ⟨cells, (lines.takeWhile List.isEmpty).length⟩).finish = (outline lines).read cells := by
  induction size : lines.length using Nat.strong_induction_on generalizing lines cells with
  | _ size ih =>
  subst size
  -- Behind a fence there are fewer lines, and those are read as their outline is.
  have after_fence : ∀ gap line opener rest, Fence.opener? line = some opener →
      rest.length < lines.length →
      ((Block.ofLines (line :: rest)).foldl Reading.add (addGap cells gap)).finish =
        (Outline.scan (.outside gap) (line :: rest)).read cells := by
    intro gap line opener rest opens shorter
    have bound := Block.bodySpan_length_le rest
    rw [Outline.scan_opener opens, Outline.read_inside]
    exact (congrArg Reading.finish (ofLines_opener opens rest _ _)).trans
      (ih _ (by omega) (Block.bodySpan rest).2 _ rfl)
  obtain ⟨before, tail, rfl, visible⟩ := exists_replicate_append lines
  have halves := takeWhile_isEmpty_replicate before visible
  rw [halves.1, halves.2, List.length_replicate, outline,
    Outline.scan_outside_append (unopened_replicate before), List.nil_append,
    ← addGap_replicate cells before]
  cases tail with
  | nil =>
    rw [Block.ofLines]
    rfl
  | cons line rest =>
    rw [List.length_append, List.length_cons] at after_fence
    cases opens : Fence.opener? line with
    | some opener => exact after_fence _ line opener rest opens (by omega)
    | none =>
      obtain ⟨stretch, others, rfl, unopened, opening⟩ := unopened_append_opening rest
      have whole : Unopened (line :: stretch) := List.forall_mem_cons.mpr ⟨opens, unopened⟩
      rw [addGap_replicate, ofLines_prose opens, proseSpan_append unopened opening,
        ← List.cons_append, Outline.scan_outside_append whole,
        ← addGap_visible cells before (visible line rfl)]
      cases others with
      | nil =>
        rw [Block.ofLines]
        rfl
      | cons next others =>
        obtain ⟨opener, next_opens⟩ := Option.ne_none_iff_exists'.mp (opening next rfl)
        rw [List.length_append, List.length_cons] at after_fence
        exact after_fence _ next opener others next_opens (by omega)

/-- A text with a second line is read along the outline of its lines. -/
theorem parse_eq_read {text : Text} (long : 2 ≤ text.pieces.length) :
    parse text = (outline ((readerLines text).dropWhile List.isEmpty)).read [] := by
  have start : ∀ lines : List Text,
      ((lines.dropWhile List.isEmpty).takeWhile List.isEmpty).length = 0 ∧
        (lines.dropWhile List.isEmpty).dropWhile List.isEmpty = lines.dropWhile List.isEmpty := by
    intro lines
    induction lines with
    | nil => exact ⟨rfl, rfl⟩
    | cons line rest ih => cases line with
      | nil => exact ih
      | cons c line => exact ⟨rfl, rfl⟩
  have short : ¬ (readerLines text).length < 2 := by
    rw [readerLines, List.length_map]
    omega
  rw [parse, if_neg short, ← foldl_add_ofLines, (start _).1, (start _).2]

end Notebook.Document
