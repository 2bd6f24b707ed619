import Notebook.Proofs.Source.Routing
import Notebook.Proofs.Text.Lines

/-! # Labels of lines

Routing goes by lines: a line with no bracket open ahead of it is asked for its place, and any other
stays with the line that opened the statement it is in. Here the depth ahead of each line is counted
on the mask, and each line gets its label, without statements; the parts of a routed cell are then
the lines of each label, in their order. Nothing is assumed of the brackets.
-/

namespace Notebook.Source

/-! ## Depths and labels -/

/-- The bracket depth ahead of each line, given the one ahead of the first. -/
def depthsFrom : Nat → List Text → List Nat
  | _, [] => []
  | depth, line :: rest => depth :: depthsFrom (line.foldl depthStep depth).toNat rest

/-- The bracket depth ahead of each line of a source, counted on its mask. -/
def depths (lexicon : Lexicon) (source : Text) : List Nat :=
  depthsFrom 0 (mask lexicon source).pieces

/-- The masked lines with no bracket open ahead of them, trimmed. -/
def askedLines (lexicon : Lexicon) (source : Text) : List Text :=
  (((mask lexicon source).pieces.zip (depths lexicon source)).filter (·.2 = 0)).map
    fun asked => Text.trim asked.1

/-- The lines with a label. -/
def linesLabelled (placement : Placement) (labels : List Placement) (lines : List Text) :
    List Text :=
  ((lines.zip labels).filter (·.2 = placement)).map (·.1)

/-- Every line has a label: what the classifier says of it if no bracket is open ahead of it, and
otherwise the label of the line that opened the statement. -/
structure IsLabelling (lexicon : Lexicon) (classify : Text → Placement) (source : Text)
    (labels : List Placement) : Prop where
  length : labels.length = source.pieces.length
  asked : ∀ (index : Nat) (line : Text), (depths lexicon source)[index]? = some 0 →
    (mask lexicon source).pieces[index]? = some line →
      labels[index]? = some (classify line.trim)
  carried : ∀ (index depth : Nat), (depths lexicon source)[index]? = some (depth + 1) →
    ∃ opener < index, (depths lexicon source)[opener]? = some 0 ∧
      (∀ between, opener < between → between ≤ index →
        (depths lexicon source)[between]? ≠ some 0) ∧
      labels[index]? = labels[opener]?

/-- A routed source goes by labels of its lines. -/
structure IsRoutedBy (source : Text) (labels : List Placement) (routed : Routed) : Prop where
  outer : routed.outer = Text.ofLines (linesLabelled .outer labels source.pieces)
  inner : routed.inner = Text.ofLines (linesLabelled .inner labels source.pieces)
  /-- The lines fall into runs with one label each, and the imports are such runs. -/
  imports : ∃ runs : List (Placement × List Text), (∀ run ∈ runs, run.2 ≠ []) ∧
    runs.flatMap (·.2) = source.pieces ∧
    (runs.flatMap fun run => List.replicate run.2.length run.1) = labels ∧
    routed.imports = (runs.filter (·.1 = .imported)).map fun run =>
      Text.trimEnd (Text.ofLines run.2)

/-! ## Lines of a source -/

theorem ofLines_pieces_eq (text : Text) : Text.ofLines text.pieces = text ++ ['\n'] := by
  rw [Text.ofLines_eq (Text.pieces_ne_nil text), Text.ofPieces_pieces]

section

variable {lexicon : Lexicon} {source : Text}

theorem shown_ne_newline {line : List Glyph} (isLine : line ∈ glyphLines lexicon source)
    {glyph : Glyph} (member : glyph ∈ line) : glyph.shown ≠ '\n' := by
  simpa using (of_mem_splitOnP isLine member).2

theorem map_sourceText_glyphLines (lexicon : Lexicon) (source : Text) :
    (glyphLines lexicon source).map Glyph.sourceText = source.pieces := by
  apply Text.ofLines_inj
  · intro text member
    obtain ⟨line, isLine, rfl⟩ := List.mem_map.mp member
    intro newline
    obtain ⟨glyph, isGlyph, ends⟩ := List.mem_filterMap.mp newline
    have inSource := (of_mem_splitOnP isLine isGlyph).1
    exact shown_ne_newline isLine isGlyph ((shown_eq_newline_iff inSource).mpr ends)
  · exact fun _ => Text.newline_not_mem_of_mem_pieces
  · rw [ofLines_sourceText, ofLines_pieces_eq]

theorem map_shownText_glyphLines (lexicon : Lexicon) (source : Text) :
    (glyphLines lexicon source).map Glyph.shownText = (mask lexicon source).pieces := by
  apply Text.ofLines_inj
  · intro text member
    obtain ⟨line, isLine, rfl⟩ := List.mem_map.mp member
    intro newline
    obtain ⟨glyph, isGlyph, ends⟩ := List.mem_map.mp newline
    exact shown_ne_newline isLine isGlyph ends
  · exact fun _ => Text.newline_not_mem_of_mem_pieces
  · rw [ofLines_shownText, ofLines_pieces_eq]

end

/-! ## Labels line by line -/

/-- Labels of masked lines, given the depth ahead of the first and the label of the statement it
may stand in. -/
def labelsFrom (classify : Text → Placement) : Placement → Nat → List Text → List Placement
  | _, _, [] => []
  | current, depth, line :: rest =>
    let label := if depth = 0 then classify line.trim else current
    label :: labelsFrom classify label (line.foldl depthStep depth).toNat rest

/-- The labels that statements give to their lines. -/
def statementLabels (classify : Text → Placement) (groups : List (List (List Glyph))) :
    List Placement :=
  groups.flatMap fun statement =>
    List.replicate statement.length (classify (leadLine statement))

section

variable {classify : Text → Placement}

theorem length_labelsFrom (current : Placement) (depth : Nat) (lines : List Text) :
    (labelsFrom classify current depth lines).length = lines.length := by
  induction lines generalizing current depth with
  | nil => rfl
  | cons line rest ih => rw [labelsFrom, List.length_cons, List.length_cons, ih]

theorem asked_labelsFrom {index : Nat} {line : Text} {current : Placement} {depth : Nat}
    {lines : List Text} (unopened : (depthsFrom depth lines)[index]? = some 0)
    (isLine : lines[index]? = some line) :
    (labelsFrom classify current depth lines)[index]? = some (classify line.trim) := by
  induction lines generalizing index current depth with
  | nil => cases isLine
  | cons first rest ih =>
    cases index with
    | zero =>
      obtain rfl := Option.some_inj.mp isLine
      obtain rfl := Option.some_inj.mp unopened
      rfl
    | succ index => exact ih unopened isLine

/-- Inside a statement a line has the label of the line that opened it, and ahead of any such line
the label that is carried along. -/
theorem carried_labelsFrom {index deeper : Nat} {current : Placement} {depth : Nat}
    {lines : List Text} (opened : (depthsFrom depth lines)[index]? = some (deeper + 1)) :
    (∃ opener < index, (depthsFrom depth lines)[opener]? = some 0 ∧
      (∀ between, opener < between → between ≤ index →
        (depthsFrom depth lines)[between]? ≠ some 0) ∧
      (labelsFrom classify current depth lines)[index]? =
        (labelsFrom classify current depth lines)[opener]?) ∨
    (∀ between ≤ index, (depthsFrom depth lines)[between]? ≠ some 0) ∧
      (labelsFrom classify current depth lines)[index]? = some current := by
  induction lines generalizing index current depth with
  | nil => cases opened
  | cons first rest ih =>
    cases index with
    | zero =>
      obtain rfl : depth = deeper + 1 := Option.some_inj.mp opened
      refine .inr ⟨?_, by simp [labelsFrom]⟩
      intro between atStart
      obtain rfl := Nat.le_zero.mp atStart
      simp [depthsFrom]
    | succ index =>
      rw [depthsFrom, List.getElem?_cons_succ] at opened
      rw [depthsFrom, labelsFrom]
      rcases @ih _ (if depth = 0 then classify first.trim else current) _ opened with
        ⟨opener, before, unopened, inside, same⟩ | ⟨inside, same⟩
      · refine .inl ⟨opener + 1, Nat.succ_lt_succ before, unopened, ?_, same⟩
        intro between behind upTo
        obtain ⟨between, rfl⟩ := Nat.exists_eq_succ_of_ne_zero (Nat.ne_zero_of_lt behind)
        exact inside between (Nat.lt_of_succ_lt_succ behind) (Nat.le_of_succ_le_succ upTo)
      · rcases Nat.eq_zero_or_pos depth with rfl | positive
        · refine .inl ⟨0, Nat.succ_pos index, rfl, ?_, same⟩
          intro between behind upTo
          obtain ⟨between, rfl⟩ := Nat.exists_eq_succ_of_ne_zero (Nat.ne_zero_of_lt behind)
          exact inside between (Nat.le_of_succ_le_succ upTo)
        · rw [if_neg positive.ne'] at same ⊢
          refine .inr ⟨?_, same⟩
          intro between upTo
          cases between with
          | zero =>
            rw [List.getElem?_cons_zero, Ne, Option.some_inj]
            exact positive.ne'
          | succ between => exact inside between (Nat.le_of_succ_le_succ upTo)

/-- A line that leaves no bracket open ends its statement, and any other starts or continues the
statement of the lines behind it. -/
theorem groupLines_cons (depth : Nat) (line : List Glyph) (rest : List (List Glyph)) :
    groupLines depth (line :: rest) =
      if lineDepth depth line = 0 then [line] :: groupLines 0 rest
      else (line :: (groupLines (lineDepth depth line) rest).headD []) ::
        (groupLines (lineDepth depth line) rest).tail := by
  rw [groupLines]
  split_ifs with ends
  · rfl
  · cases groupLines (lineDepth depth line) rest with
    | nil => rfl
    | cons statement others => rfl

theorem statementLabels_eq (groups : List (List (List Glyph))) :
    statementLabels classify groups =
      List.replicate (groups.headD []).length (classify (leadLine (groups.headD []))) ++
        statementLabels classify groups.tail := by
  cases groups with
  | nil => rfl
  | cons statement others => rfl

/-- Statements give their lines the labels that are carried along. If brackets are open ahead, the
first statement goes on, and its lines have the label that it started with. -/
theorem labelsFrom_groupLines (current : Placement) (depth : Nat) (lines : List (List Glyph)) :
    labelsFrom classify current depth (lines.map Glyph.shownText) =
      List.replicate ((groupLines depth lines).headD []).length
        (if depth = 0 then classify (leadLine ((groupLines depth lines).headD [])) else current) ++
          statementLabels classify (groupLines depth lines).tail := by
  induction lines generalizing current depth with
  | nil => rfl
  | cons line rest ih =>
    generalize isLabel : (if depth = 0 then classify (Glyph.shownText line).trim else current) =
      label
    have step : labelsFrom classify current depth ((line :: rest).map Glyph.shownText) =
        label :: labelsFrom classify label (lineDepth depth line) (rest.map Glyph.shownText) := by
      rw [← isLabel]
      rfl
    rw [step, ih, groupLines_cons]
    by_cases ends : lineDepth depth line = 0
    · rw [if_pos ends, if_pos ends, ends, ← statementLabels_eq]
      change label :: _ = (if depth = 0 then classify (Glyph.shownText line).trim else current) :: _
      rw [isLabel]
      rfl
    · rw [if_neg ends, if_neg ends]
      change _ = List.replicate (((groupLines (lineDepth depth line) rest).headD []).length + 1)
        (if depth = 0 then classify (Glyph.shownText line).trim else current) ++ _
      rw [isLabel]
      rfl

/-- The lines that are asked for are those that open statements. -/
theorem map_leadLine_groupLines (depth : Nat) (lines : List (List Glyph)) :
    (((lines.map Glyph.shownText).zip (depthsFrom depth (lines.map Glyph.shownText))).filter
      (·.2 = 0)).map (fun asked => Text.trim asked.1) =
        if depth = 0 then (groupLines depth lines).map leadLine
        else (groupLines depth lines).tail.map leadLine := by
  induction lines generalizing depth with
  | nil => exact (ite_self _).symm
  | cons line rest ih =>
    have behind := ih (lineDepth depth line)
    have step : depthsFrom depth ((line :: rest).map Glyph.shownText) =
        depth :: depthsFrom (lineDepth depth line) (rest.map Glyph.shownText) := rfl
    rw [step, List.map_cons, List.zip_cons_cons, groupLines_cons]
    by_cases opens : depth = 0
    · rw [List.filter_cons_of_pos (by simpa using opens), List.map_cons, behind, if_pos opens]
      split_ifs with ends
      · rw [ends]
        rfl
      · rfl
    · rw [List.filter_cons_of_neg (by simpa using opens), behind, if_neg opens]
      split_ifs with ends
      · rw [ends]
        rfl
      · rfl

end

/-! ## Lines of one label -/

theorem linesLabelled_append (placement : Placement) {labels others : List Placement}
    {lines rest : List Text} (length : labels.length = lines.length) :
    linesLabelled placement (labels ++ others) (lines ++ rest) =
      linesLabelled placement labels lines ++ linesLabelled placement others rest := by
  rw [linesLabelled, List.zip_append length.symm, List.filter_append, List.map_append]
  rfl

theorem linesLabelled_replicate (placement label : Placement) (lines : List Text) :
    linesLabelled placement (List.replicate lines.length label) lines =
      if label = placement then lines else [] := by
  induction lines with
  | nil => exact (ite_self _).symm
  | cons line rest ih =>
    rw [linesLabelled] at ih ⊢
    rw [List.length_cons, List.replicate_succ, List.zip_cons_cons]
    by_cases same : label = placement
    · rw [List.filter_cons_of_pos (by simpa using same), List.map_cons, ih, if_pos same, if_pos same]
    · rw [List.filter_cons_of_neg (by simpa using same), ih, if_neg same, if_neg same]

/-- Of runs with one label each, those of a label together hold its lines. -/
theorem linesLabelled_runs (placement : Placement) (runs : List (Placement × List Text)) :
    linesLabelled placement (runs.flatMap fun run => List.replicate run.2.length run.1)
      (runs.flatMap (·.2)) = (runs.filter (·.1 = placement)).flatMap (·.2) := by
  induction runs with
  | nil => rfl
  | cons run rest ih =>
    rw [List.flatMap_cons, List.flatMap_cons,
      linesLabelled_append placement (List.length_replicate ..), linesLabelled_replicate, ih]
    by_cases same : run.1 = placement
    · rw [if_pos same, List.filter_cons_of_pos (by simpa using same), List.flatMap_cons]
    · rw [if_neg same, List.filter_cons_of_neg (by simpa using same), List.nil_append]

/-! ## Routing -/

/-- The statements of a source as runs of lines. -/
def statementRuns (lexicon : Lexicon) (classify : Text → Placement) (source : Text) :
    List (Placement × List Text) :=
  (statements lexicon source).map fun statement =>
    (classify (leadLine statement), statement.map Glyph.sourceText)

theorem statement_ne_nil {depth : Nat} {lines : List (List Glyph)} {statement : List (List Glyph)}
    (member : statement ∈ groupLines depth lines) : statement ≠ [] := by
  induction lines generalizing depth statement with
  | nil => contradiction
  | cons line rest ih =>
    rw [groupLines_cons] at member
    split_ifs at member
    · rcases List.mem_cons.mp member with rfl | member
      · exact List.cons_ne_nil _ _
      · exact ih member
    · rcases List.mem_cons.mp member with rfl | member
      · exact List.cons_ne_nil _ _
      · exact ih (List.mem_of_mem_tail member)

section

variable (lexicon : Lexicon) (classify : Text → Placement) (source : Text)

theorem flatMap_statementRuns :
    (statementRuns lexicon classify source).flatMap (·.2) = source.pieces := by
  rw [statementRuns, List.flatMap_map, ← map_sourceText_glyphLines lexicon source,
    ← flatten_groupLines 0 (glyphLines lexicon source), List.map_flatten]
  rfl

theorem labels_statementRuns :
    ((statementRuns lexicon classify source).flatMap fun run =>
      List.replicate run.2.length run.1) =
        statementLabels classify (statements lexicon source) := by
  rw [statementRuns, List.flatMap_map, statementLabels]
  simp only [List.length_map]

theorem statementLabels_statements (current : Placement) :
    statementLabels classify (statements lexicon source) =
      labelsFrom classify current 0 (mask lexicon source).pieces := by
  rw [← map_shownText_glyphLines, labelsFrom_groupLines, if_pos rfl, statementLabels_eq]
  rfl

theorem isLabelling_statementLabels :
    IsLabelling lexicon classify source
      (statementLabels classify (statements lexicon source)) := by
  rw [statementLabels_statements lexicon classify source .inner]
  refine ⟨?_, fun index line => asked_labelsFrom, fun index depth opened => ?_⟩
  · rw [length_labelsFrom, ← map_shownText_glyphLines, ← map_sourceText_glyphLines lexicon,
      List.length_map, List.length_map]
  · refine (carried_labelsFrom opened).resolve_right fun ⟨inside, _⟩ => ?_
    obtain ⟨first, rest, lines⟩ :=
      List.exists_cons_of_ne_nil (Text.pieces_ne_nil (mask lexicon source))
    rw [lines] at inside
    exact inside 0 (Nat.zero_le index) rfl

theorem isRoutedBy_statementLabels :
    IsRoutedBy source (statementLabels classify (statements lexicon source))
      (route lexicon classify source) := by
  have part (placement : Placement) :
      (((statements lexicon source).filter fun statement =>
        classify (leadLine statement) = placement).flatMap statementText) =
          Text.ofLines (linesLabelled placement
            (statementLabels classify (statements lexicon source)) source.pieces) := by
    rw [← labels_statementRuns, ← flatMap_statementRuns lexicon classify source,
      linesLabelled_runs, statementRuns, List.filter_map, List.flatMap_map]
    exact (flatMap_ofLines Glyph.sourceText _).trans
      (congrArg Text.ofLines List.map_flatten)
  refine ⟨part .outer, part .inner, statementRuns lexicon classify source, ?_,
    flatMap_statementRuns lexicon classify source, labels_statementRuns lexicon classify source, ?_⟩
  · intro run isRun
    obtain ⟨statement, member, rfl⟩ := List.mem_map.mp isRun
    exact List.map_eq_nil_iff.not.mpr (statement_ne_nil member)
  · rw [statementRuns, List.filter_map, List.map_map]
    rfl

theorem askedLines_eq : askedLines lexicon source = (statements lexicon source).map leadLine := by
  have asked := map_leadLine_groupLines 0 (glyphLines lexicon source)
  rw [map_shownText_glyphLines, if_pos rfl] at asked
  exact asked

/-- Routing goes by a labelling of the lines, in which the classifier is asked for exactly the lines
with no bracket open ahead of them, in their order, and other answers of it do not matter. -/
theorem route_isRoutedBy :
    (∃ labels, IsLabelling lexicon classify source labels ∧
      IsRoutedBy source labels (route lexicon classify source)) ∧
    (statements lexicon source).map leadLine = askedLines lexicon source ∧
    ∀ other : Text → Placement, (∀ line ∈ askedLines lexicon source, other line = classify line) →
      route lexicon other source = route lexicon classify source := by
  refine ⟨⟨_, isLabelling_statementLabels lexicon classify source,
    isRoutedBy_statementLabels lexicon classify source⟩, (askedLines_eq lexicon source).symm, ?_⟩
  intro other agree
  rw [askedLines_eq] at agree
  have placed (placement : Placement) :
      ((statements lexicon source).filter fun statement =>
        other (leadLine statement) = placement) =
      (statements lexicon source).filter fun statement =>
        classify (leadLine statement) = placement := by
    apply List.filter_congr
    intro statement member
    rw [agree _ (List.mem_map_of_mem member)]
  rw [route, route]
  simp only [placed]

end

end Notebook.Source
