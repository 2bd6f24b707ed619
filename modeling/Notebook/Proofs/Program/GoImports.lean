import Notebook.Program.Go
import Notebook.Proofs.Program.Imports
import Notebook.Proofs.Source.TopLevel
import Notebook.Proofs.Text.Phrase

/-! # Imports of a Go cell

An import declaration has one spec, or a group of specs with one on a line. A spec is a path in
quotes with an optional name ahead of it and an optional comment behind it. What is collected of a
declaration are its specs as they are written, with their spacing and their comments.
-/

namespace Notebook.Go

/-! ## Specs -/

/-- One import as it is written. -/
structure ImportSpec where
  /-- The name that the package gets; empty if there is none. -/
  name : Text
  gap : Text
  path : Text
  /-- What follows the path on its line. -/
  behind : Text
  isName : ∀ c ∈ name, isBlank c = false ∧ c ∉ ['"', '/', '(']
  isGap : gap.isBlank = true ∧ '\n' ∉ gap
  unnamed : name = [] → gap = []
  isPath : '"' ∉ path ∧ '\n' ∉ path
  isComment : IsComment behind
  ends : behind.trimEnd = behind ∧ '\n' ∉ behind

namespace ImportSpec

variable (spec : ImportSpec)

/-- The spec as it stands on its line. -/
def text : Text :=
  spec.name ++ (spec.gap ++ '"' :: (spec.path ++ '"' :: spec.behind))

/-- A name and a path. -/
def pair : Text × Text :=
  (spec.name, spec.path)

theorem quote_not_mem_start : '"' ∉ spec.name ++ spec.gap := by
  rw [List.mem_append, not_or]
  constructor
  · exact fun member => (spec.isName _ member).2 (List.mem_cons_self ..)
  · exact fun member => nomatch List.all_eq_true.mp spec.isGap.1 _ member

theorem newline_not_mem_text : '\n' ∉ spec.text := by
  have name : '\n' ∉ spec.name := fun member => nomatch (spec.isName _ member).1
  simp [text, name, spec.isGap.2, spec.isPath.2, spec.ends.2]

/-- A spec starts with its name or its quote, and not with a blank. -/
theorem exists_text_eq_cons :
    ∃ c rest, spec.text = c :: (rest ++ '"' :: spec.behind) ∧ isBlank c = false ∧
      c ∉ ['/', '('] := by
  cases named : spec.name with
  | nil =>
    refine ⟨'"', spec.path, ?_, rfl, by decide⟩
    rw [text, named, spec.unnamed named]
    rfl
  | cons c name =>
    obtain ⟨visible, other⟩ := spec.isName c (named ▸ List.mem_cons_self ..)
    refine ⟨c, name ++ (spec.gap ++ '"' :: spec.path), ?_, visible, ?_⟩
    · rw [text, named]
      simp only [List.append_assoc, List.cons_append]
    · simp only [List.mem_cons, not_or] at other ⊢
      exact ⟨other.2.1, other.2.2.1, other.2.2.2⟩

theorem trim_text : spec.text.trim = spec.text := by
  obtain ⟨c, rest, split, visible, _⟩ := spec.exists_text_eq_cons
  have ends : Text.trimEnd ('"' :: spec.behind) = '"' :: spec.behind := by
    rw [← List.nil_append ('"' :: spec.behind), Text.trimEnd_append_of_visible rfl, spec.ends.1]
  rw [split, ← List.cons_append]
  exact Text.trim_append visible (List.cons_ne_nil _ _) ends

theorem text_ne_nil : spec.text ≠ [] := by
  obtain ⟨c, rest, split, _⟩ := spec.exists_text_eq_cons
  rw [split]
  exact List.cons_ne_nil _ _

theorem not_isPrefixOf_text {phrase : Text} {c : Char} (starts : phrase.head? = some c)
    (other : c ∈ ['/', '(']) : phrase.isPrefixOf? spec.text = none := by
  obtain ⟨d, rest, split, _, apart⟩ := spec.exists_text_eq_cons
  obtain ⟨more, rfl⟩ := List.head?_eq_some_iff.mp starts
  rw [split]
  apply Text.isPrefixOf?_cons_of_ne
  rintro rfl
  exact apart other

end ImportSpec

/-- The spec of a path alone. -/
def ImportSpec.ofPath (path : Text) (isPath : '"' ∉ path ∧ '\n' ∉ path) : ImportSpec where
  name := []
  gap := []
  path := path
  behind := []
  isName := fun _ member => absurd member List.not_mem_nil
  isGap := ⟨rfl, List.not_mem_nil⟩
  unnamed := fun _ => rfl
  isPath := isPath
  isComment := isComment_nil
  ends := ⟨rfl, List.not_mem_nil⟩

/-- The name and the path of a spec, read off its text. -/
def imported? (text : Text) : Option (Text × Text) :=
  (text.cut? '"').bind fun (before, rest) =>
    (rest.cut? '"').map fun (path, _) => (before.trim, path)

theorem imported?_text (spec : ImportSpec) : imported? spec.text = some spec.pair := by
  have trimmed : Text.trim (spec.name ++ spec.gap) = spec.name :=
    Text.trim_append_blank (fun c member => (spec.isName c member).1) spec.isGap.1
  have first : spec.text.cut? '"' =
      some (spec.name ++ spec.gap, spec.path ++ '"' :: spec.behind) := by
    rw [ImportSpec.text, ← List.append_assoc]
    exact Text.cut?_append spec.quote_not_mem_start _
  rw [imported?, first, Option.bind_some]
  dsimp only
  rw [Text.cut?_append spec.isPath.1, Option.map_some, trimmed]
  rfl

/-- Two specs of one pair have the same text if they have the same spacing and the same comment. -/
theorem ImportSpec.text_eq_iff {spec other : ImportSpec} (same : spec.pair = other.pair) :
    spec.text = other.text ↔ spec.gap = other.gap ∧ spec.behind = other.behind := by
  obtain ⟨name, path⟩ := Prod.mk.inj same
  constructor
  · intro texts
    rw [text, text, name, List.append_cancel_left_eq] at texts
    have quote : ∀ spec : ImportSpec, '"' ∉ spec.gap := fun spec member =>
      nomatch List.all_eq_true.mp spec.isGap.1 _ member
    have cuts := congrArg (Text.cut? '"') texts
    rw [Text.cut?_append (quote spec), Text.cut?_append (quote other), Option.some_inj,
      Prod.mk.injEq, path, List.append_cancel_left_eq] at cuts
    exact ⟨cuts.1, List.tail_eq_of_cons_eq cuts.2⟩
  · rintro ⟨gap, behind⟩
    rw [text, text, name, gap, path, behind]

/-! ## Declarations -/

/-- A line of a group: blank, a comment, or a spec. -/
inductive IsGroupLine : Text → Option ImportSpec → Prop
  | blank (line : Text) (isBlank : line.isBlank = true) (whole : '\n' ∉ line) :
      IsGroupLine line none
  | comment (indent comment : Text) (isIndent : indent.isBlank = true)
      (whole : '\n' ∉ indent ++ comment) : IsGroupLine (indent ++ ("//" ++ comment)) none
  | spec (indent : Text) (spec : ImportSpec) (after : Text) (isIndent : indent.isBlank = true)
      (isAfter : after.isBlank = true) (whole : '\n' ∉ indent ++ after) :
      IsGroupLine (indent ++ (spec.text ++ after)) (some spec)

/-- The text is an import declaration with these specs. -/
inductive IsImport : Text → List ImportSpec → Prop
  | single (gap : Text) (spec : ImportSpec) (isGap : gap.isBlank = true)
      (apart : gap = [] → spec.name = []) : IsImport ("import" ++ (gap ++ spec.text)) [spec]
  | group (gap : Text) (lines : List (Text × Option ImportSpec)) (isGap : gap.isBlank = true)
      (filled : lines ≠ []) (each : ∀ line ∈ lines, IsGroupLine line.1 line.2) :
      IsImport ("import" ++ (gap ++ '(' :: (Text.ofPieces (lines.map (·.1)) ++ [')'])))
        (lines.filterMap (·.2))

/-- A line of a declaration that is collected. -/
def isCollected (line : Text) : Bool :=
  line ≠ [] && !("//" : Text).isPrefixOf line

/-- Carriage returns at line ends and an empty line at the end make no difference. -/
theorem collected_lines {lines : List Text} (filled : lines ≠ [])
    (whole : ∀ line ∈ lines, '\n' ∉ line) :
    (((Text.lines (Text.ofPieces lines)).map Text.trim).filter isCollected) =
      (lines.map Text.trim).filter isCollected := by
  have dropped : ∀ line : Text, Text.trim (Text.dropReturn line) = line.trim := by
    intro line
    rcases Text.dropReturn_cases line with same | same
    · rw [same]
    · conv_rhs => rw [same, Text.trim_concat rfl]
  obtain ⟨start, last, rfl⟩ := (List.eq_nil_or_concat' lines).resolve_left filled
  rw [Text.lines, Text.pieces_ofPieces whole filled, List.dropLast_concat, List.getLast?_concat,
    List.map_append, List.map_append, List.filter_append, List.filter_append, List.map_map]
  congr 1
  · congr 1
    exact List.map_congr_left fun line _ => dropped line
  · cases last with
    | nil => rfl
    | cons c last => rfl

theorem ImportSpec.isCollected_text (spec : ImportSpec) : isCollected spec.text = true := by
  have noComment : ("//" : Text).isPrefixOf spec.text = false := by
    rw [← List.isSome_isPrefixOf?_eq_isPrefixOf, spec.not_isPrefixOf_text rfl (by decide)]
    rfl
  rw [isCollected, noComment, decide_eq_true spec.text_ne_nil]
  rfl

/-- A line of a group is left out unless it has a spec, which is collected without the blanks around
it. -/
theorem IsGroupLine.collected {line : Text} {spec? : Option ImportSpec}
    (isLine : IsGroupLine line spec?) :
    [line.trim].filter isCollected = spec?.toList.map ImportSpec.text := by
  cases isLine with
  | blank _ isBlank =>
    rw [Text.trim_eq_nil_iff.mpr isBlank]
    rfl
  | comment indent comment isIndent =>
    have trimmed : Text.trim (indent ++ ("//" ++ comment)) = "//" ++ comment.trimEnd := by
      rw [Text.trim, Text.trimStart_append isIndent]
      exact Text.trimEnd_append_of_visible (c := '/') rfl ['/'] comment
    rw [trimmed]
    exact List.filter_cons_of_neg (by simp [isCollected])
  | spec indent spec after isIndent isAfter =>
    have starts : Text.trimStart (spec.text ++ after) = spec.text ++ after := by
      obtain ⟨c, rest, split, visible, _⟩ := spec.exists_text_eq_cons
      rw [split]
      exact List.dropWhile_cons_of_neg (by simp [visible])
    have trimmed : Text.trim (indent ++ (spec.text ++ after)) = spec.text := by
      rw [Text.trim, Text.trimStart_append isIndent, starts, Text.trimEnd_append isAfter,
        Text.trimEnd_eq_self_of_trim spec.trim_text]
    rw [trimmed]
    exact List.filter_cons_of_pos spec.isCollected_text

theorem IsGroupLine.newline_not_mem {line : Text} {spec? : Option ImportSpec}
    (isLine : IsGroupLine line spec?) : '\n' ∉ line := by
  cases isLine with
  | blank _ _ whole => exact whole
  | comment indent comment _ whole => simpa using whole
  | spec indent spec after _ _ whole =>
    have text := spec.newline_not_mem_text
    simp only [List.mem_append, not_or] at whole ⊢
    exact ⟨whole.1, text, whole.2⟩

theorem dropLeading_import {rest : Text} (apart : ("import" : Text).isPrefixOf? rest = none) :
    Text.dropLeading ("import" ++ rest) "import" = rest :=
  Text.dropLeading_append apart (by decide) 1

/-- The keyword is followed by a blank, a quote or a parenthesis. -/
theorem dropLeading_gap {gap : Text} (isGap : gap.isBlank = true) (rest : Text)
    (apart : gap = [] → rest.head? = some '"' ∨ rest.head? = some '(') :
    Text.dropLeading ("import" ++ (gap ++ rest)) "import" = gap ++ rest := by
  apply dropLeading_import
  cases gap with
  | nil =>
    rcases apart rfl with starts | starts <;>
      · obtain ⟨rest, rfl⟩ := List.head?_eq_some_iff.mp starts
        rfl
  | cons c gap =>
    apply Text.isPrefixOf?_cons_of_ne (c := 'i')
    rintro rfl
    exact nomatch List.all_eq_true.mp isGap _ (List.mem_cons_self ..)

/-- What is collected of a declaration are its specs as they are written. -/
theorem importSpecs_of_isImport {declaration : Text} {specs : List ImportSpec}
    (isImport : IsImport declaration.trim specs) :
    importSpecs declaration = specs.map ImportSpec.text := by
  rw [importSpecs]
  generalize declaration.trim = text at isImport
  cases isImport with
  | single gap spec isGap apart =>
    have keyword : Text.dropLeading ("import" ++ (gap ++ spec.text)) "import" =
        gap ++ spec.text := by
      refine dropLeading_gap isGap _ fun empty => .inl ?_
      rw [ImportSpec.text, apart empty, spec.unnamed (apart empty)]
      rfl
    have trimmed : Text.trim (gap ++ spec.text) = spec.text := by
      rw [Text.trim, Text.trimStart_append isGap]
      exact spec.trim_text
    have lines := collected_lines (List.cons_ne_nil spec.text [])
      (List.forall_mem_singleton.mpr spec.newline_not_mem_text)
    rw [Text.ofPieces_singleton, List.map_singleton, spec.trim_text] at lines
    rw [keyword, trimmed, spec.not_isPrefixOf_text rfl (by decide)]
    exact lines.trans (List.filter_cons_of_pos spec.isCollected_text)
  | group gap lines isGap filled each =>
    have keyword := dropLeading_gap isGap ('(' :: (Text.ofPieces (lines.map (·.1)) ++ [')']))
      fun _ => .inr rfl
    have trimmed : Text.trim (gap ++ '(' :: (Text.ofPieces (lines.map (·.1)) ++ [')'])) =
        '(' :: (Text.ofPieces (lines.map (·.1)) ++ [')']) := by
      rw [Text.trim, Text.trimStart_append isGap]
      exact Text.trim_append rfl (List.cons_ne_nil _ _) rfl
    have inner : [')'].isSuffixOf? (Text.ofPieces (lines.map (·.1)) ++ [')']) =
        some (Text.ofPieces (lines.map (·.1))) := by
      simp [List.isSuffixOf?]
    have specs : ((lines.map (·.1)).map Text.trim).filter isCollected =
        (lines.filterMap (·.2)).map ImportSpec.text := by
      clear filled keyword trimmed inner
      induction lines with
      | nil => rfl
      | cons line lines ih =>
        obtain ⟨here, others⟩ := List.forall_mem_cons.mp each
        rw [List.map_cons, List.map_cons, ← List.singleton_append, List.filter_append,
          here.collected, ih others, ← List.map_append, List.filterMap_cons]
        cases line.2 <;> rfl
    have whole : ∀ line ∈ lines.map (·.1), '\n' ∉ line :=
      List.forall_mem_map.mpr fun line member => (each line member).newline_not_mem
    have collected := collected_lines (mt List.map_eq_nil_iff.mp filled) whole
    rw [keyword, trimmed, show ['('].isPrefixOf? ('(' :: _) = some _ from rfl, Option.bind_some,
      inner]
    exact collected.trans specs

/-! ## The line that decides -/

/-- The declaration starts with the keyword, and what follows the keyword is no part of a name. -/
def StartsImport {list : List Source.Glyph} (top : Source.TopLevel list) : Prop :=
  ∃ rest : Text, Source.Glyph.shownText top.declared = "import" ++ rest ∧
    ∀ c ∈ rest.head?, c = ' ' ∨ c = '\t' ∨ c = '('

theorem classify_import {rest : Text} (apart : ∀ c ∈ rest.head?, c = ' ' ∨ c = '\t' ∨ c = '(') :
    classify ("import" ++ rest) = .imported := by
  have isImport : (rest = [] || rest.head?.any fun c => c = ' ' || c = '\t' || c = '(') = true := by
    cases rest with
    | nil => rfl
    | cons c rest => simpa [or_assoc] using apart c rfl
  exact if_pos isImport

open Source in
theorem classify_leadLine {list : List Glyph} {top : TopLevel list} (whole : top.IsWhole)
    (starts : StartsImport top) : classify (leadLine top.lines) = .imported := by
  obtain ⟨rest, shown, apart⟩ := starts
  obtain ⟨start, more, split, isStart, isMore⟩ := List.map_eq_append_iff.mp shown
  have onLine : ∀ glyph ∈ start, glyph.shown ≠ '\n' := by
    intro glyph member isNewline
    have inside : '\n' ∈ ("import" : Text) :=
      isStart ▸ isNewline ▸ List.mem_map_of_mem member
    exact absurd inside (by decide)
  have first := top.exists_first split onLine
  rw [whole.headD_lines_later, List.append_nil, show Glyph.shownText start = _ from isStart]
    at first
  have line : leadLine top.lines = "import" ++
      Text.trimEnd (Glyph.shownText ((Glyph.lines more).headD [])) := by
    rw [leadLine, first, Text.trim, Text.trimStart_append top.isBlank_indent]
    exact Text.trimEnd_append_of_visible (c := 't') rfl "impor" _
  rw [line]
  apply classify_import
  intro c trimmed
  have onLine := Text.mem_head?_of_trimEnd c trimmed
  rw [Glyph.shownText, List.head?_map, Option.mem_def, Option.map_eq_some_iff] at onLine
  obtain ⟨glyph, isFirst, rfl⟩ := onLine
  refine apart glyph.shown ?_
  rw [← isMore, List.head?_map, head?_headD_lines glyph isFirst]
  rfl

end Notebook.Go
