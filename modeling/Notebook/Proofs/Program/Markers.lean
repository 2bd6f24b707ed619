import Notebook.Proofs.Program.Imports
import Notebook.Proofs.Program.Layout
import Notebook.Proofs.Source.Routing
import Notebook.Proofs.Text.Lines

/-! # Markers in programs

A program in Rust, Go, Zig or Jai runs its markers and its statements inside an entry point of its
own. If the cells are sound, none of them should be able to hide a marker or to close the entry
point. This holds as long as no cell is torn apart where a comment or a literal goes over the end of
a line: the router follows brackets from line to line, but neither comments nor literals.
-/

namespace Notebook.Program

open Source

/-- The lexical rules of the families that run statements inside an entry point. -/
def lexicon? : Family → Option Lexicon
  | .rust => some .rust
  | .go => some .go
  | .zig => some .zig
  | .jai => some .jai
  | .python | .javascript | .typescript | .shell _ => none

/-- How a family splits its cells. A Rust program keeps them whole. -/
def classifier? : Family → Option (Text → Placement)
  | .go => some Go.classify
  | .zig => some Zig.classify
  | .jai => some Jai.classify
  | .rust | .python | .javascript | .typescript | .shell _ => none

/-- The line that opens the entry point. -/
def entryLine : Family → Text
  | .rust => "fn main() \x7b\n"
  | .go => "func main() \x7b\n"
  | .zig => "pub fn main() !void \x7b\n"
  | .jai => "main :: () \x7b\n"
  | .python | .javascript | .typescript | .shell _ => []

/-- The cell is lexically closed, its brackets are properly nested, and it declares no entry
point. -/
structure IsPlain (family : Family) (lexicon : Lexicon) (planned : PlannedEntry) : Prop where
  closed : Closed lexicon planned.entry.content
  nested : IsNested (mask lexicon planned.entry.content)
  noEntryPoint : spliced? family planned.role planned.entry.content = none

/-- Splitting the cell tears no comment and no literal apart. -/
structure IsSplitCleanly (family : Family) (lexicon : Lexicon) (planned : PlannedEntry) : Prop where
  cuts : ∀ classify ∈ classifier? family, CutsCleanly lexicon classify planned.entry.content
  /-- Imports are collected one by one, so each has to stand on its own. -/
  imports : ∀ text ∈ (contribution family planned).imports,
    Closed lexicon text ∧ IsNested (mask lexicon text)

section

variable {family : Family} {lexicon : Lexicon}

/-! ## The frame of a program -/

theorem sound_markerStatement (hasLexicon : lexicon? family = some lexicon) :
    Sound lexicon (lead family) ∧ Sound lexicon family.markerStatement := by
  cases family with
  | python | javascript | typescript | shell kind => contradiction
  | rust | zig | jai =>
    obtain rfl := Option.some_inj.mp hasLexicon
    constructor
    · exact ⟨sealed_of_shade ' ' rfl fun _ => rfl, rfl⟩
    · exact ⟨sealed_of_shade '\n' rfl fun _ => rfl, rfl⟩
  | go =>
    obtain rfl := Option.some_inj.mp hasLexicon
    constructor
    · exact ⟨sealed_of_shade '\t' rfl fun _ => rfl, rfl⟩
    · exact ⟨sealed_of_shade '\n' rfl fun _ => rfl, rfl⟩

theorem sound_newline (hasLexicon : lexicon? family = some lexicon) : Sound lexicon ['\n'] := by
  cases family with
  | python | javascript | typescript | shell kind => contradiction
  | rust | go | zig | jai =>
    obtain rfl := Option.some_inj.mp hasLexicon
    exact ⟨sealed_of_shade '\n' rfl fun _ => rfl, rfl⟩

theorem entryLine_footer (hasLexicon : lexicon? family = some lexicon) :
    Sealed lexicon (entryLine family) ∧
      opened? [] (mask lexicon (entryLine family)) = some ['{'] ∧
      Sealed lexicon (footer family) ∧
      opened? ['{'] (mask lexicon (footer family)) = some [] := by
  cases family with
  | python | javascript | typescript | shell kind => contradiction
  | rust | go | zig | jai =>
    obtain rfl := Option.some_inj.mp hasLexicon
    refine ⟨?_, rfl, ?_, rfl⟩
    · exact sealed_of_shade '\n' rfl fun _ => rfl
    · exact sealed_of_shade '\n' rfl fun _ => rfl

/-! ## Module scope -/

/-- The contribution can stand at module scope, and each of its imports on a line. -/
structure IsSound (lexicon : Lexicon) (contribution : Contribution) : Prop where
  imports : ∀ text ∈ contribution.imports, Sound lexicon (text ++ ['\n'])
  outer : Sound lexicon contribution.outer
  body : Sound lexicon contribution.body

theorem sound_allImports {first : List Text} {contributions : List Contribution}
    (firstSound : ∀ text ∈ first, Sound lexicon (text ++ ['\n']))
    (sound : ∀ contribution ∈ contributions, IsSound lexicon contribution) :
    ∀ text ∈ Contribution.allImports first contributions, Sound lexicon (text ++ ['\n']) := by
  intro text member
  rcases Contribution.mem_allImports.mp member with member | ⟨contribution, isOne, member⟩
  · exact firstSound text member
  · exact (sound contribution isOne).imports text member

/-- The imports of a program are written line by line, headed by a standard one if that is not
among them. -/
theorem exists_importLines (contributions : List Contribution) (isThere : List Text → Bool)
    (standard : Text) (absent : isThere [] = false) :
    let imports := Contribution.allImports [] contributions
    ∃ lines, Text.ofPieces (if isThere imports then imports else standard :: imports) ++ "\n\n" =
        Text.ofLines lines ++ ['\n'] ∧
      ∀ text ∈ lines, text = standard ∨
        ∃ contribution ∈ contributions, text ∈ contribution.imports := by
  intro imports
  have collected : ∀ text ∈ imports,
      ∃ contribution ∈ contributions, text ∈ contribution.imports := fun text member =>
    (Contribution.mem_allImports.mp member).resolve_left List.not_mem_nil
  have written : ∀ {lines : List Text}, lines ≠ [] →
      Text.ofPieces lines ++ "\n\n" = Text.ofLines lines ++ ['\n'] := by
    intro lines filled
    rw [Text.ofLines_eq filled, List.append_assoc]
    rfl
  split
  next there =>
    refine ⟨imports, written ?_, fun text member => .inr (collected text member)⟩
    intro empty
    rw [empty, absent] at there
    contradiction
  next =>
    refine ⟨standard :: imports, written (List.cons_ne_nil _ _), ?_⟩
    intro text member
    exact (List.mem_cons.mp member).imp_right (collected text)

theorem sound_importLines {contributions : List Contribution} (isThere : List Text → Bool)
    (standard : Text) (absent : isThere [] = false) (newline : Sound lexicon ['\n'])
    (standardSound : Sound lexicon (standard ++ ['\n']))
    (sound : ∀ contribution ∈ contributions, IsSound lexicon contribution) :
    let imports := Contribution.allImports [] contributions
    Sound lexicon (Text.ofPieces (if isThere imports then imports else standard :: imports) ++
      "\n\n") := by
  intro imports
  obtain ⟨lines, written, each⟩ := exists_importLines contributions isThere standard absent
  rw [written]
  refine (sound_flatMap ?_).append newline
  intro text member
  rcases each text member with rfl | ⟨contribution, isOne, imported⟩
  · exact standardSound
  · exact (sound contribution isOne).imports text imported

theorem sound_importSpecs {contributions : List Contribution}
    (sound : ∀ contribution ∈ contributions, IsSound Lexicon.go contribution) :
    Sound Lexicon.go ((Go.programImports contributions).flatMap fun spec =>
      '\t' :: spec ++ ['\n']) := by
  have tab : Sound Lexicon.go ['\t'] := ⟨sealed_of_shade '\t' rfl fun _ => rfl, rfl⟩
  have format : Sound Lexicon.go ("\"fmt\"" ++ ['\n']) :=
    ⟨sealed_of_shade '\n' rfl fun _ => rfl, rfl⟩
  apply sound_flatMap
  intro spec member
  refine tab.append (sound_allImports ?_ sound spec member)
  intro text member
  rw [List.mem_singleton.mp member]
  exact format

/-- The imports of a Go program stand in parentheses. -/
theorem sound_importGroup {contributions : List Contribution}
    (sound : ∀ contribution ∈ contributions, IsSound Lexicon.go contribution) :
    Sound Lexicon.go ("package main\n\nimport (\n" ++
      (Go.programImports contributions).flatMap (fun spec => '\t' :: spec ++ ['\n']) ++
      ")\n\n") := by
  have opens : opened? [] (mask Lexicon.go "package main\n\nimport (\n") = some ['('] := rfl
  apply (sound_importSpecs sound).enclosed _ opens
  · exact sealed_of_shade '\n' rfl fun _ => rfl
  · rfl
  · exact sealed_of_shade '\n' rfl fun _ => rfl

/-- The text ahead of what the cells leave at module scope. -/
def heading (family : Family) (contributions : List Contribution) : Text :=
  match family with
  | .rust => "#![allow(unused)]\n"
  | .go => "package main\n\nimport (\n" ++
      (Go.programImports contributions).flatMap (fun spec => '\t' :: spec ++ ['\n']) ++ ")\n\n"
  | .zig => Text.ofPieces (Zig.programImports contributions) ++ "\n\n"
  | .jai => Text.ofPieces (Jai.programImports contributions) ++ "\n\n"
  | .python | .javascript | .typescript | .shell _ => []

/-- The text ahead of the entry point. -/
def moduleScope (family : Family) (contributions : List Contribution) : Text :=
  heading family contributions ++ Contribution.allOuter contributions ++ ['\n']

theorem sound_heading (hasLexicon : lexicon? family = some lexicon)
    {contributions : List Contribution}
    (sound : ∀ contribution ∈ contributions, IsSound lexicon contribution) :
    Sound lexicon (heading family contributions) := by
  have newline := sound_newline hasLexicon
  cases family with
  | python | javascript | typescript | shell kind => contradiction
  | rust =>
    obtain rfl := Option.some_inj.mp hasLexicon
    exact ⟨sealed_of_shade '\n' rfl fun _ => rfl, rfl⟩
  | go =>
    obtain rfl := Option.some_inj.mp hasLexicon
    exact sound_importGroup sound
  | zig =>
    obtain rfl := Option.some_inj.mp hasLexicon
    have standard : Sound Lexicon.zig (Zig.standardImport ++ ['\n']) :=
      ⟨sealed_of_shade '\n' rfl fun _ => rfl, rfl⟩
    exact sound_importLines (·.any Zig.declaresStandard) Zig.standardImport rfl newline standard
      sound
  | jai =>
    obtain rfl := Option.some_inj.mp hasLexicon
    have standard : Sound Lexicon.jai (Jai.basicImport ++ ['\n']) :=
      ⟨sealed_of_shade '\n' rfl fun _ => rfl, rfl⟩
    exact sound_importLines (·.contains Jai.basicImport) Jai.basicImport rfl newline standard sound

theorem sound_moduleScope (hasLexicon : lexicon? family = some lexicon)
    {contributions : List Contribution}
    (sound : ∀ contribution ∈ contributions, IsSound lexicon contribution) :
    Sound lexicon (moduleScope family contributions) := by
  have outer : Sound lexicon (Contribution.allOuter contributions) :=
    sound_flatMap fun contribution member => (sound contribution member).outer
  exact ((sound_heading hasLexicon sound).append outer).append (sound_newline hasLexicon)

theorem opening_eq (hasLexicon : lexicon? family = some lexicon) (context : ProgramContext)
    (contributions : List Contribution) :
    opening family context contributions =
      moduleScope family contributions ++ entryLine family := by
  cases family with
  | python | javascript | typescript | shell kind => contradiction
  | rust | go | zig | jai =>
    rw [moduleScope, List.append_assoc _ ['\n']]
    rfl

/-! ## Blocks -/

/-- What a family splits of a cell: the cell, or what is left of it with its entry point renamed. -/
def routedText (family : Family) (planned : PlannedEntry) : Text :=
  match spliced? family planned.role planned.entry.content with
  | none => planned.entry.content
  | some entry =>
    if family = .jai then entry.remainder
    else entry.remainder ++ '\n' :: entry.renamed (cellMain family planned.entry.index)

/-- What a family keeps whole at module scope: in Jai the renamed entry point. -/
def procedure (family : Family) (planned : PlannedEntry) : Text :=
  match spliced? family planned.role planned.entry.content with
  | none => []
  | some entry =>
    if family = .jai then entry.renamed (cellMain family planned.entry.index) ++ ['\n'] else []

/-- The call of an entry point that is spliced. -/
def splicedCall (family : Family) (planned : PlannedEntry) : Text :=
  match spliced? family planned.role planned.entry.content with
  | none => []
  | some entry => call family planned.entry.index entry.returns

/-- How a family with a classifier splits a cell. -/
theorem contribution_of_routed {classify : Text → Placement} {planned : PlannedEntry}
    (hasLexicon : lexicon? family = some lexicon) (splits : classifier? family = some classify)
    (contributes : planned.role.contributes = true) :
    let routed := route lexicon classify (routedText family planned)
    let added := contribution family planned
    (added.outer = procedure family planned ++ routed.outer ∧
        added.body = routed.inner ++ splicedCall family planned) ∨
      (added.outer = procedure family planned ++ (routed.outer ++ routed.inner) ∧
        added.body = splicedCall family planned) := by
  rw [routedText, procedure, splicedCall]
  cases family with
  | rust | python | javascript | typescript | shell kind => contradiction
  | go =>
    obtain rfl := Option.some_inj.mp hasLexicon
    obtain rfl := Option.some_inj.mp splits
    simp only [spliced?, if_pos contributes, contribution, Go.contribution, Go.spliced]
    cases isGlobal : decide (planned.role = .global) <;>
      cases entryPoint? .go Go.entryForm planned.entry.content <;> simp_all [call, cellMain]
  | zig =>
    obtain rfl := Option.some_inj.mp hasLexicon
    obtain rfl := Option.some_inj.mp splits
    simp only [spliced?, if_pos contributes, contribution, Zig.contribution, Zig.spliced]
    cases isGlobal : decide (planned.role = .global) <;>
      cases entryPoint? .zig Zig.entryForm planned.entry.content <;> simp_all [call, cellMain]
  | jai =>
    obtain rfl := Option.some_inj.mp hasLexicon
    obtain rfl := Option.some_inj.mp splits
    simp only [spliced?, if_pos contributes, contribution, Jai.contribution]
    cases isGlobal : decide (planned.role = .global) <;>
      cases entryPoint? .jai Jai.entryForm planned.entry.content <;> simp_all [call, cellMain]

/-- A cell without an entry point is split by a family that has a classifier. -/
theorem contribution_of_classifier {classify : Text → Placement} {planned : PlannedEntry}
    (hasLexicon : lexicon? family = some lexicon) (splits : classifier? family = some classify)
    (contributes : planned.role.contributes = true)
    (noEntryPoint : spliced? family planned.role planned.entry.content = none) :
    let routed := route lexicon classify planned.entry.content
    ((contribution family planned).outer = routed.outer ∧
        (contribution family planned).body = routed.inner) ∨
      ((contribution family planned).outer = routed.outer ++ routed.inner ∧
        (contribution family planned).body = []) := by
  have splits := contribution_of_routed hasLexicon splits contributes
  rw [routedText, procedure, splicedCall, noEntryPoint] at splits
  dsimp only at splits
  rwa [List.append_nil, List.nil_append, List.nil_append] at splits

/-- A Rust program keeps its cells whole, so it tears nothing apart. -/
theorem isSplitCleanly_rust (lexicon : Lexicon) (planned : PlannedEntry) :
    IsSplitCleanly .rust lexicon planned where
  cuts := fun _ splits => nomatch splits
  imports := by
    intro text member
    rw [contribution, Rust.contribution] at member
    cases role : planned.role <;> simp [role, Contribution.empty] at member

theorem isSound_contribution {planned : PlannedEntry}
    (hasLexicon : lexicon? family = some lexicon)
    (plain : planned.role.contributes = true → IsPlain family lexicon planned)
    (split : planned.role.contributes = true → IsSplitCleanly family lexicon planned) :
    IsSound lexicon (contribution family planned) := by
  cases contributes : planned.role.contributes with
  | false =>
    rw [contribution_of_left_out family contributes]
    exact ⟨fun _ member => absurd member List.not_mem_nil, sound_nil, sound_nil⟩
  | true =>
    obtain ⟨closed, nested, noEntryPoint⟩ := plain contributes
    obtain ⟨cuts, imports⟩ := split contributes
    have lines : ∀ text ∈ (contribution family planned).imports, Sound lexicon (text ++ ['\n']) :=
      fun text member => (imports text member).1.sound (imports text member).2
    cases splits : classifier? family with
    | some classify =>
      have outer : Sound lexicon (route lexicon classify planned.entry.content).outer :=
        sound_part closed nested (cuts classify splits) .outer
      have inner : Sound lexicon (route lexicon classify planned.entry.content).inner :=
        sound_part closed nested (cuts classify splits) .inner
      obtain ⟨isOuter, isBody⟩ | ⟨isOuter, isBody⟩ :=
        contribution_of_classifier hasLexicon splits contributes noEntryPoint
      · exact ⟨lines, isOuter ▸ outer, isBody ▸ inner⟩
      · exact ⟨lines, isOuter ▸ outer.append inner, isBody ▸ sound_nil⟩
    | none =>
      cases family with
      | go | zig | jai | python | javascript | typescript | shell kind => contradiction
      | rust =>
        have whole := closed.sound nested
        obtain ⟨entry, role, isCurrent⟩ := planned
        cases role with
        | dropped | skipped => contradiction
        | global => exact ⟨lines, whole, sound_nil⟩
        | body =>
          refine ⟨lines, sound_nil, ?_⟩
          change Sound lexicon (Rust.cellBody entry.index entry.content)
          have noEntryPoint : entryPoint? .rust Rust.entryForm entry.content = none := noEntryPoint
          rw [Rust.cellBody, noEntryPoint]
          exact whole

variable {plan earlier later : List PlannedEntry} {planned : PlannedEntry} {top : Text}

theorem sound_blocks (hasLexicon : lexicon? family = some lexicon)
    (sound : ∀ planned ∈ plan, IsSound lexicon (contribution family planned)) :
    Sound lexicon (blocks family plan) := by
  obtain ⟨leadSound, markerSound⟩ := sound_markerStatement hasLexicon
  apply sound_flatMap
  intro planned member
  rw [← body_contribution]
  exact (leadSound.append markerSound).append (sound planned member).body

/-- What stands behind the marker of an entry and ahead of the footer. -/
theorem sound_behind (hasLexicon : lexicon? family = some lexicon)
    (here : IsSound lexicon (contribution family planned))
    (sound : ∀ planned ∈ later, IsSound lexicon (contribution family planned)) :
    Sound lexicon (block family planned.entry.index planned.role planned.entry.content ++
      blocks family later) := by
  apply Sound.append
  · rw [← body_contribution]
    exact here.body
  · exact sound_blocks hasLexicon sound

/-- Ahead of a marker only the brace of the entry point is open. -/
theorem opened?_ahead (hasLexicon : lexicon? family = some lexicon) (topSound : Sound lexicon top)
    (sound : ∀ planned ∈ earlier, IsSound lexicon (contribution family planned)) :
    let before := top ++ entryLine family ++ blocks family earlier ++ lead family
    Sealed lexicon before ∧ opened? [] (mask lexicon before) = some ['{'] := by
  obtain ⟨entrySealed, entryOpens, _⟩ := entryLine_footer hasLexicon
  have leadSound := (sound_markerStatement hasLexicon).1
  have inside := (sound_blocks hasLexicon sound).append leadSound
  have aheadSealed := topSound.isSealed.append entrySealed
  intro before
  have parts : before = (top ++ entryLine family) ++ (blocks family earlier ++ lead family) :=
    List.append_assoc ..
  rw [parts]
  constructor
  · exact aheadSealed.append inside.isSealed
  · rw [aheadSealed, topSound.isSealed, opened?_append, opened?_append, topSound.isNested,
      Option.bind_some, entryOpens, Option.bind_some]
    exact inside.isNested.opened? _

/-! ## Programs as a whole -/

theorem source_eq (hasLexicon : lexicon? family = some lexicon) (context : ProgramContext)
    (history : History) :
    (build family context history).source =
      moduleScope family (history.plan.map (contribution family)) ++ entryLine family ++
        blocks family history.plan ++ footer family := by
  have keeps : family.isShell = false := by
    cases family with
    | shell kind => contradiction
    | _ => rfl
  rw [source_build keeps, ← opening_eq_preamble, opening_eq hasLexicon]

theorem exists_source_eq (hasLexicon : lexicon? family = some lexicon) (context : ProgramContext)
    (history : History)
    (sound : ∀ planned ∈ history.plan, IsSound lexicon (contribution family planned)) :
    ∃ top, Sound lexicon top ∧ (build family context history).source =
      top ++ entryLine family ++ blocks family history.plan ++ footer family := by
  refine ⟨_, sound_moduleScope hasLexicon ?_, source_eq hasLexicon context history⟩
  intro contribution member
  obtain ⟨planned, isPlanned, rfl⟩ := List.mem_map.mp member
  exact sound planned isPlanned

theorem sound_program (hasLexicon : lexicon? family = some lexicon) (topSound : Sound lexicon top)
    (sound : ∀ planned ∈ plan, IsSound lexicon (contribution family planned)) :
    Sound lexicon (top ++ entryLine family ++ blocks family plan ++ footer family) := by
  obtain ⟨entrySealed, entryOpens, footerSealed, footerCloses⟩ := entryLine_footer hasLexicon
  have inside := (sound_blocks hasLexicon sound).enclosed entrySealed entryOpens footerSealed
    footerCloses
  rw [List.append_assoc, List.append_assoc, ← List.append_assoc (entryLine family)]
  exact topSound.append inside

/-- The marker of an entry with what stands before it and behind it. -/
theorem blocks_append_cons (family : Family) (earlier : List PlannedEntry) (planned : PlannedEntry)
    (later : List PlannedEntry) :
    blocks family (earlier ++ planned :: later) =
      blocks family earlier ++ lead family ++ family.markerStatement ++
        (block family planned.entry.index planned.role planned.entry.content ++
          blocks family later) := by
  simp [blocks]

end

/-- Cells that are kept whole, or at least split cleanly, hide no marker. The program is properly
nested; so is what stands ahead of the entry point; and in the entry point each marker stands
unmasked, with no bracket open but the brace of the entry point. -/
theorem build_markers {family : Family} {lexicon : Lexicon}
    (hasLexicon : lexicon? family = some lexicon) (context : ProgramContext) (history : History)
    (plain : ∀ planned ∈ history.plan, planned.role.contributes = true →
      IsPlain family lexicon planned)
    (split : ∀ planned ∈ history.plan, planned.role.contributes = true →
      family = .rust ∨ IsSplitCleanly family lexicon planned) :
    let source := (build family context history).source
    IsNested (mask lexicon source) ∧
      ∃ top, IsNested (mask lexicon top) ∧
        source = top ++ entryLine family ++ blocks family history.plan ++ footer family ∧
        ∀ earlier planned later, history.plan = earlier ++ planned :: later →
          let before := top ++ entryLine family ++ blocks family earlier ++ lead family
          let after := block family planned.entry.index planned.role planned.entry.content ++
            blocks family later
          source = before ++ family.markerStatement ++ after ++ footer family ∧
            mask lexicon source = mask lexicon before ++ mask lexicon family.markerStatement ++
              mask lexicon after ++ mask lexicon (footer family) ∧
            opened? [] (mask lexicon before) = some ['{'] ∧ IsNested (mask lexicon after) := by
  have sound : ∀ planned ∈ history.plan, IsSound lexicon (contribution family planned) := by
    intro planned member
    apply isSound_contribution hasLexicon (plain planned member)
    intro contributes
    rcases split planned member contributes with rfl | split
    · exact isSplitCleanly_rust lexicon planned
    · exact split
  obtain ⟨top, topSound, whole⟩ := exists_source_eq hasLexicon context history sound
  intro source
  constructor
  · simp only [source]
    rw [whole]
    exact (sound_program hasLexicon topSound sound).isNested
  · refine ⟨top, topSound.isNested, whole, ?_⟩
    intro earlier planned later cut before after
    rw [cut] at sound
    obtain ⟨earlierSound, sound⟩ := List.forall_mem_append.mp sound
    obtain ⟨here, laterSound⟩ := List.forall_mem_cons.mp sound
    obtain ⟨beforeSealed, opened⟩ := opened?_ahead hasLexicon topSound earlierSound
    have markerSealed := (sound_markerStatement hasLexicon).2.isSealed
    have afterSound : Sound lexicon after := sound_behind hasLexicon here laterSound
    have parts : source = before ++ family.markerStatement ++ after ++ footer family := by
      rw [cut, blocks_append_cons] at whole
      simpa [before, after] using whole
    refine ⟨parts, ?_, opened, afterSound.isNested⟩
    rw [parts, (beforeSealed.append markerSealed).append afterSound.isSealed,
      beforeSealed.append markerSealed, beforeSealed]

/-- An import, a declaration with a comment of several lines in it, and statements. -/
theorem build_markers_go_cells :
    let first : Text := "import \"os\"\nos.Getwd()"
    let second : Text := "type T struct \x7b\n\tn int /* \x7b\n*/\x7d\nx := T\x7b1\x7d"
    let plannedFirst : PlannedEntry := ⟨⟨1, 0, first, none⟩, .body, false⟩
    let plannedSecond : PlannedEntry := ⟨⟨2, 1, second, none⟩, .body, true⟩
    let history := History.ofSources [(first, none), (second, none)]
    let source := (build .go ⟨"/w", none⟩ history).source
    history.plan = [plannedFirst, plannedSecond] ∧
      IsPlain .go .go plannedFirst ∧ IsSplitCleanly .go .go plannedFirst ∧
      IsPlain .go .go plannedSecond ∧ IsSplitCleanly .go .go plannedSecond ∧
      IsNested (mask .go source) ∧
      ∃ before after, source = before ++ Family.go.markerStatement ++ after ++ footer .go ∧
        opened? [] (mask .go before) = some ['{'] ∧ IsNested (mask .go after) := by
  intro first second plannedFirst plannedSecond history source
  have plan : history.plan = [plannedFirst, plannedSecond] := rfl
  have plainFirst : IsPlain .go .go plannedFirst := by
    refine ⟨.of_sealed ?_ rfl, rfl, rfl⟩
    exact sealed_of_shade '\n' rfl fun _ => rfl
  have splitFirst : IsSplitCleanly .go .go plannedFirst := by
    constructor
    · intro classify _
      refine cutsCleanly_of_two rfl ?_
      exact sealed_of_shade '\n' rfl fun _ => rfl
    · intro text member
      obtain rfl : text = "\"os\"" := List.mem_singleton.mp member
      refine ⟨.of_sealed ?_ rfl, rfl⟩
      exact sealed_of_shade '\n' rfl fun _ => rfl
  have plainSecond : IsPlain .go .go plannedSecond := by
    refine ⟨.of_sealed ?_ rfl, rfl, rfl⟩
    exact sealed_of_shade '\n' rfl fun _ => rfl
  have splitSecond : IsSplitCleanly .go .go plannedSecond := by
    constructor
    · intro classify _
      refine cutsCleanly_of_two rfl ?_
      exact sealed_of_shade '\n' rfl fun _ => rfl
    · exact fun _ member => absurd member List.not_mem_nil
  have each : ∀ planned ∈ history.plan,
      IsPlain .go .go planned ∧ IsSplitCleanly .go .go planned := by
    intro planned member
    rw [plan] at member
    rcases List.mem_cons.mp member with rfl | member
    · exact ⟨plainFirst, splitFirst⟩
    · obtain rfl := List.mem_singleton.mp member
      exact ⟨plainSecond, splitSecond⟩
  obtain ⟨nested, top, _, _, markers⟩ :=
    build_markers (show lexicon? .go = some .go from rfl) ⟨"/w", none⟩ history
      (fun planned member _ => (each planned member).1)
      (fun planned member _ => .inr (each planned member).2)
  obtain ⟨parts, _, opened, afterNested⟩ := markers [plannedFirst] plannedSecond [] plan
  exact ⟨plan, plainFirst, splitFirst, plainSecond, splitSecond, nested, _, _, parts, opened,
    afterNested⟩

/-- A comment goes over the end of a line, and its two lines go to different places. What opens it
stays open at module scope, over the entry point and its marker. -/
theorem build_markers_torn_comment :
    let content : Text := "type T int /* a\nb */"
    let planned : PlannedEntry := ⟨⟨1, 0, content, none⟩, .body, true⟩
    let history := History.ofSources [(content, none)]
    let source := (build .go ⟨"/w", none⟩ history).source
    history.plan = [planned] ∧ IsPlain .go .go planned ∧
      declarations? Go.entryForm 0 [] 0 (glyphs .go content) = some [] ∧
      ¬ IsNested (mask .go source) ∧ (mask .go source).hasPhrase "Println" = false := by
  intro content planned history source
  have plain : IsPlain .go .go planned := by
    refine ⟨.of_sealed ?_ rfl, rfl, rfl⟩
    exact sealed_of_shade '\n' rfl fun _ => rfl
  exact ⟨rfl, plain, rfl, by decide, by decide⟩

end Notebook.Program
