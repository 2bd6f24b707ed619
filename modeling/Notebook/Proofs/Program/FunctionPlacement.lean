import Notebook.Proofs.Program.Beside
import Notebook.Proofs.Program.ZigFunction
import Notebook.Proofs.Program.ZigImports

/-! # Placement of Zig functions

Lines of a cell that stay together stand ahead of the generated `main` if their first line ends with
a brace or imports something, or if the cell is kept at file scope. Any others are left inside
`main`. A function whose line breaks ahead of its body are within brackets is such lines, any other
falls into several, and the `main` of a cell, which is renamed and split with the cell, fares no
better.
-/

namespace Notebook.Program

open Source

variable {planned : PlannedEntry}

/-! ## What a Zig cell adds -/

theorem contribution_zig (contributes : planned.role.contributes = true) :
    let routed := route .zig Zig.classify (routedText .zig planned)
    contribution .zig planned =
      if planned.role = .global then
        ⟨routed.imports.map Text.trim, routed.outer ++ routed.inner, splicedCall .zig planned⟩
      else
        ⟨routed.imports.map Text.trim, routed.outer, routed.inner ++ splicedCall .zig planned⟩ := by
  rw [routedText, splicedCall]
  simp only [spliced?, if_pos contributes, contribution, Zig.contribution, Zig.spliced]
  cases isGlobal : decide (planned.role = .global) <;>
    cases entryPoint? .zig Zig.entryForm planned.entry.content <;> simp_all [call, cellMain]

/-- The block of a cell at file scope is the call of its `main`, and that of any other starts with
its statements. -/
theorem block_zig (contributes : planned.role.contributes = true) :
    block .zig planned.entry.index planned.role planned.entry.content =
      (if planned.role = .global then []
        else (route .zig Zig.classify (routedText .zig planned)).inner) ++
          splicedCall .zig planned := by
  rw [← body_contribution, contribution_zig contributes]
  split_ifs <;> rfl

theorem infix_flatMap {α : Type} (part : α → Text) {list : List α} {item : α}
    (member : item ∈ list) :
    part item <:+: list.flatMap part := by
  obtain ⟨before, after, rfl⟩ := List.append_of_mem member
  rw [List.flatMap_append, List.flatMap_cons]
  exact List.infix_append' ..

/-- An import of any cell stands in the heading. -/
theorem infix_heading_zig {contributions : List Contribution} {contribution : Contribution}
    (isOne : contribution ∈ contributions) {text : Text} (imported : text ∈ contribution.imports) :
    text <:+: heading .zig contributions := by
  have collected : text ∈ Zig.programImports contributions :=
    Zig.mem_programImports (Contribution.mem_allImports.mpr (.inr ⟨contribution, isOne, imported⟩))
  have lines : heading .zig contributions =
      Text.ofLines (Zig.programImports contributions) ++ ['\n'] := by
    rw [Text.ofLines_eq (List.ne_nil_of_mem collected), List.append_assoc]
    rfl
  rw [lines]
  have line : text ++ ['\n'] <:+: Text.ofLines (Zig.programImports contributions) :=
    infix_flatMap (fun line : Text => line ++ ['\n']) collected
  exact ((List.prefix_append ..).isInfix.trans line).trans (List.prefix_append ..).isInfix

/-! ## Lines that stay together -/

/-- What sends lines of a cell ahead of `main`: the role of the cell, or their first line. -/
def GoesAhead (planned : PlannedEntry) (lines : List (List Glyph)) : Prop :=
  planned.role = .global ∨ Zig.classify (leadLine lines) ≠ .inner

section

variable {ahead own behind : List (List Glyph)}
  (contributes : planned.role.contributes = true)
  (together : StaysTogether .zig (routedText .zig planned) ahead own behind)

include contributes together

/-- Lines that do not go ahead stand inside `main`. -/
theorem infix_block_of_not_goesAhead (stays : ¬GoesAhead planned own) :
    statementText own <:+: block .zig planned.entry.index planned.role planned.entry.content := by
  obtain ⟨notGlobal, notMoved⟩ := not_or.mp stays
  rw [block_zig contributes, if_neg notGlobal]
  exact (together.infix_part (not_not.mp notMoved)).trans (List.prefix_append ..).isInfix

/-- No line that goes ahead is left inside `main`. -/
theorem block_of_goesAhead (goes : GoesAhead planned own) :
    ∃ kept : List Text, kept.Sublist ((ahead ++ behind).map Glyph.sourceText) ∧
      block .zig planned.entry.index planned.role planned.entry.content =
        Text.ofLines kept ++ splicedCall .zig planned := by
  rw [block_zig contributes]
  split_ifs with isGlobal
  · exact ⟨[], List.nil_sublist _, rfl⟩
  · obtain ⟨kept, left, keptLines, leftLines, part⟩ := together.exists_part Zig.classify .inner
    rw [if_neg (goes.resolve_left isGlobal)] at part
    have text : (route .zig Zig.classify (routedText .zig planned)).inner = _ := part
    refine ⟨kept ++ left, ?_, ?_⟩
    · rw [List.map_append]
      exact keptLines.append leftLines
    · rw [text]
      rfl

/-- Lines that are sent to the imports stand in the heading, trimmed. -/
theorem trim_infix_heading {contributions : List Contribution}
    (isOne : contribution .zig planned ∈ contributions)
    (imported : Zig.classify (leadLine own) = .imported) :
    Text.trim (statementText own) <:+: heading .zig contributions := by
  obtain ⟨more, member⟩ := together.mem_imports imported
  have collected : Text.trim (statementText own ++ statementText more) ∈
      (contribution .zig planned).imports := by
    rw [← Text.trim_trimEnd, contribution_zig contributes]
    split_ifs <;> exact List.mem_map_of_mem member
  exact (Text.trim_infix_trim_append ..).trans (infix_heading_zig isOne collected)

/-- Any other lines that go ahead stand at file scope. -/
theorem infix_outer_of_goesAhead (goes : GoesAhead planned own)
    (notImported : Zig.classify (leadLine own) ≠ .imported) :
    statementText own <:+: (contribution .zig planned).outer := by
  rw [contribution_zig contributes]
  cases placed : Zig.classify (leadLine own) with
  | imported => exact absurd placed notImported
  | outer =>
    split_ifs
    · exact (together.infix_part placed).trans (List.prefix_append ..).isInfix
    · exact together.infix_part placed
  | inner =>
    rw [if_pos (goes.resolve_right fun moves => moves placed)]
    exact (together.infix_part placed).trans (List.suffix_append ..).isInfix

/-- Lines that go ahead stand ahead of `main`, among the imports or at file scope. -/
theorem trim_infix_ahead {contributions : List Contribution}
    (isOne : contribution .zig planned ∈ contributions) (goes : GoesAhead planned own) :
    Text.trim (statementText own) <:+:
      heading .zig contributions ++ Contribution.allOuter contributions := by
  by_cases imported : Zig.classify (leadLine own) = .imported
  · exact (trim_infix_heading contributes together isOne imported).trans
      (List.prefix_append ..).isInfix
  · have outer := infix_outer_of_goesAhead contributes together goes imported
    have all : (contribution .zig planned).outer <:+: Contribution.allOuter contributions :=
      infix_flatMap _ isOne
    exact ((Text.trim_isInfix _).trans (outer.trans all)).trans (List.suffix_append ..).isInfix

end

/-! ## Functions of a cell -/

/-- What sends a function ahead of `main`: the role of its cell, or its first line. -/
def MovesOut (planned : PlannedEntry) {list : List Glyph} (function : Zig.FunctionIn list) : Prop :=
  planned.role = .global ∨ "@import" <:+: leadLine function.lines ∨
    (leadLine function.lines).getLast? = some '{'

section

variable (function : Zig.FunctionIn (glyphs .zig (routedText .zig planned)))

theorem movesOut_iff_goesAhead : MovesOut planned function ↔ GoesAhead planned function.lines :=
  or_congr_right function.classify_leadLine.1.symm

/-- The text of a function is left when its lines are trimmed. -/
theorem text_infix_trim : function.text <:+: Text.trim (statementText function.lines) := by
  obtain ⟨⟨c, starts, visible⟩, ends⟩ := function.text_ends
  exact Text.infix_trimEnd ends rfl (Text.infix_trimStart starts visible function.text_infix)

/-- A function that does not move starts inside `main`. -/
theorem firstLine_infix_block (contributes : planned.role.contributes = true)
    (stays : ¬MovesOut planned function) :
    Glyph.sourceText (function.lines.headD []) ++ ['\n'] <:+:
      block .zig planned.entry.index planned.role planned.entry.content := by
  have first : ¬GoesAhead planned [function.lines.headD []] :=
    fun goes => stays ((movesOut_iff_goesAhead function).mpr goes)
  have inside := infix_block_of_not_goesAhead contributes function.startsStatement first
  rwa [statementText, List.map_singleton, Text.ofLines, List.flatMap_singleton] at inside

end

/-! ## Cells with a `main` -/

/-- What is behind the name of an entry point ends with its closing brace. -/
theorem exists_mask_tail {lexicon : Lexicon} {form : EntryForm} {source : Text}
    {entry : EntryPoint} (parts : EntryParts form (glyphs lexicon source) entry)
    (plain : form.IsPlain) (reads : lexicon.ReadsWords) (detachable : IsDetachable lexicon entry) :
    ∃ start : Text, mask lexicon entry.tail = start ++ ['\x7d'] := by
  obtain ⟨brace, last, isBrace⟩ := Option.map_eq_some_iff.mp parts.tailEnds
  obtain ⟨start, split⟩ := List.getLast?_eq_some_iff.mp last
  refine ⟨Glyph.shownText start, ?_⟩
  rw [mask, ← parts.tail_eq plain reads detachable, split, Glyph.shownText_append, ← isBrace]
  rfl

/-- A `main` is a function with the modifiers of one, or with none. -/
theorem exists_modifiers {lead : Text} (leads : lead = "fn " ∨ lead = "pub fn ") :
    ∃ modifiers : List Text, modifiers.Sublist Zig.modifierWords ∧
      mask .zig lead = Zig.spaced modifiers ++ ("fn " : Text) := by
  rcases leads with rfl | rfl
  · exact ⟨[], List.nil_sublist _, rfl⟩
  · exact ⟨["pub"], List.singleton_sublist.mpr (List.mem_cons_self ..), rfl⟩

section

variable {entry : EntryPoint}
  (contributes : planned.role.contributes = true)
  (closed : Closed .zig planned.entry.content)
  (nested : IsNested (mask .zig planned.entry.content))
  (found : entryPoint? .zig Zig.entryForm planned.entry.content = some entry)
  (detachable : IsDetachable .zig entry)

include contributes closed nested found detachable

/-- The `main` of a cell becomes a function of what is split. -/
theorem exists_function_main (leads : entry.lead = "fn " ∨ entry.lead = "pub fn ") :
    ∃ function : Zig.FunctionIn (glyphs .zig (routedText .zig planned)),
      function.text = entry.renamed (Zig.cellMain planned.entry.index) := by
  have hasLexicon : lexicon? .zig = some .zig := rfl
  have hasForm : entryForm? .zig = some Zig.entryForm := rfl
  have plain := isPlain_of_entryForm? hasForm
  have reads := readsWords_of_lexicon? hasLexicon
  have isWord : IsWord (Zig.cellMain planned.entry.index) :=
    isWord_cellMain hasLexicon planned.entry.index
  obtain ⟨parts⟩ := exists_parts found
  obtain ⟨beforeNested, _, afterNested⟩ := parts.isNested plain reads detachable nested
  obtain ⟨start, ends⟩ := exists_mask_tail parts plain reads detachable
  have tailNested := detachable.nested
  rw [ends] at tailNested
  obtain ⟨signature, inside, rfl, signatureNested, insideNested⟩ := exists_body tailNested
  obtain ⟨modifiers, ordered, isLead⟩ := exists_modifiers leads
  refine ⟨⟨⟨glyphs .zig entry.before ++ (glyphs .zig entry.after ++ [Glyph.code '\n']), [],
    glyphs .zig entry.lead ++ ((Zig.cellMain planned.entry.index).map Glyph.code ++
      glyphs .zig entry.tail), [], ?_, ?_, ?_, fun _ member => absurd member List.not_mem_nil⟩,
    modifiers, Zig.cellMain planned.entry.index ++ signature, inside, ordered, ?_,
    (isNested_word isWord).append signatureNested, insideNested⟩, ?_⟩
  · rw [glyphs_routedText hasLexicon hasForm (show classifier? .zig = some Zig.classify from rfl)
      (by decide) contributes closed nested found detachable]
    simp only [List.append_assoc, List.append_nil, List.nil_append]
    rfl
  · intro glyph isLast
    rw [← List.append_assoc, List.getLast?_concat] at isLast
    rw [← Option.some_inj.mp isLast]
    rfl
  · have nestedAhead : IsNested (Glyph.shownText (glyphs .zig entry.before ++
        (glyphs .zig entry.after ++ [Glyph.code '\n']))) := by
      rw [Glyph.shownText_append, Glyph.shownText_append]
      exact beforeNested.append (afterNested.append rfl)
    exact foldl_lineDepth_lines nestedAhead
  · have shownLead : Glyph.shownText (glyphs .zig entry.lead) = _ := isLead
    have shownTail : Glyph.shownText (glyphs .zig entry.tail) = _ := ends
    rw [Glyph.shownText_append, Glyph.shownText_append, shownLead, shownText_code, shownTail]
    simp only [List.append_assoc, List.cons_append]
  · rw [TopLevel.text, Glyph.sourceText_append, Glyph.sourceText_append, sourceText_glyphs,
      sourceText_glyphs, sourceText_code, EntryPoint.renamed, List.append_assoc]

/-- A function beside the `main` of its cell stays a function of what is split. -/
theorem exists_function_beside (function : Zig.FunctionIn (glyphs .zig planned.entry.content))
    (beside : IsBeside function.toTopLevel entry) :
    ∃ same : Zig.FunctionIn (glyphs .zig (routedText .zig planned)),
      same.text = function.text := by
  obtain ⟨top, _, declared, _⟩ := exists_beside (show lexicon? .zig = some .zig from rfl)
    (show entryForm? .zig = some Zig.entryForm from rfl)
    (show classifier? .zig = some Zig.classify from rfl) (by decide) contributes closed nested found
    detachable beside
  exact ⟨{ function with toTopLevel := top, shown := declared ▸ function.shown },
    congrArg Glyph.sourceText declared⟩

end

/-! ## Programs -/

/-- A function whose line breaks ahead of its body are within brackets stands ahead of the generated
`main` if it moves, and no line of it is left inside; otherwise it stands inside, and so does the
first line of any function that does not move. A function that is broken elsewhere falls into
pieces, of which each goes where its own first line sends it, or ahead with all the others if the
cell is kept at file scope. What is split of a cell with a `main` has all its functions, with `main`
under a new name among them. -/
theorem build_functions (context : ProgramContext) (history : History)
    (isPlanned : planned ∈ history.plan) (contributes : planned.role.contributes = true) :
    let contributions := history.plan.map (contribution .zig)
    let ahead := heading .zig contributions ++ Contribution.allOuter contributions
    let own := block .zig planned.entry.index planned.role planned.entry.content
    (build .zig context history).source =
        ahead ++ "\npub fn main() !void \x7b\n" ++ blocks .zig history.plan ++ "\x7d\n" ∧
      own <:+: blocks .zig history.plan ∧
      (∀ function : Zig.FunctionIn (glyphs .zig (routedText .zig planned)),
        (function.IsWrapped → MovesOut planned function → function.text <:+: ahead ∧
          ∃ kept : List Text,
            kept.Sublist ((function.linesAhead ++ function.linesBehind).map Glyph.sourceText) ∧
              own = Text.ofLines kept ++ splicedCall .zig planned) ∧
        (function.IsWrapped → ¬MovesOut planned function → function.text <:+: own) ∧
        (¬MovesOut planned function →
          Glyph.sourceText (function.lines.headD []) ++ ['\n'] <:+: own) ∧
        function.pieces.flatten = function.lines ∧
        ∀ before piece after, function.pieces = before ++ piece :: after →
          (GoesAhead planned piece → Text.trim (statementText piece) <:+: ahead ∧
            ∃ kept : List Text,
              kept.Sublist ((function.linesAhead ++ before.flatten ++
                (after.flatten ++ function.linesBehind)).map Glyph.sourceText) ∧
                own = Text.ofLines kept ++ splicedCall .zig planned) ∧
          (¬GoesAhead planned piece → statementText piece <:+: own)) ∧
      (entryPoint? .zig Zig.entryForm planned.entry.content = none →
        routedText .zig planned = planned.entry.content) ∧
      ∀ entry, entryPoint? .zig Zig.entryForm planned.entry.content = some entry →
        Closed .zig planned.entry.content → IsNested (mask .zig planned.entry.content) →
        IsDetachable .zig entry →
          (entry.lead = "fn " ∨ entry.lead = "pub fn " →
            ∃ function : Zig.FunctionIn (glyphs .zig (routedText .zig planned)),
              function.text = entry.renamed (Zig.cellMain planned.entry.index)) ∧
          ∀ function : Zig.FunctionIn (glyphs .zig planned.entry.content),
            IsBeside function.toTopLevel entry →
              ∃ same : Zig.FunctionIn (glyphs .zig (routedText .zig planned)),
                same.text = function.text := by
  intro contributions ahead own
  have isOne : contribution .zig planned ∈ contributions := List.mem_map_of_mem isPlanned
  have whole := source_eq (show lexicon? .zig = some .zig from rfl) context history
  have parts : moduleScope .zig contributions ++ entryLine .zig =
      ahead ++ "\npub fn main() !void \x7b\n" := List.append_assoc ..
  refine ⟨whole.trans (by rw [parts]; rfl), ?_,
    fun function => ⟨?_, ?_, ?_, function.flatten_pieces, ?_⟩, ?_, ?_⟩
  · have here := infix_flatMap (fun planned : PlannedEntry => lead .zig ++
      Family.zig.markerStatement ++ block .zig planned.entry.index planned.role
        planned.entry.content) isPlanned
    exact (List.suffix_append ..).isInfix.trans here
  · intro wrapped moves
    have together := function.staysTogether (function.holdsTogether wrapped)
    have goes := (movesOut_iff_goesAhead function).mp moves
    exact ⟨(text_infix_trim function).trans (trim_infix_ahead contributes together isOne goes),
      block_of_goesAhead contributes together goes⟩
  · intro wrapped stays
    have together := function.staysTogether (function.holdsTogether wrapped)
    rw [movesOut_iff_goesAhead] at stays
    exact function.text_infix.trans (infix_block_of_not_goesAhead contributes together stays)
  · exact firstLine_infix_block function contributes
  · intro before piece after isPiece
    have together := function.staysTogether_piece isPiece
    exact ⟨fun goes => ⟨trim_infix_ahead contributes together isOne goes,
      block_of_goesAhead contributes together goes⟩,
      infix_block_of_not_goesAhead contributes together⟩
  · intro none
    have notSpliced : spliced? .zig planned.role planned.entry.content = Option.none :=
      (if_pos contributes).trans none
    rw [routedText, notSpliced]
  · intro entry found closed nested detachable
    exact ⟨exists_function_main contributes closed nested found detachable,
      exists_function_beside contributes closed nested found detachable⟩

/-- A cell with a function that ends its first line with a brace, and a `main` of its own. -/
theorem build_functions_beside_main :
    let two : Text := "fn two() i32 \x7b\n    return 2;\n\x7d"
    let rest : Text := "void \x7b\n    _ = two();\n\x7d"
    let content : Text := two ++ "\nfn main() " ++ rest
    let planned : PlannedEntry := ⟨⟨1, 0, content, none⟩, .body, true⟩
    let history := History.ofSources [(content, none)]
    let contributions := history.plan.map (contribution .zig)
    planned ∈ history.plan ∧ planned.role.contributes = true ∧
      (∃ function : Zig.FunctionIn (glyphs .zig (routedText .zig planned)),
        function.text = two ∧ function.IsWrapped ∧ MovesOut planned function ∧
          two <:+: heading .zig contributions ++ Contribution.allOuter contributions) ∧
      ∃ function : Zig.FunctionIn (glyphs .zig (routedText .zig planned)),
        function.text = "fn mdlabCellMain1() " ++ rest := by
  intro two rest content planned history contributions
  have isPlanned : planned ∈ history.plan := List.mem_singleton.mpr rfl
  have found : entryPoint? .zig Zig.entryForm content =
      some ⟨two ++ "\n", "fn ", "main", "() " ++ rest, [], "void"⟩ := by
    decide +kernel
  let function : Zig.FunctionIn (glyphs .zig (routedText .zig planned)) := {
    earlier := []
    indent := []
    declared := two.map Glyph.code
    later := ("\n\nfn mdlabCellMain1() " ++ rest).map Glyph.code
    modifiers := []
    signature := "two() i32 "
    inside := "\n    return 2;\n"
    split := by decide +kernel
    startsLine := nofun
    unopened := rfl
    isIndent := nofun
    ordered := List.nil_sublist _
    shown := rfl
    signatureNested := rfl
    insideNested := rfl }
  have wrapped : function.IsWrapped := by
    intro before after breaks _
    have newline : '\n' ∈ function.header := by
      rw [breaks]
      exact List.mem_append_right _ (List.mem_cons_self ..)
    exact absurd newline (by decide)
  have moves : MovesOut planned function := .inr (.inr (by decide +kernel))
  obtain ⟨_, _, functions, _, entries⟩ :=
    build_functions ⟨"/w", none⟩ history isPlanned rfl
  obtain ⟨isMain, _⟩ := entries _ found
    (.of_sealed (sealed_of_shade '\n' rfl fun _ => rfl) rfl) (by decide +kernel)
    ⟨sealed_of_shade '\n' rfl fun _ => rfl, sealed_of_shade ' ' rfl fun _ => rfl,
      sealed_of_shade '\x7d' rfl fun _ => rfl, rfl⟩
  obtain ⟨main, isRenamed⟩ := isMain (.inl rfl)
  exact ⟨isPlanned, rfl, ⟨function, rfl, wrapped, moves, ((functions function).1 wrapped moves).1⟩,
    main, isRenamed.trans (by decide +kernel)⟩

/-- A function on one line is left inside `main`. -/
theorem build_functions_one_line :
    let content : Text := "fn add(a: i32, b: i32) i32 \x7b return a + b; \x7d"
    let history := History.ofSources [(content, none)]
    (∃ function : Zig.FunctionIn (glyphs .zig content), function.text = content) ∧
      (build .zig ⟨"/w", none⟩ history).source =
        "const std = @import(\"std\");\n\n\npub fn main() !void \x7b\n    " ++
          Family.zig.markerStatement ++ content ++ "\n\x7d\n" := by
  intro content history
  refine ⟨⟨⟨⟨[], [], content.map Glyph.code, [], rfl, nofun, rfl, nofun⟩, [],
    "add(a: i32, b: i32) i32 ", " return a + b; ", List.nil_sublist _, rfl, rfl, rfl⟩, rfl⟩,
    by decide +kernel⟩

end Notebook.Program
