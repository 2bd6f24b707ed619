import Notebook.Proofs.Program.FunctionPlacement
import Notebook.Proofs.Program.GoImports

/-! # Imports of a program

The imports of all cells are collected into one block. Each text is collected once, but texts that
differ in their spacing or in a comment are different, whatever they import. So a package is
imported once if it is written alike everywhere, and `std` is declared once if moreover it is
written with blanks around the equals sign, as it is looked for.
-/

namespace Notebook.Program

open Source

/-! ## What the cells declare -/

/-- The imports that are split off a cell. -/
def cellImports (family : Family) (lexicon : Lexicon) (classify : Text → Placement)
    (planned : PlannedEntry) : List Text :=
  if planned.role.contributes then (route lexicon classify (routedText family planned)).imports
  else []

def goDeclarations (history : History) : List Text :=
  history.plan.flatMap (cellImports .go .go Go.classify)

def zigDeclarations (history : History) : List Text :=
  history.plan.flatMap (cellImports .zig .zig Zig.classify)

/-- Each declaration is an import of one spec or of a group. -/
def IsWellFormedGo (history : History) : Prop :=
  ∀ declaration ∈ goDeclarations history, ∃ specs, Go.IsImport declaration.trim specs

/-- Each declaration is one of `std`. -/
def IsWellFormedZig (history : History) : Prop :=
  ∀ declaration ∈ zigDeclarations history,
    ∃ standard : Zig.StandardImport, standard.text = declaration.trim

/-- The program prints markers with `fmt`. -/
def formatSpec : Go.ImportSpec := .ofPath "fmt" (by decide)

/-- A spec of a declaration of some cell, or that of `fmt`. -/
inductive IsImported (history : History) : Go.ImportSpec → Prop
  | format : IsImported history formatSpec
  | cell (declaration : Text) (specs : List Go.ImportSpec) (spec : Go.ImportSpec)
      (isDeclared : declaration ∈ goDeclarations history)
      (isImport : Go.IsImport declaration.trim specs) (member : spec ∈ specs) :
      IsImported history spec

section

variable {history : History}

/-! ## Go -/

theorem imports_contribution_go (planned : PlannedEntry) :
    (contribution .go planned).imports =
      (cellImports .go .go Go.classify planned).flatMap Go.importSpecs := by
  rw [cellImports]
  split_ifs with contributes
  · rw [routedText]
    simp only [spliced?, if_pos contributes, contribution, Go.contribution, Go.spliced]
    cases entryPoint? .go Go.entryForm planned.entry.content <;>
      cases isGlobal : decide (planned.role = .global) <;> simp_all [cellMain]
  · rw [contribution_of_left_out .go (Bool.eq_false_iff.mpr contributes)]
    rfl

theorem flatMap_imports_go (history : History) :
    (history.plan.map (contribution .go)).flatMap (·.imports) =
      (goDeclarations history).flatMap Go.importSpecs := by
  rw [goDeclarations, List.flatMap_assoc, List.flatMap_map]
  exact congrArg (List.flatMap · history.plan) (funext imports_contribution_go)

theorem mem_programImports_go (wellFormed : IsWellFormedGo history) {text : Text} :
    text ∈ Go.programImports (history.plan.map (contribution .go)) ↔
      ∃ spec, IsImported history spec ∧ spec.text = text := by
  rw [Go.programImports, Contribution.mem_allImports, List.mem_singleton, ← List.mem_flatMap,
    flatMap_imports_go, List.mem_flatMap]
  constructor
  · rintro (rfl | ⟨declaration, isDeclared, member⟩)
    · exact ⟨formatSpec, .format, rfl⟩
    · obtain ⟨specs, isImport⟩ := wellFormed declaration isDeclared
      rw [Go.importSpecs_of_isImport isImport, List.mem_map] at member
      obtain ⟨spec, member, same⟩ := member
      exact ⟨spec, .cell declaration specs spec isDeclared isImport member, same⟩
  · rintro ⟨spec, imported, rfl⟩
    cases imported with
    | format => exact .inl rfl
    | cell declaration specs _ isDeclared isImport member =>
      refine .inr ⟨declaration, isDeclared, ?_⟩
      rw [Go.importSpecs_of_isImport isImport]
      exact List.mem_map_of_mem member

/-- No package is imported twice under one name, as long as its specs are written alike. -/
theorem nodup_imported_iff (wellFormed : IsWellFormedGo history) :
    ((Go.programImports (history.plan.map (contribution .go))).map Go.imported?).Nodup ↔
      ∀ spec other, IsImported history spec → IsImported history other → spec.pair = other.pair →
        spec.gap = other.gap ∧ spec.behind = other.behind := by
  have nodup : (Go.programImports (history.plan.map (contribution .go))).Nodup :=
    Contribution.nodup_allImports (List.nodup_singleton _) _
  rw [List.nodup_map_iff_inj_on nodup]
  constructor
  · intro alike spec other imported otherImported same
    rw [← Go.ImportSpec.text_eq_iff same]
    apply alike
    · exact (mem_programImports_go wellFormed).mpr ⟨spec, imported, rfl⟩
    · exact (mem_programImports_go wellFormed).mpr ⟨other, otherImported, rfl⟩
    · rw [Go.imported?_text, Go.imported?_text, same]
  · intro alike text member otherText otherMember same
    obtain ⟨spec, imported, rfl⟩ := (mem_programImports_go wellFormed).mp member
    obtain ⟨other, otherImported, rfl⟩ := (mem_programImports_go wellFormed).mp otherMember
    rw [Go.imported?_text, Go.imported?_text, Option.some_inj] at same
    exact (Go.ImportSpec.text_eq_iff same).mpr (alike spec other imported otherImported same)

/-! ## Zig -/

theorem imports_contribution_zig (planned : PlannedEntry) :
    (contribution .zig planned).imports =
      (cellImports .zig .zig Zig.classify planned).map Text.trim := by
  rw [cellImports]
  split_ifs with contributes
  · rw [contribution_zig contributes]
    split_ifs <;> rfl
  · rw [contribution_of_left_out .zig (Bool.eq_false_iff.mpr contributes)]
    rfl

theorem mem_allImports_zig {text : Text} :
    text ∈ Contribution.allImports [] (history.plan.map (contribution .zig)) ↔
      text ∈ (zigDeclarations history).map Text.trim := by
  have flat : (history.plan.map (contribution .zig)).flatMap (·.imports) =
      (zigDeclarations history).map Text.trim := by
    rw [zigDeclarations, List.map_flatMap, List.flatMap_map]
    exact congrArg (List.flatMap · history.plan) (funext imports_contribution_zig)
  rw [Contribution.mem_allImports, or_iff_right List.not_mem_nil, ← List.mem_flatMap, flat]

/-- A cell of the history has this declaration of `std`. -/
def IsWritten (history : History) (standard : Zig.StandardImport) : Prop :=
  standard.text ∈ (zigDeclarations history).map Text.trim

theorem exists_isWritten (wellFormed : IsWellFormedZig history) {text : Text}
    (member : text ∈ Contribution.allImports [] (history.plan.map (contribution .zig))) :
    ∃ standard, IsWritten history standard ∧ standard.text = text := by
  have written := mem_allImports_zig.mp member
  obtain ⟨declaration, isDeclared, rfl⟩ := List.mem_map.mp written
  obtain ⟨standard, same⟩ := wellFormed declaration isDeclared
  exact ⟨standard, (same ▸ written : standard.text ∈ _), same⟩

theorem eq_singleton_of_nodup {α : Type} {list : List α} {item : α} (nodup : list.Nodup)
    (member : item ∈ list) (alike : ∀ other ∈ list, other = item) : list = [item] := by
  have repeated := List.eq_replicate_of_mem alike
  rw [repeated, List.nodup_replicate] at nodup
  have one : list.length = 1 := le_antisymm nodup (List.length_pos_of_mem member)
  rw [repeated, one]
  rfl

/-- There is one declaration of `std`, as long as the cells write it alike and with blanks around
the equals sign. -/
theorem length_programImports_zig (wellFormed : IsWellFormedZig history) :
    (Zig.programImports (history.plan.map (contribution .zig))).length = 1 ↔
      ∀ standard other, IsWritten history standard → IsWritten history other →
        standard.text = other.text ∧ standard.nameGap ≠ [] ∧ standard.equalsGap ≠ [] := by
  have nodup : (Contribution.allImports [] (history.plan.map (contribution .zig))).Nodup :=
    Contribution.nodup_allImports List.nodup_nil _
  rw [Zig.programImports]
  split_ifs with there
  · obtain ⟨text, member, declares⟩ := List.any_eq_true.mp there
    constructor
    · intro one standard other written otherWritten
      obtain ⟨only, isOnly⟩ := List.length_eq_one_iff.mp one
      have same : ∀ {text}, text ∈ (zigDeclarations history).map Text.trim → text = only := by
        intro text written
        rwa [← mem_allImports_zig, isOnly, List.mem_singleton] at written
      refine ⟨(same written).trans (same otherWritten).symm, ?_⟩
      rw [← Zig.declaresStandard_text, same written, ← same (mem_allImports_zig.mp member)]
      exact declares
    · intro alike
      obtain ⟨standard, written, rfl⟩ := exists_isWritten wellFormed member
      rw [eq_singleton_of_nodup nodup member fun text isText => ?_]
      · rfl
      obtain ⟨other, otherWritten, rfl⟩ := exists_isWritten wellFormed isText
      exact (alike other standard otherWritten written).1
  · rw [List.length_cons, Nat.add_eq_right, List.length_eq_zero_iff,
      List.eq_nil_iff_forall_not_mem]
    constructor
    · intro none standard _ written
      exact absurd (mem_allImports_zig.mpr written) (none _)
    · intro alike text member
      obtain ⟨standard, written, rfl⟩ := exists_isWritten wellFormed member
      have declares := Zig.declaresStandard_text standard
      exact there (List.any_eq_true.mpr ⟨_, member,
        declares.mpr (alike standard standard written written).2⟩)

/-! ## Cells -/

variable {planned : PlannedEntry}

/-- An import on lines of its own is one of the declarations of a Go history. -/
theorem mem_goDeclarations (isPlanned : planned ∈ history.plan)
    (contributes : planned.role.contributes = true)
    {top : TopLevel (glyphs .go planned.entry.content)}
    (alone : StandsAlone .go Go.entryForm planned.entry.content top)
    (starts : Go.StartsImport top) :
    Text.trimEnd (Glyph.sourceText (top.indent ++ top.declared)) ∈ goDeclarations history := by
  refine List.mem_flatMap.mpr ⟨planned, isPlanned, ?_⟩
  rw [cellImports, if_pos contributes]
  exact alone.mem_imports (show lexicon? .go = some .go from rfl)
    (show entryForm? .go = some Go.entryForm from rfl)
    (show classifier? .go = some Go.classify from rfl) (by decide) contributes
    (Go.classify_leadLine alone.whole starts)

/-- So is one with `@import` on its first line in a Zig history. -/
theorem mem_zigDeclarations (isPlanned : planned ∈ history.plan)
    (contributes : planned.role.contributes = true)
    {top : TopLevel (glyphs .zig planned.entry.content)}
    (alone : StandsAlone .zig Zig.entryForm planned.entry.content top)
    (imports : "@import" <:+: leadLine top.lines) :
    Text.trimEnd (Glyph.sourceText (top.indent ++ top.declared)) ∈ zigDeclarations history := by
  refine List.mem_flatMap.mpr ⟨planned, isPlanned, ?_⟩
  rw [cellImports, if_pos contributes]
  exact alone.mem_imports (show lexicon? .zig = some .zig from rfl)
    (show entryForm? .zig = some Zig.entryForm from rfl)
    (show classifier? .zig = some Zig.classify from rfl) (by decide) contributes
    (if_pos (Text.hasPhrase_iff.mpr imports))

end

/-! ## Programs -/

/-- Behind the heading stand the module scope of the cells, the entry point and its blocks. -/
theorem source_heading {family : Family} {lexicon : Lexicon}
    (hasLexicon : lexicon? family = some lexicon) (context : ProgramContext) (history : History) :
    (build family context history).source =
      heading family (history.plan.map (contribution family)) ++
        (Contribution.allOuter (history.plan.map (contribution family)) ++
          '\n' :: entryLine family ++ blocks family history.plan ++ footer family) := by
  rw [source_eq hasLexicon, moduleScope]
  simp only [List.append_assoc, List.cons_append, List.nil_append]

/-- The import block of a Go program has the specs of all cells as they are written, so each package
that a cell imports is imported, and twice if it is written in two ways. The imports of a Zig
program are the declarations of all cells as they are written, so `std` is declared once if there is
one way of writing it, which the program finds. -/
theorem build_imports (context : ProgramContext) (history : History) :
    (IsWellFormedGo history →
      let contributions := history.plan.map (contribution .go)
      let specs := Go.programImports contributions
      (build .go context history).source = "package main\n\nimport (\n" ++
          specs.flatMap (fun spec => '\t' :: spec ++ ['\n']) ++ ")\n\n" ++
            (Contribution.allOuter contributions ++ '\n' :: entryLine .go ++
              blocks .go history.plan ++ footer .go) ∧
        (∀ planned ∈ history.plan, planned.role.contributes = true →
          ∀ top, StandsAlone .go Go.entryForm planned.entry.content top → Go.StartsImport top →
            Text.trimEnd (Glyph.sourceText (top.indent ++ top.declared)) ∈
              goDeclarations history) ∧
        (∀ text, text ∈ specs ↔ ∃ spec, IsImported history spec ∧ spec.text = text) ∧
        (∀ spec, IsImported history spec → some spec.pair ∈ specs.map Go.imported?) ∧
        ((specs.map Go.imported?).Nodup ↔
          ∀ spec other, IsImported history spec → IsImported history other →
            spec.pair = other.pair → spec.gap = other.gap ∧ spec.behind = other.behind)) ∧
    (IsWellFormedZig history →
      let contributions := history.plan.map (contribution .zig)
      let declarations := Zig.programImports contributions
      (build .zig context history).source = Text.ofPieces declarations ++ "\n\n" ++
          (Contribution.allOuter contributions ++ '\n' :: entryLine .zig ++
            blocks .zig history.plan ++ footer .zig) ∧
        (∀ planned ∈ history.plan, planned.role.contributes = true →
          ∀ top, StandsAlone .zig Zig.entryForm planned.entry.content top →
            "@import" <:+: leadLine top.lines →
              Text.trimEnd (Glyph.sourceText (top.indent ++ top.declared)) ∈
                zigDeclarations history) ∧
        (∀ text ∈ declarations, ∃ standard : Zig.StandardImport, standard.text = text) ∧
        (∀ standard, IsWritten history standard → standard.text ∈ declarations) ∧
        (declarations.length = 1 ↔
          ∀ standard other, IsWritten history standard → IsWritten history other →
            standard.text = other.text ∧ standard.nameGap ≠ [] ∧ standard.equalsGap ≠ [])) := by
  constructor
  · intro wellFormed contributions specs
    have listed : ∀ text, text ∈ specs ↔ ∃ spec, IsImported history spec ∧ spec.text = text :=
      fun _ => mem_programImports_go wellFormed
    refine ⟨source_heading (show lexicon? .go = some .go from rfl) context history,
      fun planned isPlanned contributes top => mem_goDeclarations isPlanned contributes,
      listed, fun spec imported => ?_, nodup_imported_iff wellFormed⟩
    rw [← Go.imported?_text]
    exact List.mem_map_of_mem ((listed _).mpr ⟨spec, imported, rfl⟩)
  · intro wellFormed contributions declarations
    refine ⟨source_heading (show lexicon? .zig = some .zig from rfl) context history,
      fun planned isPlanned contributes top => mem_zigDeclarations isPlanned contributes,
      fun text member => ?_,
      fun standard written => Zig.mem_programImports (mem_allImports_zig.mpr written),
      length_programImports_zig wellFormed⟩
    rcases Zig.eq_or_mem_of_mem_programImports member with rfl | member
    · exact ⟨_, Zig.text_standardDeclaration⟩
    · obtain ⟨standard, _, same⟩ := exists_isWritten wellFormed member
      exact ⟨standard, same⟩

/-- Two Go cells that import different packages, one of them beside a `main`, and two Zig cells that
declare `std` alike. -/
theorem build_imports_alike :
    let content : Text := "import \"os\"\nfunc main() \x7b\n\tos.Exit(0)\n\x7d"
    let go := History.ofSources
      [(content, none), ("import (\n\ts \"strings\" // case\n)", none)]
    let zig := History.ofSources
      [("const std = @import(\"std\");", none), ("const std = @import(\"std\");", none)]
    (∃ top, StandsAlone .go Go.entryForm content top ∧ Go.StartsImport top) ∧
      IsWellFormedGo go ∧ IsWellFormedZig zig ∧
      (∀ spec other, IsImported go spec → IsImported go other → spec.pair = other.pair →
        spec.gap = other.gap ∧ spec.behind = other.behind) ∧
      ∀ standard other, IsWritten zig standard → IsWritten zig other →
        standard.text = other.text ∧ standard.nameGap ≠ [] ∧ standard.equalsGap ≠ [] := by
  intro content go zig
  let os : Go.ImportSpec := .ofPath "os" (by decide)
  let strings : Go.ImportSpec := ⟨"s", " ", "strings", " // case",
    List.forall_mem_singleton.mpr (by decide), by decide, nofun, by decide,
    .inr ⟨" ", " case", rfl, rfl⟩, by decide⟩
  let top : TopLevel (glyphs .go content) := {
    earlier := []
    indent := []
    declared := (glyphs .go content).take 11
    later := (glyphs .go content).drop 11
    split := (List.take_append_drop ..).symm
    startsLine := nofun
    unopened := rfl
    isIndent := nofun }
  have whole : top.IsWhole := by
    refine ⟨by decide +kernel, fun before after breaks => ?_, by decide +kernel⟩
    have newline : '\n' ∈ Glyph.shownText top.declared := by
      rw [breaks]
      exact List.mem_append_right _ (List.mem_cons_self ..)
    exact absurd newline (by decide +kernel)
  have found : entryPoint? .go Go.entryForm content = some ⟨"import \"os\"\n", "func ", "main",
      "() \x7b\n\tos.Exit(0)\n\x7d", [], []⟩ := by
    decide +kernel
  have alone : StandsAlone .go Go.entryForm content top := by
    refine ⟨whole, fun entry isEntry => ?_⟩
    obtain rfl := Option.some_inj.mp (found.symm.trans isEntry)
    exact ⟨.of_sealed (sealed_of_shade '\n' rfl fun _ => rfl) rfl, by decide +kernel,
      ⟨sealed_of_shade '\n' rfl fun _ => rfl, sealed_of_shade ' ' rfl fun _ => rfl,
        sealed_of_shade '\x7d' rfl fun _ => rfl, rfl⟩, .inl ⟨[Glyph.code '\n'], by decide +kernel⟩⟩
  have goWellFormed : IsWellFormedGo go := by
    have declared : goDeclarations go =
        (["import \"os\"", "import (\n\ts \"strings\" // case\n)"] : List Text) := by
      decide +kernel
    intro declaration isDeclared
    rw [declared, List.mem_cons, List.mem_singleton] at isDeclared
    rcases isDeclared with rfl | rfl
    · exact ⟨_, Go.IsImport.single " " os rfl fun _ => rfl⟩
    · refine ⟨_, Go.IsImport.group " " [([], none), ("\ts \"strings\" // case", some strings),
        ([], none)] rfl (List.cons_ne_nil _ _) ?_⟩
      simp only [List.forall_mem_cons]
      exact ⟨.blank _ rfl List.not_mem_nil, .spec "\t" strings [] rfl rfl (by decide),
        .blank _ rfl List.not_mem_nil, nofun⟩
  have zigWellFormed : IsWellFormedZig zig := by
    have declared : zigDeclarations zig = [Zig.standardImport, Zig.standardImport] := by
      decide +kernel
    intro declaration isDeclared
    rw [declared, List.mem_cons, List.mem_singleton, or_self] at isDeclared
    exact ⟨Zig.standardDeclaration, isDeclared ▸ rfl⟩
  obtain ⟨_, _, _, _, once⟩ := (build_imports ⟨"/w", none⟩ go).1 goWellFormed
  obtain ⟨_, _, _, _, one⟩ := (build_imports ⟨"/w", none⟩ zig).2 zigWellFormed
  exact ⟨⟨top, alone, "     ", by decide +kernel, fun c first => .inl (Option.some_inj.mp first).symm⟩, goWellFormed, zigWellFormed,
    once.mp (by decide +kernel), one.mp (by decide +kernel)⟩

/-- With a comment behind one of two imports of a package both are kept, and `std` is not found
without blanks around the equals sign. -/
theorem build_imports_apart :
    let go := History.ofSources
      [("import \"os\" // files\nos.Exit(0)", none), ("import \"os\"\nos.Exit(0)", none)]
    let zig := History.ofSources [("const std=@import(\"std\");", none)]
    IsWellFormedGo go ∧ IsWellFormedZig zig ∧
      ¬((Go.programImports (go.plan.map (contribution .go))).map Go.imported?).Nodup ∧
      (build .go ⟨"/w", none⟩ go).source =
        "package main\n\nimport (\n\t\"fmt\"\n\t\"os\" // files\n\t\"os\"\n)\n\n" ++
          ("\nfunc main() \x7b\n\t" ++ Family.go.markerStatement ++ "os.Exit(0)\n\t" ++
            Family.go.markerStatement ++ "os.Exit(0)\n\x7d\n") ∧
      (build .zig ⟨"/w", none⟩ zig).source =
        "const std = @import(\"std\");\nconst std=@import(\"std\");\n\n" ++
          ("\npub fn main() !void \x7b\n    " ++ Family.zig.markerStatement ++ "\x7d\n") := by
  intro go zig
  let os : Go.ImportSpec := .ofPath "os" (by decide)
  let files : Go.ImportSpec := { os with
    behind := " // files"
    isComment := .inr ⟨" ", " files", rfl, rfl⟩
    ends := by decide }
  let tight : Zig.StandardImport := { Zig.standardDeclaration with
    nameGap := []
    equalsGap := []
    isSpacing := by decide }
  refine ⟨?_, ?_, by decide +kernel, by decide +kernel, by decide +kernel⟩
  · have declared : goDeclarations go =
        (["import \"os\" // files", "import \"os\""] : List Text) := by
      decide +kernel
    intro declaration isDeclared
    rw [declared, List.mem_cons, List.mem_singleton] at isDeclared
    rcases isDeclared with rfl | rfl
    · exact ⟨_, Go.IsImport.single " " files rfl fun _ => rfl⟩
    · exact ⟨_, Go.IsImport.single " " os rfl fun _ => rfl⟩
  · have declared : zigDeclarations zig = [tight.text] := by
      decide +kernel
    intro declaration isDeclared
    obtain rfl := List.mem_singleton.mp (declared ▸ isDeclared)
    exact ⟨tight, rfl⟩

end Notebook.Program
