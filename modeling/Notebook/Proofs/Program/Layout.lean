import Mathlib.Data.List.Basic
import Notebook.Program.Build
import Notebook.Proofs.History.Plan

/-! # Layout of programs

The families that keep a history assemble their programs in the same way. What the entries
contribute to module scope comes first; then each entry, whether it contributes or not, has its
marker statement and behind it a block of its own, which it fills from its index, its role and its
content. This is what keeps output segments and entries aligned. A shell has no such layout.
-/

namespace Notebook.Program

/-! ## Parts of a program -/

/-- What an entry adds to a program. -/
def contribution (family : Family) (planned : PlannedEntry) : Contribution :=
  match family with
  | .python => ⟨[], [], Python.block planned⟩
  | .rust => Rust.contribution planned
  | .go => Go.contribution planned
  | .javascript | .typescript => ⟨[], [], Script.block planned⟩
  | .zig => Zig.contribution planned
  | .jai => Jai.contribution planned
  | .shell _ => .empty

/-- The program up to the first marker statement. -/
def opening (family : Family) (context : ProgramContext) (contributions : List Contribution) :
    Text :=
  match family with
  | .python => Python.header context
  | .rust => Rust.opening contributions
  | .go => Go.opening contributions
  | .zig => Zig.opening contributions
  | .jai => Jai.opening contributions
  | .javascript | .typescript | .shell _ => []

/-- What stands in front of each marker statement. -/
def lead : Family → Text
  | .python => "\n"
  | .rust | .zig | .jai => "    "
  | .go => "\t"
  | .javascript | .typescript | .shell _ => []

/-- What stands behind the last block. -/
def footer : Family → Text
  | .rust | .go | .zig | .jai => "\x7d\n"
  | .python | .javascript | .typescript | .shell _ => []

/-- The text up to the first marker statement, built from the entries that contribute. -/
def preamble (family : Family) (context : ProgramContext) (contributing : List PlannedEntry) :
    Text :=
  opening family context (contributing.map (contribution family))

/-- The text behind the marker statement of an entry with an index, a role and a content. -/
def block (family : Family) (index : Nat) (role : Role) (content : Text) : Text :=
  (contribution family ⟨⟨index, 0, content, none⟩, role, false⟩).body

theorem body_contribution (family : Family) (planned : PlannedEntry) :
    (contribution family planned).body =
      block family planned.entry.index planned.role planned.entry.content := by
  cases family <;> rfl

/-! ## Entries that are left out -/

theorem contribution_of_left_out (family : Family) {planned : PlannedEntry}
    (out : planned.role.contributes = false) : contribution family planned = .empty := by
  cases family with
  | rust =>
    cases role : planned.role with
    | dropped | skipped => simp [contribution, Rust.contribution, role]
    | global | body =>
      rw [role] at out
      contradiction
  | python => simp [contribution, Python.block, Contribution.empty, out]
  | go => simp [contribution, Go.contribution, out]
  | javascript => simp [contribution, Script.block, Contribution.empty, out]
  | typescript => simp [contribution, Script.block, Contribution.empty, out]
  | zig => simp [contribution, Zig.contribution, out]
  | jai => simp [contribution, Jai.contribution, out]
  | shell kind => rfl

/-- An entry that is left out adds no imports. -/
theorem allImports_contributing (family : Family) (plan : List PlannedEntry) (first : List Text) :
    Contribution.allImports first (plan.map (contribution family)) =
      Contribution.allImports first
        ((plan.filter (·.role.contributes)).map (contribution family)) := by
  induction plan generalizing first with
  | nil => rfl
  | cons planned rest ih =>
    simp only [Contribution.allImports, List.map_cons, List.foldl_cons] at ih ⊢
    cases contributes : planned.role.contributes with
    | true =>
      rw [List.filter_cons_of_pos (by exact contributes), List.map_cons, List.foldl_cons]
      exact ih _
    | false =>
      rw [List.filter_cons_of_neg (by simp [contributes]),
        contribution_of_left_out family contributes]
      exact ih _

/-- An entry that is left out adds nothing at module scope. -/
theorem allOuter_contributing (family : Family) (plan : List PlannedEntry) :
    Contribution.allOuter (plan.map (contribution family)) =
      Contribution.allOuter ((plan.filter (·.role.contributes)).map (contribution family)) := by
  induction plan with
  | nil => rfl
  | cons planned rest ih =>
    simp only [Contribution.allOuter, List.map_cons, List.flatMap_cons] at ih ⊢
    cases contributes : planned.role.contributes with
    | true =>
      rw [List.filter_cons_of_pos (by exact contributes), List.map_cons, List.flatMap_cons, ih]
    | false =>
      rw [List.filter_cons_of_neg (by simp [contributes]),
        contribution_of_left_out family contributes, ih]
      rfl

theorem opening_eq_preamble (family : Family) (context : ProgramContext)
    (plan : List PlannedEntry) :
    opening family context (plan.map (contribution family)) =
      preamble family context (plan.filter (·.role.contributes)) := by
  have outer := allOuter_contributing family plan
  have imports := allImports_contributing family plan
  rw [preamble]
  cases family with
  | python | javascript | typescript | shell _ => rfl
  | rust =>
    change Rust.opening _ = Rust.opening _
    unfold Rust.opening
    rw [outer]
  | go =>
    change Go.opening _ = Go.opening _
    unfold Go.opening Go.programImports
    rw [imports, outer]
  | zig =>
    change Zig.opening _ = Zig.opening _
    unfold Zig.opening Zig.programImports
    rw [imports, outer]
  | jai =>
    change Jai.opening _ = Jai.opening _
    unfold Jai.opening Jai.programImports
    rw [imports, outer]

/-! ## The source of a program -/

/-- Each entry of a plan as it stands in the source. -/
def blocks (family : Family) (plan : List PlannedEntry) : Text :=
  plan.flatMap fun planned =>
    lead family ++ family.markerStatement ++
      block family planned.entry.index planned.role planned.entry.content

theorem allBodies_eq (family : Family) (plan : List PlannedEntry) :
    Contribution.allBodies (lead family) family (plan.map (contribution family)) =
      blocks family plan := by
  rw [Contribution.allBodies, blocks, List.flatMap_map]
  simp only [body_contribution]

theorem source_build {family : Family} (keeps : family.isShell = false) (context : ProgramContext)
    (history : History) :
    (build family context history).source =
      preamble family context (history.plan.filter (·.role.contributes)) ++
        blocks family history.plan ++ footer family := by
  rw [← opening_eq_preamble, ← allBodies_eq]
  cases family with
  | rust | go | zig | jai => rfl
  | python =>
    change Python.header context ++ _ = Python.header context ++ _ ++ []
    rw [List.append_nil, Contribution.allBodies, List.flatMap_map]
    rfl
  | javascript | typescript =>
    change _ = [] ++ _ ++ []
    rw [List.append_nil, Contribution.allBodies, List.flatMap_map]
    rfl
  | shell kind => contradiction

theorem segments_build {family : Family} (keeps : family.isShell = false)
    (context : ProgramContext) (history : History) :
    (build family context history).boundaries = history.length ∧
      (build family context history).targetSegment = history.length := by
  cases family with
  | shell kind => contradiction
  | _ => exact ⟨rfl, rfl⟩

/-! ## Entry points of cells -/

/-- The entry point that a program splices out of an entry. At module scope Rust has no statements
to call a function from, so there it leaves the entry as it is. -/
def spliced? (family : Family) (role : Role) (content : Text) : Option Source.EntryPoint :=
  match family with
  | .rust => if role = .body then Source.entryPoint? .rust Rust.entryForm content else none
  | .go => if role.contributes then Source.entryPoint? .go Go.entryForm content else none
  | .zig => if role.contributes then Source.entryPoint? .zig Zig.entryForm content else none
  | .jai => if role.contributes then Source.entryPoint? .jai Jai.entryForm content else none
  | .python | .javascript | .typescript | .shell _ => none

/-- The name that the function of a spliced entry point gets. -/
def cellMain (family : Family) (index : Nat) : Text :=
  match family with
  | .rust => Rust.cellMain index
  | .go => Go.cellMain index
  | .zig => Zig.cellMain index
  | .jai => Jai.cellMain index
  | .python | .javascript | .typescript | .shell _ => []

/-- The statement that calls the function of a spliced entry point. -/
def call (family : Family) (index : Nat) (returns : Text) : Text :=
  match family with
  | .rust => Rust.cellCall index returns
  | .go => '\t' :: cellMain family index ++ "()\n"
  | .zig => Zig.cellCall index returns
  | .jai => "    " ++ cellMain family index ++ "();\n"
  | .python | .javascript | .typescript | .shell _ => []

/-- What a block keeps of a cell with an entry point: in Rust the rest of the cell and the renamed
function, elsewhere the statements that belong neither among the imports nor at module scope. -/
def kept (family : Family) (index : Nat) (role : Role) (entry : Source.EntryPoint) : Text :=
  let moved := entry.remainder ++ '\n' :: entry.renamed (cellMain family index)
  match family with
  | .rust => moved ++ ['\n']
  | .go => if role = .global then [] else (Source.route .go Go.classify moved).inner
  | .zig => if role = .global then [] else (Source.route .zig Zig.classify moved).inner
  | .jai => if role = .global then [] else (Source.route .jai Jai.classify entry.remainder).inner
  | .python | .javascript | .typescript | .shell _ => []

end Notebook.Program
