import Notebook.Proofs.History.Collected
import Notebook.Proofs.Program.Layout

/-! # What may influence a program

A program reads no more of an entry than its index, its role and, if the entry contributes, its
content. This share is stated as an entry of the plan in which nothing else is left. Programs of
equal shares are equal, whatever the entries hold beside them, and collected histories that are
alike have equal shares. A shell reads no entry but the last.
-/

namespace Notebook

/-- The entry with all that programs do not read taken out. -/
def PlannedEntry.share (planned : PlannedEntry) : PlannedEntry :=
  ⟨⟨planned.entry.index, 0, if planned.role.contributes then planned.entry.content else [], none⟩,
    planned.role, false⟩

namespace Program

/-! ## Readers of entries -/

theorem contribution_share (family : Family) (planned : PlannedEntry) :
    contribution family planned.share = contribution family planned := by
  cases contributes : planned.role.contributes with
  | false =>
    rw [contribution_of_left_out family contributes]
    exact contribution_of_left_out family contributes
  | true =>
    have share : planned.share =
        ⟨⟨planned.entry.index, 0, planned.entry.content, none⟩, planned.role, false⟩ := by
      rw [PlannedEntry.share, if_pos contributes]
    rw [share]
    cases family <;> rfl

/-- The contents of the entries that contribute. -/
def contributed (plan : List PlannedEntry) : List Text :=
  (plan.filter (·.role.contributes)).map (·.entry.content)

theorem contributed_share (plan : List PlannedEntry) :
    contributed (plan.map PlannedEntry.share) = contributed plan := by
  induction plan with
  | nil => rfl
  | cons planned rest ih =>
    rw [contributed, contributed] at ih ⊢
    cases contributes : planned.role.contributes <;> simp [PlannedEntry.share, contributes, ih]

section

variable {plan other : List PlannedEntry}

theorem contributions_congr (family : Family)
    (shares : plan.map PlannedEntry.share = other.map PlannedEntry.share) :
    plan.map (contribution family) = other.map (contribution family) := by
  have through : ∀ entries : List PlannedEntry,
      entries.map (contribution family) =
        (entries.map PlannedEntry.share).map (contribution family) := by
    intro entries
    rw [List.map_map]
    exact List.map_congr_left fun planned _ => (contribution_share family planned).symm
  rw [through plan, shares, ← through other]

theorem contributed_congr (shares : plan.map PlannedEntry.share = other.map PlannedEntry.share) :
    contributed plan = contributed other := by
  rw [← contributed_share, shares, contributed_share]

end

/-! ## Whole programs -/

section

variable {family : Family} {context : ProgramContext} {history other : History}

theorem source_congr (keeps : family.isShell = false)
    (shares : history.plan.map PlannedEntry.share = other.plan.map PlannedEntry.share) :
    (build family context history).source = (build family context other).source := by
  rw [source_build keeps, source_build keeps, ← opening_eq_preamble, ← opening_eq_preamble,
    ← allBodies_eq, ← allBodies_eq, contributions_congr family shares]

theorem suppressOutput_build (family : Family) (context : ProgramContext) (history : History) :
    (build family context history).suppressOutput = history.suppressesOutput := by
  cases family <;> rfl

theorem dependencies_congr
    (shares : history.plan.map PlannedEntry.share = other.plan.map PlannedEntry.share) :
    (build family context history).dependencies = (build family context other).dependencies := by
  cases family with
  | rust =>
    change Rust.packages (contributed history.plan) = Rust.packages (contributed other.plan)
    rw [contributed_congr shares]
  | go =>
    have same : history.plan.map Go.contribution = other.plan.map Go.contribution :=
      contributions_congr .go shares
    change ((Go.programImports (history.plan.map Go.contribution)).filterMap _).filter _ =
      ((Go.programImports (other.plan.map Go.contribution)).filterMap _).filter _
    rw [same]
  | _ => rfl

theorem files_congr
    (shares : history.plan.map PlannedEntry.share = other.plan.map PlannedEntry.share) :
    (build family context history).files = (build family context other).files := by
  cases family with
  | python =>
    have written : ∀ plan : List PlannedEntry,
        ((plan.filter (·.role.contributes)).filterMap fun planned =>
          Python.cellFile? planned.entry.content) = (contributed plan).filterMap Python.cellFile? := by
      intro plan
      rw [contributed, List.filterMap_map]
      rfl
    change List.filterMap _ _ = List.filterMap _ _
    rw [written, written, contributed_congr shares]
  | rust =>
    have manifests : ∀ history : History, (build .rust context history).files =
        [⟨Family.rust.dir.join "Cargo.toml",
          Rust.manifest "mdlab" "2021" (Rust.packages (contributed history.plan)), true⟩] :=
      fun _ => rfl
    rw [manifests, manifests, contributed_congr shares]
  | _ => rfl

/-- Programs are equal if their plans have equal shares and the cells being run agree on whether
their output is kept. -/
theorem build_congr (keeps : family.isShell = false)
    (shares : history.plan.map PlannedEntry.share = other.plan.map PlannedEntry.share)
    (clear : history.suppressesOutput = other.suppressesOutput) :
    build family context history = build family context other := by
  have length : history.length = other.length := by
    have entries := congrArg List.length shares
    rwa [List.length_map, List.length_map, history.length_plan, other.length_plan] at entries
  obtain ⟨boundaries, target⟩ := segments_build keeps context history
  obtain ⟨otherBoundaries, otherTarget⟩ := segments_build keeps context other
  apply Program.ext
  · exact source_congr keeps shares
  · rw [suppressOutput_build, suppressOutput_build, clear]
  · rw [boundaries, otherBoundaries, length]
  · rw [target, otherTarget, length]
  · exact dependencies_congr shares
  · exact files_congr shares

end

/-! ## Histories that are alike -/

open History

theorem shares_of_alike {language language' : Option Text} {cells cells' : List Cell}
    (alike : Alike (historyOf language cells) (historyOf language' cells')) :
    (historyOf language cells).plan.map PlannedEntry.share =
      (historyOf language' cells').plan.map PlannedEntry.share := by
  apply List.ext_getElem?
  intro i
  rw [List.getElem?_map, List.getElem?_map]
  have roles := congrArg (·[i]?) alike.roles
  simp only [List.getElem?_map] at roles
  cases here : (historyOf language cells).plan[i]? with
  | none =>
    rw [here, Option.map_none, eq_comm, Option.map_eq_none_iff] at roles
    rw [roles]
  | some planned =>
    rw [here, Option.map_some, eq_comm, Option.map_eq_some_iff] at roles
    obtain ⟨counterpart, there, role⟩ := roles
    have index := index_of_plan here
    have index' := index_of_plan there
    rw [there, Option.map_some, Option.map_some, PlannedEntry.share, PlannedEntry.share, role,
      index, index']
    cases contributes : planned.role.contributes with
    | false => rfl
    | true => rw [alike.contents i planned counterpart here there contributes]

theorem build_of_alike {family : Family} (keeps : family.isShell = false) (context : ProgramContext)
    {language language' : Option Text} {cells cells' : List Cell}
    (alike : Alike (historyOf language cells) (historyOf language' cells')) :
    build family context (historyOf language cells) =
      build family context (historyOf language' cells') :=
  build_congr keeps (shares_of_alike alike) alike.clear

/-- A shell reads the content of the cell being run and whether it keeps its output. -/
theorem build_shell_congr (kind : ShellKind) (context : ProgramContext) {history other : History}
    (content : history.current?.map (·.content) = other.current?.map (·.content))
    (clear : history.suppressesOutput = other.suppressesOutput) :
    build (.shell kind) context history = build (.shell kind) context other := by
  change ShellScript.program kind history = ShellScript.program kind other
  rw [ShellScript.program, ShellScript.program, content, clear]

end Program

end Notebook
