import Mathlib.Data.List.Basic
import Notebook.History

/-! # Plans of histories

The roles of a plan are decided by the directives of the history alone. A history that is collected
from a document numbers its entries from one, so that beyond the directives only the contents of
the entries are left to tell two such histories apart.
-/

namespace Notebook.History

/-! ## Directives and contents -/

theorem map_entry_plan (history : History) : history.plan.map (·.entry) = history.entries := by
  rw [plan, List.map_map]
  exact List.zipIdx_map_fst 0 history.entries

theorem length_plan (history : History) : history.plan.length = history.length := by
  rw [length, ← map_entry_plan, List.length_map]

/-- The directives of the entries. -/
def directives (history : History) : List (Option Directive) :=
  history.entries.map (·.directive)

/-- The contents of the entries. -/
def contents (history : History) : List Text :=
  history.entries.map (·.content)

theorem suppressesOutput_eq (history : History) :
    history.suppressesOutput = decide (history.directives.getLast? = some (some .clear)) := by
  rw [suppressesOutput, current?, directives, List.getLast?_map]
  cases history.entries.getLast? <;> simp

/-! ## Restarts -/

/-- Numbers of the `restart`s among directives, given the number of the first directive. -/
def restarts (directives : List (Option Directive)) (start : Nat) : List Nat :=
  ((directives.zipIdx start).filter fun (directive, _) => directive = some .restart).map (·.2)

/-- Number of the last `restart` among directives, or 0. -/
def lastRestart (directives : List (Option Directive)) : Nat :=
  (restarts directives 0).getLast?.getD 0

theorem restartBase_eq (history : History) :
    history.restartBase = lastRestart history.directives := by
  rw [restartBase, lastRestart, restarts, directives, List.zipIdx_map, List.filter_map,
    List.getLast?_map, List.getLast?_map, Option.map_map]
  rfl

theorem restarts_start (directives : List (Option Directive)) (start : Nat) :
    restarts directives start = (restarts directives 0).map (start + ·) := by
  rw [restarts, List.zipIdx_eq_map_add, List.filter_map, List.map_map, restarts, List.map_map]
  rfl

theorem restarts_eq_nil_iff (directives : List (Option Directive)) (start : Nat) :
    restarts directives start = [] ↔ some .restart ∉ directives := by
  induction directives generalizing start with
  | nil => simp [restarts]
  | cons directive rest ih =>
    by_cases isRestart : directive = some .restart
    · simp [restarts, isRestart]
    · simpa [restarts, isRestart, Ne.symm isRestart] using ih (start + 1)

/-- Directives before a `restart` leave the last one where it is. -/
theorem lastRestart_append (earlier : List (Option Directive)) {later : List (Option Directive)}
    (restarted : some .restart ∈ later) :
    lastRestart (earlier ++ later) = earlier.length + lastRestart later := by
  have found : restarts later 0 ≠ [] := by
    rw [ne_eq, restarts_eq_nil_iff]
    exact not_not_intro restarted
  have joined : restarts (earlier ++ later) 0 =
      restarts earlier 0 ++ (restarts later 0).map (earlier.length + ·) := by
    rw [← restarts_start, restarts, List.zipIdx_append, Nat.zero_add, List.filter_append,
      List.map_append]
    rfl
  obtain ⟨last, isLast⟩ := Option.isSome_iff_exists.mp (List.getLast?_isSome.mpr found)
  rw [lastRestart, lastRestart, joined, List.getLast?_append, List.getLast?_map, isLast]
  rfl

/-! ## Roles -/

/-- The roles of entries with some directives. -/
def rolesOf (directives : List (Option Directive)) : List Role :=
  directives.zipIdx.map fun (directive, i) =>
    roleOf (decide (i < lastRestart directives)) (decide (i + 1 = directives.length)) directive

theorem map_role_plan (history : History) :
    history.plan.map (·.role) = rolesOf history.directives := by
  rw [plan, rolesOf, List.map_map, restartBase_eq, directives, List.zipIdx_map, List.map_map,
    List.length_map]
  rfl

/-- Entries before a `restart` are dropped, and do not matter to the roles of the others. -/
theorem rolesOf_append (earlier : List (Option Directive)) {later : List (Option Directive)}
    (restarted : some .restart ∈ later) :
    rolesOf (earlier ++ later) = List.replicate earlier.length .dropped ++ rolesOf later := by
  have base := lastRestart_append earlier restarted
  rw [rolesOf, List.zipIdx_append, List.map_append]
  congr 1
  · rw [List.eq_replicate_iff, List.length_map, List.length_zipIdx]
    refine ⟨rfl, ?_⟩
    intro role member
    obtain ⟨⟨directive, i⟩, inside, rfl⟩ := List.mem_map.mp member
    obtain ⟨_, early, _⟩ := List.mem_zipIdx inside
    have dropped : i < lastRestart (earlier ++ later) := by omega
    change roleOf (decide (i < lastRestart (earlier ++ later))) _ directive = .dropped
    rw [decide_eq_true dropped]
    rfl
  · rw [List.zipIdx_eq_map_add, List.map_map, rolesOf]
    apply List.map_congr_left
    rintro ⟨directive, i⟩ _
    simp [base, Nat.add_assoc]

theorem getElem?_rolesOf (directives : List (Option Directive)) (i : Nat) :
    (rolesOf directives)[i]? = directives[i]?.map
      (roleOf (decide (i < lastRestart directives)) (decide (i + 1 = directives.length))) := by
  rw [rolesOf, List.getElem?_map, List.getElem?_zipIdx, Option.map_map, Nat.zero_add]
  rfl

/-- The directive leaves an entry out of the program, given whether it is the entry being run. -/
def leavesOut (isCurrent : Bool) (directive : Option Directive) : Prop :=
  directive = some .skip ∨ (∃ file, directive = some (.create file)) ∨
    (directive = some .once ∧ isCurrent = false)

theorem roleOf_leavesOut {isCurrent : Bool} {directive : Option Directive}
    (out : leavesOut isCurrent directive) (isDropped : Bool) :
    (roleOf isDropped isCurrent directive).contributes = false := by
  cases isDropped with
  | true => rfl
  | false =>
    rcases out with rfl | ⟨file, rfl⟩ | ⟨rfl, rfl⟩
    · rfl
    · rfl
    · rfl

end Notebook.History
