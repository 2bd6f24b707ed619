import Notebook.Proofs.Session.Attempt

/-! # Runs that give up a saved output

The output saved with a cell is meant to be given up only by a run that starts a process. It is
given up a little earlier, as soon as a tool has been found: a launch that is cancelled before its
process, or whose process cannot be started, leaves the cell without its output. Every run that ends
before that leaves the document as it was.
-/

namespace Notebook.Session

open Run

/-- A launch that starts no process leaves the cell without its output. -/
theorem cellsAfter_of_endsAtStart {result : Except Failure Outcome} (ends : EndsAtStart result)
    (cells : List Cell) (position : Nat) :
    cellsAfter cells position result = cells.modify position fun cell => cell.setOutput none := by
  rcases ends with rfl | ⟨program, cause, rfl⟩
  · rfl
  · rfl

/-- Giving up an output changes nothing exactly if there is none. -/
theorem modify_setOutput_eq_self_iff {cells : List Cell} {position : Nat} :
    (cells.modify position fun cell => cell.setOutput none) = cells ↔
      ∀ cell, cells[position]? = some cell → cell.output = none := by
  constructor
  · intro same cell found
    have changed := congrArg (·[position]?) same
    simp only [List.getElem?_modify_eq, found] at changed
    rw [← Option.some_inj.mp changed]
    rfl
  · intro nothing
    apply List.ext_getElem?
    intro i
    rw [List.getElem?_modify]
    by_cases here : position = i
    · subst here
      cases found : cells[position]? with
      | none => rfl
      | some cell =>
        have kept : cell.setOutput none = cell := by
          rw [Cell.setOutput, Option.filter_none, ← nothing cell found]
        simp [kept]
    · simp [here]

/-- If no process was started, the cells are as they were, unless the run came to a launch; then the
output of the cell is given up. So the cells are as they were exactly if the run ended before a tool
was found or the cell had no output. -/
theorem runCell_cells_of_not_started {σ : Type} (environment : Environment σ) (observer : Observer)
    (documentDir : Option Path) (session : Session) (cells : List Cell) (position : Nat)
    (isCancelled : Bool) (world : σ)
    (unstarted : (runCell environment observer documentDir session cells position isCancelled
      world).hasStarted = false) :
    let run := runCell environment observer documentDir session cells position isCancelled world
    let launched := isLaunched environment documentDir session cells position world
    (run.cells = cells ↔
      (launched = true → ∀ cell, cells[position]? = some cell → cell.output = none)) ∧
    (launched = true → EndsAtStart run.result ∧
      run.cells = cells.modify position fun cell => cell.setOutput none) := by
  intro run isLaunched
  have ran : attempt environment observer documentDir session cells position isCancelled world = _ :=
    rfl
  obtain ⟨ready, unlaunched⟩ | ⟨ready, request, there, launched⟩ := attempt_cases ran
  · have kept : run.cells = cells := unlaunched.cells
    simp [isLaunched, ready, kept]
  · have ends : EndsAtStart run.result := launched.endsAtStart unstarted
    have given : run.cells = cells.modify position fun cell => cell.setOutput none :=
      launched.cells.trans (cellsAfter_of_endsAtStart ends cells position)
    rw [given, modify_setOutput_eq_self_iff]
    simp [isLaunched, ready, ends]

/-- A cell with a saved output. -/
def savedCell : Cell :=
  { Cell.code "bash" "ls" with output := some "old\n" }

/-- A cell that is skipped keeps its output. -/
theorem runCell_cells_of_not_started_skipped :
    let cells := [{ savedCell with directive := some .skip }]
    let run := runCell (readyWorld (.error .permissionDenied)) (fun _ => false) none (.new "/w") cells
      0 false ()
    run.hasStarted = false ∧ run.cells = cells := by
  intro cells run
  have unstarted : run.hasStarted = false := rfl
  refine ⟨unstarted, ?_⟩
  obtain ⟨kept, _⟩ := runCell_cells_of_not_started (readyWorld (.error .permissionDenied))
    (fun _ => false) none (.new "/w") cells 0 false () unstarted
  rw [kept]
  intro launched
  exact absurd launched (by decide)

/-- A run that is cancelled before its process, and one whose process cannot be started, cost the
cell its output. -/
theorem runCell_gives_up_output :
    let cells := [savedCell]
    let cancelled := runCell (readyWorld (.ok ⟨[], .ok (.code 0), ()⟩)) (fun _ => false) none
      (.new "/w") cells 0 true ()
    let failed := runCell (readyWorld (.error .permissionDenied)) (fun _ => false) none (.new "/w")
      cells 0 false ()
    (cancelled.hasStarted = false ∧ cancelled.cells ≠ cells) ∧
      failed.hasStarted = false ∧ failed.cells ≠ cells := by
  decide

end Notebook.Session
