import Notebook.Proofs.Session.Attempt

/-! # What an observer is told of a run

The run of a code cell is told as started, then its outputs, then its end; the run of anything else
is told as ended. The end is told once, whichever part of the run comes to it first, and says what
the result says.
-/

namespace Notebook.Session

open Run Progress

section

variable {σ : Type} {environment : Environment σ} {observer : Observer} {documentDir : Option Path}
  {session : Session} {cells : List Cell} {position : Nat} {isCancelled : Bool} {world : σ}

/-- What the observer is told before anything else. -/
def announcement (cells : List Cell) (position : Nat) : List Event :=
  if cells[position]?.any Cell.isCode then [.started position] else []

theorem isOpen_fresh :
    IsOpen (announcement cells position) position
      (fresh observer session cells position isCancelled world).progress := by
  simp only [announcement, fresh]
  split
  · exact ⟨rfl, [], rfl⟩
  · exact ⟨rfl, [], rfl⟩

/-- However a run has ended, its report agrees with its result. -/
theorem isPending_attempt {run : CellRun σ}
    (ran : attempt environment observer documentDir session cells position isCancelled world =
      run) :
    IsPending (announcement cells position) position (isSuccess run.result) run.progress := by
  have announced : IsOpen (announcement cells position) position
      (fresh observer session cells position isCancelled world).progress := isOpen_fresh
  obtain ⟨_, unlaunched⟩ | ⟨_, request, there, launched⟩ := attempt_cases ran
  · rw [unlaunched.progress]
    exact .inr announced
  · obtain rfl := launched.place
    rw [launched.progress, launched.result]
    exact isPending_supervise announced

/-- Anything but a code cell is refused before its observer is told of it. -/
theorem attempt_of_not_code {run : CellRun σ}
    (ran : attempt environment observer documentDir session cells position isCancelled world = run)
    (other : ¬ cells[position]?.any Cell.isCode = true) :
    run.progress = .new isCancelled ∧ isSuccess run.result = false := by
  subst ran
  rw [attempt]
  cases found : cells[position]? with
  | none => exact ⟨rfl, rfl⟩
  | some cell =>
    rw [found, Option.any_some, Bool.not_eq_true] at other
    simp [other, CellRun.ended, isSuccess]

end

/-- Every run ends exactly once: the observer is told that it has started, if there is a code cell
to run, then outputs of that cell, and last its end, with the success of the outcome or, for a
failure, without success. -/
theorem runCell_events {σ : Type} (environment : Environment σ) (observer : Observer)
    (documentDir : Option Path) (session : Session) (cells : List Cell) (position : Nat)
    (isCancelled : Bool) (world : σ) :
    let run := runCell environment observer documentDir session cells position isCancelled world
    let success := match run.result with
      | .ok outcome => outcome.success
      | .error _ => false
    if cells[position]?.any Cell.isCode then
      ∃ outputs : List Text, run.progress.events =
        .started position :: outputs.map (.output position) ++ [.finished position success]
    else run.progress.events = [.finished position success] ∧ success = false := by
  intro run success
  have result : success = isSuccess run.result := by
    cases ended : run.result <;> simp only [success, ended, isSuccess]
  have ran : attempt environment observer documentDir session cells position isCancelled world = _ :=
    rfl
  split
  next isCode =>
    have pending := isPending_attempt ran
    obtain ⟨outputs, events⟩ := (pending.finish observer).events
    rw [announcement, if_pos isCode] at events
    rw [result]
    exact ⟨outputs, events⟩
  next other =>
    obtain ⟨untold, failed⟩ := attempt_of_not_code ran other
    rw [result]
    refine ⟨?_, failed⟩
    simp only [run, runCell, untold]
    rfl

end Notebook.Session
