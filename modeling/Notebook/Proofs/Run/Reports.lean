import Mathlib.Data.List.Basic
import Notebook.Session

/-! # What an observer is told of a launch

While a launch is supervised its observer is told outputs of the cell, and nothing else. Supervision
ends with a report that agrees with its result. There is one exception: if the process cannot be
waited for, the report is left to the session, and the latch is still open for it.
-/

namespace Notebook.Run

open Session

namespace Progress

/-- Since some events the observer has been told outputs of a cell, and the end not yet. -/
structure IsOpen (told : List Event) (position : Nat) (progress : Progress) : Prop where
  latch : progress.latch = Latch.new
  events : ∃ outputs : List Text, progress.events = told ++ outputs.map (.output position)

/-- Since some events the observer has been told outputs of a cell, and then the end of its run. -/
structure IsClosed (told : List Event) (position : Nat) (success : Bool) (progress : Progress) :
    Prop where
  latch : progress.latch.isDone = true
  events : ∃ outputs : List Text,
    progress.events = told ++ outputs.map (.output position) ++ [.finished position success]

/-- The end has been told, or is still to be told. -/
def IsPending (told : List Event) (position : Nat) (success : Bool) (progress : Progress) : Prop :=
  IsClosed told position success progress ∨ IsOpen told position progress

section

variable {told : List Event} {position : Nat} {success : Bool} {progress : Progress}

theorem IsOpen.heed (still : IsOpen told position progress) (isCancelled : Bool) :
    IsOpen told position (progress.heed isCancelled) :=
  ⟨still.latch, still.events⟩

theorem IsOpen.tell (still : IsOpen told position progress) (observer : Observer) (text : Text) :
    IsOpen told position (progress.tell observer (.output position text)) := by
  obtain ⟨outputs, events⟩ := still.events
  refine ⟨still.latch, outputs ++ [text], ?_⟩
  simp [Progress.tell, events]

theorem IsOpen.finish (still : IsOpen told position progress) (observer : Observer)
    (success : Bool) :
    IsClosed told position success (progress.finish observer position success) := by
  obtain ⟨outputs, events⟩ := still.events
  constructor
  · simp [Progress.finish, Latch.finish, Progress.tell, still.latch, Latch.new]
  · refine ⟨outputs, ?_⟩
    simp [Progress.finish, Latch.finish, Progress.tell, still.latch, Latch.new, events]

/-- The latch lets no second report through. -/
theorem finish_of_isDone (done : progress.latch.isDone = true) (observer : Observer)
    (position : Nat) (success : Bool) : progress.finish observer position success = progress := by
  obtain ⟨isCancelled, ⟨isDone⟩, events⟩ := progress
  change isDone = true at done
  subst done
  rfl

theorem IsPending.finish (pending : IsPending told position success progress)
    (observer : Observer) :
    IsClosed told position success (progress.finish observer position success) := by
  rcases pending with closed | still
  · rw [finish_of_isDone closed.latch]
    exact closed
  · exact still.finish observer success

end

end Progress

open Progress

section

variable {σ : Type} {told : List Event} {position : Nat} {progress : Progress}

theorem isOpen_prepare (surroundings : Surroundings σ) (world : σ) (steps : List Invocation)
    (still : IsOpen told position progress) :
    IsOpen told position (prepare surroundings progress world steps).1 := by
  induction steps generalizing progress world with
  | nil => exact still.heed _
  | cons step rest ih =>
    rw [prepare]
    split
    · exact still.heed _
    · exact ih _ (still.heed _)

/-- How far the observer has been told after a sign, if the sign is news. -/
def Progress.hear (progress : Progress) (observer : Observer) (position : Nat) (sign : Sign)
    (news : Option Text) : Progress :=
  let heeded := progress.heed (decide (sign = .cancelled))
  news.elim heeded fun text => heeded.tell observer (.output position text)

theorem Progress.IsOpen.hear (still : IsOpen told position progress) (observer : Observer)
    (sign : Sign) (news : Option Text) :
    IsOpen told position (progress.hear observer position sign news) := by
  cases news with
  | none => exact still.heed _
  | some text => exact (still.heed _).tell observer text

variable {observer : Observer} {grace : Nat} {request : Request} {exit : Except SystemError Exit}
  {world : σ} {surroundings : Surroundings σ}

/-- A moment of a process ends the run, or is followed by the next one. -/
theorem follow_cons (progress : Progress) (reading : Reading) (moment : Moment σ)
    (rest : List (Moment σ)) :
    follow observer grace request exit world progress reading (moment :: rest) =
      let noticed := reading.notice request.suppressOutput moment.sign
      let heard := progress.hear observer request.position moment.sign noticed.2
      if heard.isCancelled then
        endCancelled observer request.position noticed.1.states true heard (moment.stopped grace)
      else follow observer grace request exit world heard noticed.1 rest := by
  rw [follow]
  cases reading.notice request.suppressOutput moment.sign with
  | mk reading news => cases news <;> rfl

/-- A launch is cancelled before its process, or has a process that cannot be started, or has one
that is followed. -/
theorem supervise_cases (surroundings : Surroundings σ) (observer : Observer) (request : Request)
    (progress : Progress) (world : σ) :
    let prepared := prepare surroundings progress world request.launch.preparation
    supervise surroundings observer request progress world =
        endCancelled observer request.position [.idle] false prepared.1 prepared.2 ∨
      (∃ cause, supervise surroundings observer request progress world =
        ⟨.error (.spawn request.launch.main.program cause), [.idle, .errored], false,
          prepared.1.finish observer request.position false, prepared.2⟩) ∨
      ∃ process : Process σ, supervise surroundings observer request progress world =
        follow observer surroundings.grace request process.exit process.world prepared.1
          (Reading.new request.targetSegment) process.moments := by
  intro prepared
  simp only [supervise]
  split
  · exact .inl rfl
  · split
    next cause _ => exact .inr (.inl ⟨cause, rfl⟩)
    next process _ => exact .inr (.inr ⟨process, rfl⟩)

/-! ## Reports -/

/-- What is noticed of a process is told as outputs, up to its end or to a cancellation. -/
theorem isPending_follow (reading : Reading) (moments : List (Moment σ))
    (still : IsOpen told request.position progress) :
    let ended := follow observer grace request exit world progress reading moments
    IsPending told request.position (isSuccess ended.result) ended.progress := by
  induction moments generalizing progress reading with
  | nil =>
    rw [follow]
    cases exit with
    | error cause => exact .inr still
    | ok exit => exact .inl (still.finish observer _)
  | cons moment rest ih =>
    have heard := still.hear observer moment.sign
      (reading.notice request.suppressOutput moment.sign).2
    rw [follow_cons]
    intro ended
    simp only [ended]
    split
    · exact .inl (heard.finish observer false)
    · exact ih _ heard

/-- The report of a supervised launch agrees with its result. -/
theorem isPending_supervise (still : IsOpen told request.position progress) :
    let ended := supervise surroundings observer request progress world
    IsPending told request.position (isSuccess ended.result) ended.progress := by
  have prepared := isOpen_prepare surroundings world request.launch.preparation still
  intro ended
  obtain cancelled | ⟨cause, failed⟩ | ⟨process, followed⟩ :=
    supervise_cases surroundings observer request progress world
  · simp only [ended, cancelled]
    exact .inl (prepared.finish observer false)
  · simp only [ended, failed]
    exact .inl (prepared.finish observer false)
  · simp only [ended, followed]
    exact isPending_follow _ _ prepared

/-! ## Launches without a process -/

/-- The result of a launch whose main process was not started. -/
def EndsAtStart (result : Except Failure Outcome) : Prop :=
  result = .ok .cancelled ∨ ∃ program cause, result = .error (.spawn program cause)

theorem EndsAtStart.isSuccess_eq_false {result : Except Failure Outcome}
    (ends : EndsAtStart result) : isSuccess result = false := by
  rcases ends with rfl | ⟨program, cause, rfl⟩
  · rfl
  · rfl

theorem hasStarted_follow (progress : Progress) (reading : Reading) (moments : List (Moment σ)) :
    (follow observer grace request exit world progress reading moments).hasStarted = true := by
  induction moments generalizing progress reading with
  | nil => cases exit <;> rfl
  | cons moment rest ih =>
    rw [follow_cons]
    dsimp only
    split
    · rfl
    · exact ih _ _

/-- The main process is left out by a cancellation, or cannot be started. -/
theorem endsAtStart_supervise
    (unstarted : (supervise surroundings observer request progress world).hasStarted = false) :
    EndsAtStart (supervise surroundings observer request progress world).result := by
  obtain cancelled | ⟨cause, failed⟩ | ⟨process, followed⟩ :=
    supervise_cases surroundings observer request progress world
  · rw [cancelled]
    exact .inl rfl
  · rw [failed]
    exact .inr ⟨_, cause, rfl⟩
  · rw [followed, hasStarted_follow] at unstarted
    contradiction

end

end Notebook.Run
