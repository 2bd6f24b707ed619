import Notebook.Proofs.Run.Reports
import Notebook.Proofs.Session.Noninterference

/-! # How the run of a cell ends

A run ends without a launch, and then it has touched nothing but the world and the session, or it
ends with a launch, and then result and report are those of supervision. A run comes to a launch if
there is a program for the cell, its files can be written and a tool is found for it.
-/

namespace Notebook.Session

open Run

section

variable {σ : Type} {environment : Environment σ} {observer : Observer} {documentDir : Option Path}
  {session : Session} {cells : List Cell} {position : Nat} {isCancelled : Bool} {world : σ}

/-- A run that came to no launch. -/
structure CellRun.Unlaunched (before after : CellRun σ) : Prop where
  cells : after.cells = before.cells
  hasStarted : after.hasStarted = before.hasStarted
  progress : after.progress = before.progress

/-- A run that came to a launch in some world. -/
structure CellRun.Launched (environment : Environment σ) (observer : Observer) (position : Nat)
    (before after : CellRun σ) (request : Request) (world : σ) : Prop where
  place : request.position = position
  result : after.result =
    (supervise environment.toSurroundings observer request before.progress world).result
  cells : after.cells = cellsAfter before.cells position after.result
  hasStarted : after.hasStarted =
    (supervise environment.toSurroundings observer request before.progress world).hasStarted
  progress : after.progress =
    (supervise environment.toSurroundings observer request before.progress world).progress

/-- The files of a program can be written, and a tool is found for it. -/
def isReady (environment : Environment σ) (family : Family) (program : Program) (world : σ) :
    Bool :=
  match writeFiles environment world (⟨family.entryFile, program.source, true⟩ :: program.files) with
  | (.error _, _) => false
  | (.ok (), world) => (environment.locate world family).toOption.isSome

/-- The run of the cell comes to a launch. -/
def isLaunched (environment : Environment σ) (documentDir : Option Path) (session : Session)
    (cells : List Cell) (position : Nat) (world : σ) : Bool :=
  (program? ⟨session.workspace, documentDir⟩ cells position).any fun (family, program) =>
    isReady environment family program world

theorem CellRun.Launched.endsAtStart {before after : CellRun σ} {request : Request} {there : σ}
    (launched : CellRun.Launched environment observer position before after request there)
    (unstarted : after.hasStarted = false) : EndsAtStart after.result := by
  rw [launched.result]
  apply endsAtStart_supervise
  rw [← launched.hasStarted]
  exact unstarted

/-- A launch succeeds only through its process. -/
theorem CellRun.Launched.hasStarted_and_isSuccess {before after : CellRun σ} {request : Request}
    {there : σ}
    (launched : CellRun.Launched environment observer position before after request there) :
    (after.hasStarted && isSuccess after.result) = isSuccess after.result := by
  cases started : after.hasStarted with
  | true => rfl
  | false => rw [(launched.endsAtStart started).isSuccess_eq_false, Bool.and_false]

/-- A program is launched exactly if it is ready to be. -/
theorem runProgram_cases {context : ProgramContext} {family : Family} {program : Program}
    {before after : CellRun σ}
    (ran : runProgram environment observer context position family program before = after) :
    (isReady environment family program before.world = false ∧ CellRun.Unlaunched before after) ∨
      (isReady environment family program before.world = true ∧
        ∃ request world, CellRun.Launched environment observer position before after request
          world) := by
  subst ran
  simp only [runProgram, isReady]
  cases writeFiles environment before.world
    (⟨family.entryFile, program.source, true⟩ :: program.files) with
  | mk written world =>
    cases written with
    | error cause => exact .inl ⟨rfl, rfl, rfl, rfl⟩
    | ok nothing =>
      cases nothing
      cases located : environment.locate world family with
      | error failure =>
        refine .inl ⟨by simp [located, Except.toOption], ?_⟩
        simp only [located]
        exact ⟨rfl, rfl, rfl⟩
      | ok toolchain =>
        refine .inr ⟨by simp [located, Except.toOption], ?_⟩
        simp only [located]
        exact ⟨_, world, rfl, rfl, rfl, rfl, rfl⟩

/-- A cell for which there is no program to run ends without a launch. -/
theorem runCode_unlaunched {cell : Cell} {before : CellRun σ} (found : cells[position]? = some cell)
    (isCode : cell.isCode = true) (same : before.cells = cells)
    (nothing : program? ⟨before.session.workspace, documentDir⟩ cells position = none) :
    CellRun.Unlaunched before
      (runCode environment observer documentDir position cell before) := by
  cases runs : isRun cell.directive with
  | false =>
    rw [runCode]
    rcases isRun_eq_false_iff.mp runs with skips | ⟨file, creates⟩
    · rw [skips]
      exact ⟨rfl, rfl, rfl⟩
    · rw [creates]
      exact ⟨rfl, rfl, rfl⟩
  | true =>
    rw [program?, found, Option.bind_some, if_pos ⟨isCode, runs⟩] at nothing
    rw [runCode_of_isRun runs, same]
    cases built : programFor ⟨before.session.workspace, documentDir⟩ cells position cell with
    | error failure => exact ⟨rfl, rfl, rfl⟩
    | ok pair =>
      rw [built] at nothing
      contradiction

/-- What the run of a cell starts from, once a code cell has been reported as started. -/
def fresh (observer : Observer) (session : Session) (cells : List Cell) (position : Nat)
    (isCancelled : Bool) (world : σ) : CellRun σ :=
  let progress := Progress.new isCancelled
  ⟨.error (.cellNotFound position), session, cells, false,
    if cells[position]?.any Cell.isCode then progress.tell observer (.started position)
    else progress, world⟩

/-- A run comes to a launch or leaves the document as it was. -/
theorem attempt_cases {after : CellRun σ}
    (ran : attempt environment observer documentDir session cells position isCancelled world =
      after) :
    let before := fresh observer session cells position isCancelled world
    (isLaunched environment documentDir session cells position world = false ∧
        CellRun.Unlaunched before after) ∨
      (isLaunched environment documentDir session cells position world = true ∧
        ∃ request world, CellRun.Launched environment observer position before after request
          world) := by
  intro before
  cases program : program? ⟨session.workspace, documentDir⟩ cells position with
  | none =>
    refine .inl ⟨by simp [isLaunched, program], ?_⟩
    subst ran
    simp only [before, attempt, fresh]
    cases found : cells[position]? with
    | none => exact ⟨rfl, rfl, rfl⟩
    | some cell =>
      cases isCode : cell.isCode with
      | false => simpa [isCode] using ⟨rfl, rfl, rfl⟩
      | true =>
        simp only [isCode, if_true, Option.any_some]
        exact runCode_unlaunched found isCode rfl program
  | some pair =>
    obtain ⟨family, built⟩ := pair
    have isCode : cells[position]?.any Cell.isCode = true := by
      obtain ⟨cell, here, runs⟩ := Option.bind_eq_some_iff.mp program
      obtain ⟨⟨isCode, _⟩, _⟩ := Option.ite_none_right_eq_some.mp runs
      simp [here, isCode]
    have start : before = ⟨.error (.cellNotFound position), session, cells, false,
        (Progress.new isCancelled).tell observer (.started position), world⟩ := by
      simp [before, fresh, isCode]
    have ready : isLaunched environment documentDir session cells position world =
        isReady environment family built before.world := by
      simp [isLaunched, program, start]
    rw [attempt_of_program?_some program, ← start] at ran
    rw [ready]
    exact runProgram_cases ran

end

/-- A world in which every file can be written and a tool is found for every family. -/
def readyWorld (start : Except SystemError (Process Unit)) : Environment Unit where
  isCancelled _ := false
  prepare world _ := world
  start _ _ := start
  grace := 0
  write world _ _ _ := (.ok (), world)
  locate _ _ := .ok ⟨"sh", "/bin/sh"⟩

end Notebook.Session
