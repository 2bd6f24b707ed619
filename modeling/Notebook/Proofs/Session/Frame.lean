import Notebook.Proofs.Session.Attempt

/-! # What runs leave of a document

The run of a cell may change the output of that cell and, if it has succeeded, the images of the
prose behind it. The frame of a cell is what no run changes. Histories and programs are read off the
frames alone, so they stay the same however many cells are run, in whatever order.
-/

namespace Notebook

/-- The cell with all that runs may change taken out. -/
def Cell.frame (cell : Cell) : Cell :=
  { cell with output := none, content := if cell.isCode then cell.content else [] }

namespace Cell

@[simp] theorem frame_setOutput (cell : Cell) (output : Option Text) :
    (cell.setOutput output).frame = cell.frame := rfl

theorem isCode_frame (cell : Cell) : cell.frame.isCode = cell.isCode := rfl

theorem language_frame (cell : Cell) : cell.frame.language = cell.language := rfl

theorem directive_frame (cell : Cell) : cell.frame.directive = cell.directive := rfl

theorem content_frame {cell : Cell} (isCode : cell.isCode = true) :
    cell.frame.content = cell.content :=
  if_pos isCode

end Cell

namespace Session

open Run

@[simp] theorem frame_withNewImages (cell : Cell) : (withNewImages cell).frame = cell.frame := by
  rw [withNewImages]
  cases isCode : cell.isCode with
  | true => rfl
  | false =>
    rw [Cell.isCode] at isCode
    simp [Cell.frame, Cell.isCode, isCode]

/-! ## One run -/

/-- What the run of a cell may change, given whether a process ran and succeeded. -/
structure Changes (position : Nat) (succeeded : Bool) (before after : List Cell) : Prop where
  /-- Of the cell itself, the output. -/
  own : ∃ output, after[position]? =
    before[position]?.map fun cell => { cell with output := output }
  /-- Of the next cell, the images. -/
  next : after[position + 1]? =
    if succeeded then before[position + 1]?.map withNewImages else before[position + 1]?
  others : ∀ i, i ≠ position → i ≠ position + 1 → after[i]? = before[i]?

theorem changes_self (position : Nat) (cells : List Cell) : Changes position false cells cells where
  own := by
    cases found : cells[position]? with
    | none => exact ⟨none, rfl⟩
    | some cell => exact ⟨cell.output, rfl⟩
  next := rfl
  others := fun _ _ _ => rfl

/-- The output that a run leaves in its cell. -/
def newOutput : Except Failure Outcome → Option Text
  | .ok outcome => if outcome.success then outcome.output else none
  | .error _ => none

/-- A run that came to a launch replaces the output, and then gives the images behind the cell new
versions if it has succeeded. -/
theorem cellsAfter_eq (cells : List Cell) (position : Nat) (result : Except Failure Outcome) :
    cellsAfter cells position result =
      let replaced := cells.modify position fun cell => cell.setOutput (newOutput result)
      if isSuccess result then replaced.modify (position + 1) withNewImages else replaced := by
  cases result with
  | error failure => rfl
  | ok outcome =>
    rw [cellsAfter]
    cases succeeded : outcome.success with
    | false => simp [isSuccess, newOutput, succeeded]
    | true =>
      cases output : outcome.output with
      | none => simp [isSuccess, newOutput, succeeded, output, keepOutput]
      | some text =>
        simp only [isSuccess, newOutput, succeeded, output, keepOutput, if_true,
          List.modify_modify_eq]
        rfl

theorem changes_cellsAfter (cells : List Cell) (position : Nat)
    (result : Except Failure Outcome) :
    Changes position (isSuccess result) cells (cellsAfter cells position result) where
  own := by
    refine ⟨(newOutput result).filter (· ≠ []), ?_⟩
    rw [cellsAfter_eq]
    cases isSuccess result with
    | false => simp [Cell.setOutput]
    | true => simp [Cell.setOutput]
  next := by
    rw [cellsAfter_eq]
    cases isSuccess result with
    | false => simp
    | true => simp
  others := by
    intro i notOwn notNext
    rw [cellsAfter_eq]
    cases isSuccess result with
    | false => simp [notOwn.symm]
    | true => simp [notOwn.symm, notNext.symm]

section

variable {position : Nat} {succeeded : Bool} {before after : List Cell}

theorem Changes.getElem? (changes : Changes position succeeded before after) (i : Nat) :
    after[i]?.map Cell.frame = before[i]?.map Cell.frame := by
  by_cases isOwn : i = position
  · obtain ⟨output, own⟩ := changes.own
    rw [isOwn, own, Option.map_map]
    rfl
  · by_cases isNext : i = position + 1
    · rw [isNext, changes.next]
      cases succeeded with
      | false => rfl
      | true => simp [Option.map_map, Function.comp_def]
    · rw [changes.others i isOwn isNext]

/-- A run keeps the frame of every cell. -/
theorem Changes.frames (changes : Changes position succeeded before after) :
    after.map Cell.frame = before.map Cell.frame := by
  apply List.ext_getElem?
  intro i
  rw [List.getElem?_map, List.getElem?_map]
  exact changes.getElem? i

end

section

variable {σ : Type} {environment : Environment σ} {observer : Observer} {documentDir : Option Path}
  {session : Session} {cells : List Cell} {position : Nat} {isCancelled : Bool} {world : σ}

/-- A run changes no more than the output of its cell and, if a process ran and succeeded, the
images behind it. -/
theorem changes_runCell {run : CellRun σ}
    (ran : runCell environment observer documentDir session cells position isCancelled world =
      run) :
    Changes position (run.hasStarted && isSuccess run.result) cells run.cells := by
  subst ran
  rw [runCell]
  dsimp only
  have ended : attempt environment observer documentDir session cells position isCancelled world =
    _ := rfl
  obtain ⟨_, unlaunched⟩ | ⟨_, request, there, launched⟩ := attempt_cases ended
  · rw [unlaunched.hasStarted, unlaunched.cells]
    exact changes_self position cells
  · rw [launched.hasStarted_and_isSuccess, launched.cells]
    exact changes_cellsAfter cells position _

end

/-! ## Any number of runs -/

/-- The cells that calls of sessions lead to, whatever becomes of each. -/
inductive Leads : List Cell → List Cell → Prop where
  | nothing (cells : List Cell) : Leads cells cells
  /-- One more cell is run. -/
  | runCell {before cells : List Cell} (earlier : Leads before cells) {σ : Type}
      (environment : Environment σ) (observer : Observer) (documentDir : Option Path)
      (session : Session) (position : Nat) (isCancelled : Bool) (world : σ) :
      Leads before (runCell environment observer documentDir session cells position isCancelled
        world).cells
  /-- Once more every cell is run. -/
  | runAll {before cells : List Cell} (earlier : Leads before cells) {σ : Type}
      (environment : Environment σ) (observer : Observer) (documentDir : Option Path)
      (session : Session) (isCancelled : Bool) (world : σ) :
      Leads before (runAll environment observer documentDir session cells isCancelled world).cells

section

variable {σ : Type} {environment : Environment σ} {observer : Observer} {documentDir : Option Path}

theorem frames_runPositions (done : DocumentRun σ) (positions : List Nat) :
    (runPositions environment observer documentDir done positions).cells.map Cell.frame =
      done.cells.map Cell.frame := by
  induction positions generalizing done with
  | nil => rfl
  | cons position rest ih =>
    rw [runPositions]
    dsimp only
    split
    · rfl
    · rw [ih]
      exact (changes_runCell rfl).frames

end

/-- No sequence of calls changes the frame of a cell. -/
theorem Leads.frames {before after : List Cell} (leads : Leads before after) :
    after.map Cell.frame = before.map Cell.frame := by
  induction leads with
  | nothing => rfl
  | runCell earlier environment observer documentDir session position isCancelled world ih =>
    rw [← ih]
    exact (changes_runCell rfl).frames
  | runAll earlier environment observer documentDir session isCancelled world ih =>
    rw [← ih]
    exact frames_runPositions _ _

/-! ## Histories -/

theorem sourcesOf_frame (language : Option Text) (cells : List Cell) :
    History.sourcesOf language (cells.map Cell.frame) = History.sourcesOf language cells := by
  rw [History.sourcesOf, List.zipIdx_map, List.filterMap_map]
  apply List.filterMap_congr
  rintro ⟨cell, position⟩ _
  by_cases isOwn : cell.isCode ∧ cell.language = language
  · simp [Cell.isCode_frame, Cell.language_frame, Cell.directive_frame, Cell.content_frame isOwn.1,
      isOwn]
  · simp [Cell.isCode_frame, Cell.language_frame, isOwn]

/-- A history is read off the frames of the cells. -/
theorem collect_frame (cells : List Cell) (position : Nat) :
    History.collect (cells.map Cell.frame) position = History.collect cells position := by
  rw [History.collect, History.collect, List.getElem?_map, ← List.map_take]
  cases cells[position]? with
  | none => rfl
  | some cell => simp only [Option.map_some, Cell.isCode_frame, Cell.language_frame, sourcesOf_frame]

theorem programFor_frame (context : ProgramContext) (cells : List Cell) (position : Nat)
    (cell : Cell) :
    programFor context (cells.map Cell.frame) position cell.frame =
      programFor context cells position cell := by
  rw [programFor, programFor, collect_frame, Cell.language_frame]

/-- A run changes no more than the output of its cell and, if a process ran and succeeded, the
images of the prose behind it. So whatever runs there have been, the document has the same frame,
and each of its cells the same history and the same program. -/
theorem leads_frame :
    (∀ {σ : Type} (environment : Environment σ) (observer : Observer) (documentDir : Option Path)
      (session : Session) (cells : List Cell) (position : Nat) (isCancelled : Bool) (world : σ),
      let run := runCell environment observer documentDir session cells position isCancelled world
      run.cells.length = cells.length ∧
        Changes position (run.hasStarted && isSuccess run.result) cells run.cells) ∧
    ∀ before after : List Cell, Leads before after →
      after.map Cell.frame = before.map Cell.frame ∧
        ∀ position, History.collect after position = History.collect before position ∧
          ∀ (context : ProgramContext) (cell cell' : Cell), before[position]? = some cell →
            after[position]? = some cell' →
            programFor context after position cell' = programFor context before position cell := by
  constructor
  · intro σ environment observer documentDir session cells position isCancelled world run
    have changes : Changes position (run.hasStarted && isSuccess run.result) cells run.cells :=
      changes_runCell rfl
    refine ⟨?_, changes⟩
    simpa using congrArg List.length changes.frames
  · intro before after leads
    have frames := leads.frames
    refine ⟨frames, ?_⟩
    intro position
    constructor
    · rw [← collect_frame, frames, collect_frame]
    · intro context cell cell' here there
      have same := congrArg (·[position]?) frames
      simp only [List.getElem?_map, here, there, Option.map_some, Option.some_inj] at same
      rw [← programFor_frame, frames, same, programFor_frame]

/-- What a run of the last shell cell prints. -/
def greeting : Process Unit :=
  ⟨[⟨.chunk .output (Utf8.encode (Output.marker ++ "\nhi\n")), fun _ => ()⟩,
    ⟨.ended .output, fun _ => ()⟩, ⟨.ended .error, fun _ => ()⟩], .ok (.code 0), ()⟩

/-- A run and then a run of everything, which leave outputs and a new image. -/
theorem leads_frame_greeting :
    let first := Cell.code "bash" "echo hi"
    let before := [first, Cell.prose "<img src=\"a.png\">", Cell.code "bash" "ls"]
    let once := (runCell (readyWorld (.ok greeting)) (fun _ => false) none (.new "/w") before 0 false
      ()).cells
    let after := (runAll (readyWorld (.ok greeting)) (fun _ => false) none (.new "/w") once false
      ()).cells
    Leads before after ∧ after[0]? = some (first.setOutput (some "hi")) ∧
      after[1]?.map (·.content) = some ("<img src=\"a.png?version=2\">" : Text) ∧
      after.map Cell.frame = before.map Cell.frame ∧
      History.collect after 2 = History.collect before 2 ∧
      programFor ⟨"/w", none⟩ after 0 (first.setOutput (some "hi")) =
        programFor ⟨"/w", none⟩ before 0 first := by
  intro first before once after
  have leads : Leads before after := .runAll (.runCell (.nothing before) ..) ..
  have output : after[0]? = some (first.setOutput (some "hi")) := by decide
  obtain ⟨frames, histories⟩ := leads_frame.2 before after leads
  refine ⟨leads, output, by decide +kernel, frames, (histories 2).1, ?_⟩
  exact (histories 0).2 _ first _ rfl output

end Session

end Notebook
