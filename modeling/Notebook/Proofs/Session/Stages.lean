import Notebook.Proofs.Session.Frame

/-! # Running every cell

Running a document goes through its cells in order, one stage for each, until it finds itself
cancelled. Which cells it goes through is settled before the first one runs, so nothing that becomes
of a cell adds, drops or moves another. Each stage starts from what the stages before it left, and
behind the last cell that was run only the images of the next one may have changed.
-/

namespace Notebook.Session

open Run

section

variable {σ : Type} (environment : Environment σ) (observer : Observer) (documentDir : Option Path)

/-- One more cell is run. -/
def runNext (done : DocumentRun σ) (position : Nat) : DocumentRun σ :=
  let run := runCell environment observer documentDir done.session done.cells position false
    done.world
  ⟨done.results ++ [(position, run.result)], run.session, run.cells, run.progress.isCancelled,
    done.events ++ run.progress.events, run.world⟩

/-- The run is found cancelled before its next cell. -/
def isCancelledAt (done : DocumentRun σ) : Bool :=
  done.isCancelled || environment.isCancelled done.world

/-- The run after so many of the cells. -/
def stage (start : DocumentRun σ) (positions : List Nat) (count : Nat) : DocumentRun σ :=
  (positions.take count).foldl (runNext environment observer documentDir) start

end

/-! ## Stages -/

section

variable {σ : Type} {environment : Environment σ} {observer : Observer} {documentDir : Option Path}
  {done start : DocumentRun σ} {position : Nat} {positions : List Nat}

theorem runPositions_cons (done : DocumentRun σ) (position : Nat) (rest : List Nat) :
    runPositions environment observer documentDir done (position :: rest) =
      if isCancelledAt environment done then { done with isCancelled := true }
      else runPositions environment observer documentDir
        (runNext environment observer documentDir done position) rest := by
  rw [runPositions, isCancelledAt]
  split
  · rfl
  next uncancelled => rw [Bool.eq_false_iff.mpr uncancelled, runNext]

variable (environment observer documentDir) in
/-- The run stops at the first stage that finds it cancelled, or behind the last one. -/
theorem runPositions_eq_stage (positions : List Nat) (start : DocumentRun σ) :
    ∃ count ≤ positions.length, ∃ isCancelled,
      runPositions environment observer documentDir start positions =
        { stage environment observer documentDir start positions count with
          isCancelled := isCancelled } ∧
      (count < positions.length → isCancelledAt environment
        (stage environment observer documentDir start positions count) = true) ∧
      ∀ earlier < count, isCancelledAt environment
        (stage environment observer documentDir start positions earlier) = false := by
  induction positions generalizing start with
  | nil => exact ⟨0, Nat.le_refl _, start.isCancelled, rfl, nofun, nofun⟩
  | cons position rest ih =>
    rw [runPositions_cons]
    cases cancelled : isCancelledAt environment start with
    | true => exact ⟨0, Nat.zero_le _, true, rfl, fun _ => cancelled, nofun⟩
    | false =>
      obtain ⟨count, bound, isCancelled, ends, stops, goesOn⟩ :=
        ih (runNext environment observer documentDir start position)
      refine ⟨count + 1, Nat.succ_le_succ bound, isCancelled, ends, ?_, ?_⟩
      · exact fun more => stops (Nat.lt_of_succ_lt_succ more)
      · intro earlier before
        cases earlier with
        | zero => exact cancelled
        | succ earlier => exact goesOn earlier (Nat.lt_of_succ_lt_succ before)

theorem stage_succ {count : Nat} (here : positions[count]? = some position) :
    stage environment observer documentDir start positions (count + 1) =
      runNext environment observer documentDir
        (stage environment observer documentDir start positions count) position := by
  rw [stage, List.take_add_one, here, Option.toList_some, List.foldl_concat, stage]

variable (environment observer documentDir) in
/-- Each cell adds one result behind the others. -/
theorem results_foldl_runNext (positions : List Nat) (done : DocumentRun σ) :
    ∃ more, more.map (·.1) = positions ∧
      (positions.foldl (runNext environment observer documentDir) done).results =
        done.results ++ more := by
  induction positions generalizing done with
  | nil => exact ⟨[], rfl, (List.append_nil _).symm⟩
  | cons position rest ih =>
    obtain ⟨more, places, results⟩ := ih (runNext environment observer documentDir done position)
    refine ⟨(position, (runCell environment observer documentDir done.session done.cells position
      false done.world).result) :: more, ?_, ?_⟩
    · rw [List.map_cons, places]
    · rw [List.foldl_cons, results]
      exact List.append_assoc ..

variable (environment observer documentDir) in
theorem results_stage (positions : List Nat) (start : DocumentRun σ) (count : Nat) :
    (stage environment observer documentDir start positions count).results.map (·.1) =
      start.results.map (·.1) ++ positions.take count := by
  obtain ⟨more, places, results⟩ :=
    results_foldl_runNext environment observer documentDir (positions.take count) start
  rw [stage, results, List.map_append, places]

/-- The result of a cell stays where it was put. -/
theorem getElem?_results_stage {count later : Nat} (fresh : start.results = [])
    (here : positions[count]? = some position) (before : count < later) :
    let reached := stage environment observer documentDir start positions count
    (stage environment observer documentDir start positions later).results[count]? =
      some (position, (runCell environment observer documentDir reached.session reached.cells
        position false reached.world).result) := by
  intro reached
  have inside := (List.getElem?_eq_some_iff.mp here).1
  have length : reached.results.length = count := by
    have places := congrArg List.length
      (results_stage environment observer documentDir positions start count)
    simpa [fresh, Nat.min_eq_left (Nat.le_of_lt inside)] using places
  obtain ⟨more, _, results⟩ := results_foldl_runNext environment observer documentDir
    ((positions.take later).drop (count + 1))
    (stage environment observer documentDir start positions (count + 1))
  have whole : stage environment observer documentDir start positions later =
      ((positions.take later).drop (count + 1)).foldl (runNext environment observer documentDir)
        (stage environment observer documentDir start positions (count + 1)) := by
    have earlier : positions.take (count + 1) = (positions.take later).take (count + 1) := by
      rw [List.take_take, Nat.min_eq_left (show count + 1 ≤ later from before)]
    rw [stage, stage, ← List.foldl_append, earlier, List.take_append_drop]
  have ran : (stage environment observer documentDir start positions (count + 1)).results =
      reached.results ++ [(position, (runCell environment observer documentDir reached.session
        reached.cells position false reached.world).result)] := by
    rw [stage_succ here]
    rfl
  rw [whole, results, ran, List.append_assoc, List.getElem?_append_right (Nat.le_of_eq length),
    length, Nat.sub_self]
  rfl

end

/-! ## Cells behind the last one -/

/-- Behind a cell only the one next to it has changed, and only if that is prose. -/
structure KeepsBehind (last : Nat) (before after : List Cell) : Prop where
  next : ∀ cell, before[last + 1]? = some cell → cell.isCode = true →
    after[last + 1]? = some cell
  others : ∀ i, last + 1 < i → after[i]? = before[i]?

section

variable {last position : Nat} {succeeded : Bool} {before between after : List Cell}

theorem keepsBehind_self (last : Nat) (cells : List Cell) : KeepsBehind last cells cells :=
  ⟨fun _ found _ => found, fun _ _ => rfl⟩

theorem KeepsBehind.trans (first : KeepsBehind last before between)
    (second : KeepsBehind last between after) : KeepsBehind last before after where
  next := fun cell found isCode => second.next cell (first.next cell found isCode) isCode
  others := fun i behind => (second.others i behind).trans (first.others i behind)

theorem withNewImages_of_isCode {cell : Cell} (isCode : cell.isCode = true) :
    withNewImages cell = cell :=
  if_pos isCode

/-- What the run of a cell may change is not behind it, or the images of the prose next to it. -/
theorem Changes.keepsBehind (changes : Changes position succeeded before after)
    (ahead : position ≤ last) : KeepsBehind last before after where
  next := by
    intro cell found isCode
    rcases Nat.eq_or_lt_of_le ahead with rfl | ahead
    · rw [changes.next, found]
      cases succeeded with
      | false => rfl
      | true => rw [if_pos rfl, Option.map_some, withNewImages_of_isCode isCode]
    · rw [changes.others (last + 1) (by omega) (by omega), found]
  others := fun i behind => changes.others i (by omega) (by omega)

end

section

variable {σ : Type} {environment : Environment σ} {observer : Observer} {documentDir : Option Path}

theorem keepsBehind_foldl_runNext {last : Nat} (positions : List Nat) (done : DocumentRun σ)
    (ahead : ∀ position ∈ positions, position ≤ last) :
    KeepsBehind last done.cells
      (positions.foldl (runNext environment observer documentDir) done).cells := by
  induction positions generalizing done with
  | nil => exact keepsBehind_self last _
  | cons position rest ih =>
    obtain ⟨here, others⟩ := List.forall_mem_cons.mp ahead
    have changes : Changes position _ done.cells
        (runNext environment observer documentDir done position).cells := changes_runCell rfl
    exact (changes.keepsBehind here).trans (ih _ others)

end

/-! ## Cells that can be run -/

theorem mem_runnablePositions {cells : List Cell} {position : Nat} :
    position ∈ runnablePositions cells ↔ ∃ cell, cells[position]? = some cell ∧
      cell.isCode = true ∧ (cell.language.bind Family.ofLanguage?).isSome = true := by
  simp only [runnablePositions, List.mem_filterMap, Prod.exists, List.mem_zipIdx_iff_getElem?,
    Option.ite_none_right_eq_some, Option.some_inj]
  constructor
  · rintro ⟨cell, _, found, runnable, rfl⟩
    exact ⟨cell, found, runnable⟩
  · rintro ⟨cell, found, runnable⟩
    exact ⟨cell, position, found, runnable, rfl⟩

theorem pairwise_runnablePositions (cells : List Cell) :
    (runnablePositions cells).Pairwise (· < ·) := by
  have places : cells.zipIdx.Pairwise (·.2 < ·.2) := by
    rw [← List.pairwise_map (f := Prod.snd) (R := (· < ·)), List.zipIdx_map_snd]
    exact List.pairwise_lt_range'
  refine places.filterMap _ ?_
  rintro ⟨cell, place⟩ ⟨cell', place'⟩ before
  simp only [Option.ite_none_right_eq_some, Option.some_inj]
  rintro _ ⟨_, rfl⟩ _ ⟨_, rfl⟩
  exact before

/-! ## The whole run -/

section

variable {σ : Type} (environment : Environment σ) (observer : Observer) (documentDir : Option Path)

/-- The cells that can be run are gone through in order, each from what the cells before it left,
up to the first stage that is found cancelled. -/
theorem runAll_stages (session : Session) (cells : List Cell) (isCancelled : Bool) (world : σ) :
    let positions := runnablePositions cells
    let reached := stage environment observer documentDir
      ⟨[], session, cells, isCancelled, [], world⟩ positions
    let done := runAll environment observer documentDir session cells isCancelled world
    positions.Pairwise (· < ·) ∧
    (∀ position, position ∈ positions ↔ ∃ cell, cells[position]? = some cell ∧
      cell.isCode = true ∧ (cell.language.bind Family.ofLanguage?).isSome = true) ∧
    (∃ count ≤ positions.length,
      done.results.map (·.1) = positions.take count ∧
      done.cells = (reached count).cells ∧
      (count < positions.length → isCancelledAt environment (reached count) = true) ∧
      ∀ k < count, isCancelledAt environment (reached k) = false ∧
        ∃ position, positions[k]? = some position ∧
          let run := runCell environment observer documentDir (reached k).session
            (reached k).cells position false (reached k).world
          done.results[k]? = some (position, run.result) ∧
          (reached (k + 1)).cells = run.cells ∧
          (reached (k + 1)).session = run.session ∧
          (reached (k + 1)).world = run.world) ∧
    (∀ last, done.results.getLast?.map (·.1) = some last →
      KeepsBehind last cells done.cells) := by
  intro positions reached done
  obtain ⟨count, bound, cancelled, ends, stops, goesOn⟩ := runPositions_eq_stage environment
    observer documentDir positions ⟨[], session, cells, isCancelled, [], world⟩
  have doneEnds : done = { reached count with isCancelled := cancelled } := ends
  have results : done.results = (reached count).results := by rw [doneEnds]
  have left : done.cells = (reached count).cells := by rw [doneEnds]
  have increasing : positions.Pairwise (· < ·) := pairwise_runnablePositions cells
  have places : done.results.map (·.1) = positions.take count := by
    rw [results]
    exact results_stage environment observer documentDir positions _ count
  refine ⟨increasing, fun _ => mem_runnablePositions,
    ⟨count, bound, places, left, stops, ?_⟩, ?_⟩
  · intro k before
    obtain ⟨position, here⟩ : ∃ position, positions[k]? = some position :=
      ⟨_, List.getElem?_eq_getElem (Nat.lt_of_lt_of_le before bound)⟩
    have next : reached (k + 1) = runNext environment observer documentDir (reached k) position :=
      stage_succ here
    refine ⟨goesOn k before, position, here, ?_, ?_, ?_, ?_⟩
    · rw [results]
      exact getElem?_results_stage rfl here before
    all_goals rw [next]; rfl
  · intro last found
    rw [← List.getLast?_map, places] at found
    rw [left]
    refine keepsBehind_foldl_runNext (positions.take count)
      ⟨[], session, cells, isCancelled, [], world⟩ fun position among => ?_
    -- The last of an increasing list is its greatest.
    obtain ⟨before, split⟩ := List.getLast?_eq_some_iff.mp found
    have sorted : (before ++ [last]).Pairwise (· < ·) := split ▸ increasing.take
    rw [split, List.mem_append, List.mem_singleton] at among
    rcases among with among | rfl
    · exact Nat.le_of_lt ((List.pairwise_append.mp sorted).2.2 position among last
        (List.mem_singleton_self last))
    · exact Nat.le_refl _

end

end Notebook.Session
