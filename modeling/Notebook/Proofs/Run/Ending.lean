import Mathlib.Data.List.Destutter
import Mathlib.Data.List.Infix
import Notebook.Proofs.Output.Alignment
import Notebook.Proofs.Run.Reports

/-! # How a launch ends

Two streams, an exit and a cancellation race, and the order in which they are noticed decides how
the launch ends. What is told of the output on the way is read off the bytes received: the visible
texts of ever longer starts of them, with repetitions left out. A cancellation wins over an exit
that is already there, and a launch that is not cancelled ends with its process.
-/

namespace Notebook.Run

open Output Session

/-! ## What is received -/

/-- The chunks that arrive, given the streams that have ended: nothing comes from these. -/
def receivedAfter : List Stream → List Sign → List (List UInt8)
  | _, [] => []
  | ended, .chunk stream bytes :: rest =>
    if stream ∈ ended then receivedAfter ended rest else bytes :: receivedAfter ended rest
  | ended, .ended stream :: rest => receivedAfter (stream :: ended) rest
  | ended, .cancelled :: rest => receivedAfter ended rest

/-- The chunks that arrive, in their order. -/
def received (signs : List Sign) : List (List UInt8) :=
  receivedAfter [] signs

/-- The output after the signs, for the segment of the cell. -/
def collected (request : Request) (signs : List Sign) : Collector :=
  ⟨request.targetSegment, (received signs).flatten⟩

/-- The texts that become visible while chunks arrive. -/
def visibleTexts (targetSegment : Nat) (chunks : List (List UInt8)) : List Text :=
  chunks.inits.filterMap fun start => (Collector.mk targetSegment start.flatten).visible?

/-- The outputs that the observer is told on the way. -/
def toldOutputs (request : Request) (signs : List Sign) : List Text :=
  if request.suppressOutput then []
  else (visibleTexts request.targetSegment (received signs)).destutter (· ≠ ·)

/-- Someone has cancelled the run among the signs, or the observer has when it was told an
output. -/
def IsCancelledBy (observer : Observer) (request : Request) (signs : List Sign) : Prop :=
  .cancelled ∈ signs ∨
    ∃ text ∈ toldOutputs request signs, observer (.output request.position text) = true

section

variable {request : Request} {signs : List Sign}

theorem visible?_nil (targetSegment : Nat) : (Collector.mk targetSegment []).visible? = none := by
  have nothing : decode [] = [] := rfl
  have segments : (Collector.mk targetSegment []).segments = [[]] := by
    rw [Collector.segments, nothing, settled, List.take_nil]
    rfl
  rw [Collector.visible?, segments]
  cases targetSegment <;> rfl

theorem toldOutputs_nil (request : Request) : toldOutputs request [] = [] := by
  have start : visibleTexts request.targetSegment [] = [] := by
    rw [visibleTexts, List.inits, List.filterMap_cons, List.flatten_nil, visible?_nil]
    rfl
  have silent : received [] = [] := rfl
  rw [toldOutputs, silent, start]
  exact ite_self _

/-- One more sign brings its chunk, unless its stream has ended before. -/
theorem receivedAfter_concat (ended : List Stream) (signs : List Sign) (sign : Sign) :
    receivedAfter ended (signs ++ [sign]) = receivedAfter ended signs ++
      match sign with
      | .chunk stream bytes => if stream ∈ ended ∨ .ended stream ∈ signs then [] else [bytes]
      | .ended _ | .cancelled => [] := by
  induction signs generalizing ended with
  | nil =>
    cases sign with
    | chunk stream bytes => by_cases member : stream ∈ ended <;> simp [receivedAfter, member]
    | ended stream => rfl
    | cancelled => rfl
  | cons first rest ih =>
    cases first with
    | chunk stream bytes =>
      rw [List.cons_append, receivedAfter, receivedAfter, ih]
      split <;> simp
    | ended stream =>
      rw [List.cons_append, receivedAfter, receivedAfter, ih]
      cases sign with
      | chunk other bytes => simp [or_assoc, or_left_comm]
      | ended other => rfl
      | cancelled => rfl
    | cancelled =>
      rw [List.cons_append, receivedAfter, receivedAfter, ih]
      simp

theorem received_concat_cases (signs : List Sign) (sign : Sign) :
    received (signs ++ [sign]) = received signs ∨
      ∃ bytes, received (signs ++ [sign]) = received signs ++ [bytes] := by
  rw [received, receivedAfter_concat]
  cases sign with
  | chunk stream bytes =>
    dsimp only
    split
    · exact .inl (List.append_nil _)
    · exact .inr ⟨bytes, rfl⟩
  | ended stream => exact .inl (List.append_nil _)
  | cancelled => exact .inl (List.append_nil _)

theorem visibleTexts_concat (targetSegment : Nat) (chunks : List (List UInt8))
    (chunk : List UInt8) :
    visibleTexts targetSegment (chunks ++ [chunk]) = visibleTexts targetSegment chunks ++
      (Collector.mk targetSegment (chunks ++ [chunk]).flatten).visible?.toList := by
  have starts : (chunks ++ [chunk]).inits = chunks.inits ++ [chunks ++ [chunk]] := by
    rw [List.inits_append]
    rfl
  rw [visibleTexts, starts, List.filterMap_append, List.filterMap_cons]
  cases (Collector.mk targetSegment (chunks ++ [chunk]).flatten).visible? <;> rfl

section

variable {α : Type} [DecidableEq α]

theorem destutter'_concat (first : α) (list : List α) (last : α) :
    (list ++ [last]).destutter' (· ≠ ·) first = list.destutter' (· ≠ ·) first ++
      if (list.destutter' (· ≠ ·) first).getLast? = some last then [] else [last] := by
  induction list generalizing first with
  | nil => by_cases same : first = last <;> simp [same]
  | cons next rest ih =>
    by_cases same : first = next
    · have repeated : ¬ first ≠ next := not_not.mpr same
      rw [List.cons_append, List.destutter'_cons_neg _ repeated,
        List.destutter'_cons_neg _ repeated, ih]
    · have filled : rest.destutter' (· ≠ ·) next ≠ [] := List.destutter'_ne_nil _ _
      rw [List.cons_append, List.destutter'_cons_pos _ same, List.destutter'_cons_pos _ same, ih,
        List.getLast?_cons, List.getLast?_eq_some_getLast filled, Option.getD_some,
        List.cons_append]

/-- What comes last is left out if it repeats what was kept last. -/
theorem destutter_concat (list : List α) (last : α) :
    (list ++ [last]).destutter (· ≠ ·) = list.destutter (· ≠ ·) ++
      if (list.destutter (· ≠ ·)).getLast? = some last then [] else [last] := by
  cases list with
  | nil => rfl
  | cons first rest => exact destutter'_concat first rest last

end

/-- A chunk that arrives is news if the output of the cell is another one than the observer was told
last. -/
theorem toldOutputs_of_arrival {sign : Sign} {bytes : List UInt8}
    (arrives : received (signs ++ [sign]) = received signs ++ [bytes]) :
    toldOutputs request (signs ++ [sign]) = toldOutputs request signs ++
      (if request.suppressOutput then none
        else (collected request (signs ++ [sign])).visible?.filter fun text =>
          (toldOutputs request signs).getLast? ≠ some text).toList := by
  cases suppressed : request.suppressOutput with
  | true => simp [toldOutputs, suppressed]
  | false =>
    simp only [toldOutputs, suppressed, Bool.false_eq_true, if_false, arrives, collected,
      visibleTexts_concat]
    cases (Collector.mk request.targetSegment (received signs ++ [bytes]).flatten).visible? with
    | none => simp
    | some text =>
      rw [Option.toList_some, destutter_concat, Option.filter_some]
      generalize (visibleTexts request.targetSegment (received signs)).destutter (· ≠ ·) = told
      by_cases repeated : told.getLast? = some text
      · simp [repeated]
      · simp [repeated]

theorem toldOutputs_of_silence {sign : Sign}
    (silence : received (signs ++ [sign]) = received signs) :
    toldOutputs request (signs ++ [sign]) = toldOutputs request signs := by
  rw [toldOutputs, silence, toldOutputs]

theorem isCancelledBy_concat {observer : Observer} {sign : Sign} {news : Option Text}
    (told : toldOutputs request (signs ++ [sign]) = toldOutputs request signs ++ news.toList) :
    IsCancelledBy observer request (signs ++ [sign]) ↔ IsCancelledBy observer request signs ∨
      sign = .cancelled ∨ ∃ text ∈ news, observer (.output request.position text) = true := by
  simp only [IsCancelledBy, told, List.mem_append, List.mem_singleton, Option.mem_toList,
    or_and_right, exists_or, eq_comm (a := sign)]
  exact or_or_or_comm ..

theorem isPrefix_toldOutputs {seen : List Sign} (first : seen <+: signs) :
    toldOutputs request seen <+: toldOutputs request signs := by
  obtain ⟨more, rfl⟩ := first
  induction more using List.reverseRecOn with
  | nil => rw [List.append_nil]
  | append_singleton more sign ih =>
    rw [← List.append_assoc]
    rcases received_concat_cases (seen ++ more) sign with silence | ⟨bytes, arrives⟩
    · rwa [toldOutputs_of_silence silence]
    · rw [toldOutputs_of_arrival arrives]
      exact ih.trans (List.prefix_append _ _)

theorem IsCancelledBy.of_prefix {observer : Observer} {seen : List Sign}
    (cancelled : IsCancelledBy observer request seen) (first : seen <+: signs) :
    IsCancelledBy observer request signs := by
  rcases cancelled with someone | ⟨text, told, observed⟩
  · exact .inl (first.subset someone)
  · exact .inr ⟨text, (isPrefix_toldOutputs first).subset told, observed⟩

/-- What the observer has been told about visible texts is one of them, of a start of the bytes. -/
theorem mem_toldOutputs {text : Text} (told : text ∈ toldOutputs request signs) :
    ∃ start, start <+: received signs ∧
      (Collector.mk request.targetSegment start.flatten).visible? = some text := by
  rw [toldOutputs] at told
  split at told
  · contradiction
  · obtain ⟨start, first, visible⟩ :=
      List.mem_filterMap.mp ((List.destutter_sublist ..).subset told)
    exact ⟨start, (List.mem_inits ..).mp first, visible⟩

theorem isChain_toldOutputs : (toldOutputs request signs).IsChain (· ≠ ·) := by
  rw [toldOutputs]
  split
  · exact .nil
  · exact List.isChain_destutter ..

end

/-! ## Signs one by one -/

/-- How far a process has been followed after some signs. -/
structure Heard (observer : Observer) (request : Request) (before : Progress) (signs : List Sign)
    (reading : Reading) (progress : Progress) : Prop where
  ended : ∀ stream, stream ∈ reading.ended ↔ .ended stream ∈ signs
  collector : reading.collector = collected request signs
  shown : reading.shown = (toldOutputs request signs).getLast?
  state : reading.state = .started ∨ reading.state = .streaming
  latch : progress.latch = before.latch
  events : progress.events =
    before.events ++ (toldOutputs request signs).map (.output request.position)
  isCancelled : progress.isCancelled = true ↔
    before.isCancelled = true ∨ IsCancelledBy observer request signs

section

variable {observer : Observer} {request : Request} {before progress : Progress}
  {signs : List Sign} {reading : Reading}

theorem heard_nil (observer : Observer) (request : Request) (before : Progress) :
    Heard observer request before [] (Reading.new request.targetSegment) before where
  ended := fun stream => ⟨nofun, nofun⟩
  collector := rfl
  shown := by rw [toldOutputs_nil]; rfl
  state := .inl rfl
  latch := rfl
  events := by rw [toldOutputs_nil, List.map_nil, List.append_nil]
  isCancelled := by simp [IsCancelledBy, toldOutputs_nil]

/-- A sign is noted with the news it brings. -/
theorem Heard.hear {sign : Sign} {news : Option Text} {next : Reading}
    (heard : Heard observer request before signs reading progress)
    (told : toldOutputs request (signs ++ [sign]) = toldOutputs request signs ++ news.toList)
    (ended : ∀ stream, stream ∈ next.ended ↔ .ended stream ∈ signs ++ [sign])
    (collector : next.collector = collected request (signs ++ [sign]))
    (shown : next.shown = news.or reading.shown)
    (state : next.state = .started ∨ next.state = .streaming) :
    Heard observer request before (signs ++ [sign]) next
      (progress.hear observer request.position sign news) where
  ended := ended
  collector := collector
  shown := by
    rw [shown, heard.shown, told]
    cases news with
    | none => rw [Option.none_or, Option.toList_none, List.append_nil]
    | some text => rw [Option.some_or, Option.toList_some, List.getLast?_concat]
  state := state
  latch := by
    rw [← heard.latch]
    cases news <;> rfl
  events := by
    rw [told, List.map_append, ← List.append_assoc, ← heard.events]
    cases news with
    | none => exact (List.append_nil _).symm
    | some text => rfl
  isCancelled := by
    rw [isCancelledBy_concat told, ← or_assoc, ← heard.isCancelled]
    cases news <;> simp [Progress.hear, Progress.heed, Progress.tell, or_assoc]

/-- A sign that brings nothing to read is no news; it may end a stream. -/
theorem Heard.silent {sign : Sign} (heard : Heard observer request before signs reading progress)
    (silence : received (signs ++ [sign]) = received signs) {streams : List Stream}
    (ended : ∀ stream, stream ∈ streams ↔ .ended stream ∈ signs ++ [sign]) :
    Heard observer request before (signs ++ [sign]) { reading with ended := streams }
      (progress.hear observer request.position sign none) := by
  apply heard.hear
  · rw [toldOutputs_of_silence silence, Option.toList_none, List.append_nil]
  · exact ended
  · rw [collected, silence]
    exact heard.collector
  · rfl
  · exact heard.state

/-- What is known of a process is kept up to date by each of its signs. -/
theorem Heard.notice (heard : Heard observer request before signs reading progress) (sign : Sign) :
    let noticed := reading.notice request.suppressOutput sign
    Heard observer request before (signs ++ [sign]) noticed.1
      (progress.hear observer request.position sign noticed.2) := by
  cases sign with
  | cancelled =>
    exact heard.silent (by simp [received, receivedAfter_concat]) (by simpa using heard.ended)
  | ended stream =>
    have silence : received (signs ++ [.ended stream]) = received signs := by
      simp [received, receivedAfter_concat]
    by_cases isOver : stream ∈ reading.ended
    · have known := (heard.ended stream).mp isOver
      simp only [Reading.notice, if_pos isOver]
      refine heard.silent silence fun other => ?_
      by_cases same : other = stream <;> simp [heard.ended, same, known]
    · simp only [Reading.notice, if_neg isOver]
      refine heard.silent silence fun other => ?_
      simp [heard.ended, or_comm]
  | chunk stream bytes =>
    by_cases isOver : stream ∈ reading.ended
    · have silence : received (signs ++ [.chunk stream bytes]) = received signs := by
        simp [received, receivedAfter_concat, (heard.ended stream).mp isOver]
      simp only [Reading.notice, if_pos isOver]
      exact heard.silent silence (by simpa using heard.ended)
    · have arrives : received (signs ++ [.chunk stream bytes]) = received signs ++ [bytes] := by
        simp [received, receivedAfter_concat, (heard.ended stream).not.mp isOver]
      have collector : reading.collector.push bytes =
          collected request (signs ++ [.chunk stream bytes]) := by
        rw [heard.collector, Collector.push, collected, collected, arrives, List.flatten_append,
          List.flatten_singleton]
      simp only [Reading.notice, if_neg isOver, Reading.receive, collector]
      apply heard.hear
      · rw [toldOutputs_of_arrival arrives, heard.shown]
      · simpa using heard.ended
      · rfl
      · rfl
      · exact .inr rfl

end

/-! ## The end -/

/-- The launch has come to one terminal state, as the last one. -/
structure IsSettled {σ : Type} (ended : Supervised σ) : Prop where
  states : ∃ passed last, ended.states = passed ++ [last] ∧ last.isTerminal = true ∧
    ∀ state ∈ passed, state.isTerminal = false
  outcome : ∀ outcome, ended.result = .ok outcome → ended.states.getLast? = some outcome.state

section

variable {σ : Type} {observer : Observer} {grace : Nat} {request : Request}
  {before progress : Progress} {signs : List Sign} {reading : Reading}

theorem Progress.events_finish (progress : Progress) (observer : Observer) (position : Nat)
    (success : Bool) : (progress.finish observer position success).events =
      progress.events ++ (progress.latch.finish position success).2 := by
  obtain ⟨isCancelled, ⟨isDone⟩, events⟩ := progress
  cases isDone with
  | true => exact (List.append_nil _).symm
  | false => rfl

theorem Reading.isTerminal_states (reading : Reading) :
    ∀ state ∈ reading.states, state.isTerminal = false := by
  rw [Reading.states]
  split <;> decide

/-- What becomes of a process that ends by itself, or is cancelled by one of the signs. -/
structure Followed (observer : Observer) (request : Request) (before : Progress) (status : Exit)
    (signs : List Sign) (ended : Supervised σ) : Prop where
  hasStarted : ended.hasStarted = true
  settled : IsSettled ended
  /-- A cancellation wins over the exit. -/
  cancelled : IsCancelledBy observer request signs →
    ended.result = .ok ⟨.cancelled, false, none, none⟩
  closed : ¬ IsCancelledBy observer request signs → ∃ success,
    ended.result = .ok ⟨.closed, success,
      if request.suppressOutput then none else (collected request signs).final?, some status⟩ ∧
    (success = true ↔ status = .code 0 ∨
      ∃ segment ∈ (collected request signs).allSegments, segment.isBlank = false)
  /-- The outputs are told up to the cancellation, or to the end. -/
  told : ∃ seen, seen <+: signs ∧ (IsCancelledBy observer request seen ∨ seen = signs) ∧
    (∀ earlier, earlier <+: seen → earlier ≠ seen → ¬ IsCancelledBy observer request earlier) ∧
    ended.progress.events =
      before.events ++ (toldOutputs request seen).map (.output request.position) ++
        (before.latch.finish request.position (isSuccess ended.result)).2

theorem followed_endCancelled {seen : List Sign} {world : σ}
    (heard : Heard observer request before seen reading progress) (first : seen <+: signs)
    (cancelled : IsCancelledBy observer request seen) (status : Exit)
    (early : ∀ earlier, earlier <+: seen → earlier ≠ seen →
      ¬ IsCancelledBy observer request earlier) :
    Followed observer request before status signs
      (endCancelled observer request.position reading.states true progress world) where
  hasStarted := rfl
  settled := by
    refine ⟨⟨reading.states, .cancelled, rfl, rfl, reading.isTerminal_states⟩, ?_⟩
    intro outcome result
    obtain rfl := Except.ok.inj result
    exact List.getLast?_concat
  cancelled := fun _ => rfl
  closed := fun uncancelled => absurd (cancelled.of_prefix first) uncancelled
  told := by
    refine ⟨seen, first, .inl cancelled, early, ?_⟩
    simp only [endCancelled, Progress.events_finish, heard.latch, heard.events]
    rfl

theorem followed_endClosed {world : σ}
    (heard : Heard observer request before signs reading progress) (status : Exit)
    (early : ∀ earlier, earlier <+: signs → ¬ IsCancelledBy observer request earlier) :
    Followed observer request before status signs
      (endClosed observer request reading progress world (.ok status)) where
  hasStarted := rfl
  settled := by
    refine ⟨⟨reading.states, .closed, rfl, rfl, reading.isTerminal_states⟩, ?_⟩
    intro outcome result
    obtain rfl := Except.ok.inj result
    exact List.getLast?_concat
  cancelled := fun cancelled => absurd cancelled (early signs List.prefix_rfl)
  closed := by
    refine fun _ => ⟨status.isSuccess || reading.collector.hasOutput, ?_, ?_⟩
    · rw [endClosed, heard.collector]
    · rw [Bool.or_eq_true, Collector.hasOutput_iff, heard.collector, Exit.isSuccess,
        decide_eq_true_eq]
  told := by
    refine ⟨signs, List.prefix_rfl, .inr rfl, fun earlier first _ => early earlier first, ?_⟩
    simp only [endClosed, Progress.events_finish, heard.latch, heard.events]
    rfl

/-- A process that is followed ends with the first cancellation among its signs, or else by itself.
The induction is on the moments that are left; those before have not cancelled the run. -/
theorem followed_follow (status : Exit) (world : σ) (moments : List (Moment σ))
    (heard : Heard observer request before signs reading progress)
    (uncancelled : before.isCancelled = false)
    (early : ∀ earlier, earlier <+: signs → ¬ IsCancelledBy observer request earlier) :
    Followed observer request before status (signs ++ moments.map (·.sign))
      (follow observer grace request (.ok status) world progress reading moments) := by
  induction moments generalizing signs progress reading with
  | nil =>
    rw [List.map_nil, List.append_nil, follow]
    exact followed_endClosed heard status early
  | cons moment rest ih =>
    have next := heard.notice moment.sign
    rw [follow_cons, List.map_cons, List.append_cons]
    dsimp only
    split
    next isCancelled =>
      rw [next.isCancelled, uncancelled] at isCancelled
      have cancelled := isCancelled.resolve_left Bool.false_ne_true
      apply followed_endCancelled next (List.prefix_append _ _) cancelled
      intro earlier first other
      exact early earlier ((List.prefix_concat_iff.mp first).resolve_left other)
    next goesOn =>
      rw [next.isCancelled, not_or] at goesOn
      apply ih next
      intro earlier first
      rcases List.prefix_concat_iff.mp first with rfl | first
      · exact goesOn.2
      · exact early earlier first

/-! ## The whole launch -/

/-- The run is cancelled by the time its preparation is over: beforehand, or in one of the worlds
that the preparation goes through. -/
def IsCancelledEarly (surroundings : Surroundings σ) (request : Request) (progress : Progress)
    (world : σ) : Prop :=
  progress.isCancelled = true ∨ ∃ count ≤ request.launch.preparation.length,
    surroundings.isCancelled
      ((request.launch.preparation.take count).foldl surroundings.prepare world) = true

theorem isCancelledEarly_cons {surroundings : Surroundings σ} {steps : List Invocation} {world : σ}
    (step : Invocation) :
    (∃ count ≤ (step :: steps).length, surroundings.isCancelled
        (((step :: steps).take count).foldl surroundings.prepare world) = true) ↔
      surroundings.isCancelled world = true ∨
        ∃ count ≤ steps.length, surroundings.isCancelled
          ((steps.take count).foldl surroundings.prepare (surroundings.prepare world step)) =
            true := by
  constructor
  · rintro ⟨count, bound, found⟩
    cases count with
    | zero => exact .inl found
    | succ count => exact .inr ⟨count, Nat.le_of_succ_le_succ bound, found⟩
  · rintro (found | ⟨count, bound, found⟩)
    · exact ⟨0, Nat.zero_le _, found⟩
    · exact ⟨count + 1, Nat.succ_le_succ bound, found⟩

/-- The preparation finds the run cancelled, or goes through all its steps; it tells nothing. -/
theorem prepare_spec (surroundings : Surroundings σ) (progress : Progress) (world : σ)
    (steps : List Invocation) :
    let prepared := prepare surroundings progress world steps
    let isCancelled := progress.isCancelled = true ∨ ∃ count ≤ steps.length,
      surroundings.isCancelled ((steps.take count).foldl surroundings.prepare world) = true
    prepared.1.latch = progress.latch ∧ prepared.1.events = progress.events ∧
      (prepared.1.isCancelled = true ↔ isCancelled) ∧
      (¬ isCancelled → prepared.2 = steps.foldl surroundings.prepare world) := by
  induction steps generalizing progress world with
  | nil => simp [prepare, Progress.heed]
  | cons step rest ih =>
    dsimp only
    rw [isCancelledEarly_cons, prepare, ← or_assoc]
    split
    next found =>
      have early : progress.isCancelled = true ∨ surroundings.isCancelled world = true := by
        simpa [Progress.heed] using found
      exact ⟨rfl, rfl, iff_of_true found (.inl early),
        fun uncancelled => absurd (.inl early) uncancelled⟩
    next goesOn =>
      obtain ⟨latch, events, isCancelled, ready⟩ :=
        ih (progress.heed (surroundings.isCancelled world)) (surroundings.prepare world step)
      simp only [Progress.heed, Bool.or_eq_true] at isCancelled ready
      exact ⟨latch, events, isCancelled, ready⟩

/-! ## Preparation and process -/

theorem supervise_of_cancelled (observer : Observer) {surroundings : Surroundings σ} {world : σ}
    (cancelled : IsCancelledEarly surroundings request progress world) :
    let ended := supervise surroundings observer request progress world
    IsSettled ended ∧ ended.hasStarted = false ∧ ended.result = .ok .cancelled ∧
      ended.progress.events =
        progress.events ++ (progress.latch.finish request.position false).2 := by
  obtain ⟨latch, events, isCancelled, _⟩ :=
    prepare_spec surroundings progress world request.launch.preparation
  dsimp only
  rw [supervise]
  dsimp only
  rw [if_pos (isCancelled.mpr cancelled)]
  refine ⟨⟨⟨[.idle], .cancelled, rfl, rfl, by decide⟩, ?_⟩, rfl, rfl, ?_⟩
  · intro outcome result
    obtain rfl := Except.ok.inj result
    rfl
  · rw [endCancelled, Progress.events_finish, latch, events]

theorem supervise_of_not_cancelled (observer : Observer) {surroundings : Surroundings σ}
    {world : σ}
    (uncancelled : ¬ IsCancelledEarly surroundings request progress world) :
    ∃ prepared : Progress, prepared.isCancelled = false ∧ prepared.latch = progress.latch ∧
      prepared.events = progress.events ∧
      supervise surroundings observer request progress world =
        match surroundings.start (request.launch.preparation.foldl surroundings.prepare world)
          request.launch.main with
        | .error cause =>
          ⟨.error (.spawn request.launch.main.program cause), [.idle, .errored], false,
            prepared.finish observer request.position false,
            request.launch.preparation.foldl surroundings.prepare world⟩
        | .ok process =>
          follow observer surroundings.grace request process.exit process.world prepared
            (Reading.new request.targetSegment) process.moments := by
  obtain ⟨latch, events, isCancelled, ready⟩ :=
    prepare_spec surroundings progress world request.launch.preparation
  have goesOn := mt isCancelled.mp uncancelled
  refine ⟨_, Bool.eq_false_iff.mpr goesOn, latch, events, ?_⟩
  rw [supervise]
  dsimp only
  rewrite [if_neg goesOn, ready uncancelled]
  rfl

end

/-- However the streams, the exit and a cancellation are interleaved, the launch takes one terminal
state and keeps it. A cancellation ahead of the process leaves the process out; one that comes
before the exit is noticed wins over it. Otherwise a launch whose process cannot be started has
failed, and one whose process has ended is closed with the output of all bytes received. -/
theorem supervise_outcome {σ : Type} (surroundings : Surroundings σ) (observer : Observer)
    (request : Request) (progress : Progress) (world : σ)
    (waited : ∀ process, surroundings.start
        (request.launch.preparation.foldl surroundings.prepare world) request.launch.main =
          .ok process → ∃ status, process.exit = .ok status) :
    let ended := supervise surroundings observer request progress world
    let ready := request.launch.preparation.foldl surroundings.prepare world
    IsSettled ended ∧
      (IsCancelledEarly surroundings request progress world →
        ended.hasStarted = false ∧ ended.result = .ok ⟨.cancelled, false, none, none⟩ ∧
          ended.progress.events =
            progress.events ++ (progress.latch.finish request.position false).2) ∧
      (¬ IsCancelledEarly surroundings request progress world →
        (∀ cause, surroundings.start ready request.launch.main = .error cause →
          ended.hasStarted = false ∧ ended.states.getLast? = some .errored ∧
            ended.result = .error (.spawn request.launch.main.program cause)) ∧
        ∀ process, surroundings.start ready request.launch.main = .ok process →
          let signs := process.moments.map (·.sign)
          ended.hasStarted = true ∧
            (IsCancelledBy observer request signs →
              ended.result = .ok ⟨.cancelled, false, none, none⟩) ∧
            (¬ IsCancelledBy observer request signs → ∃ status success,
              process.exit = .ok status ∧
              ended.result = .ok ⟨.closed, success,
                if request.suppressOutput then none else (collected request signs).final?,
                some status⟩ ∧
              (success = true ↔ status = .code 0 ∨
                ∃ segment ∈ (collected request signs).allSegments, segment.isBlank = false)) ∧
            ∃ seen, seen <+: signs ∧ (IsCancelledBy observer request seen ∨ seen = signs) ∧
              (∀ earlier, earlier <+: seen → earlier ≠ seen →
                ¬ IsCancelledBy observer request earlier) ∧
              let outputs := toldOutputs request seen
              ended.progress.events =
                progress.events ++ outputs.map (.output request.position) ++
                  (progress.latch.finish request.position (isSuccess ended.result)).2 ∧
              (request.suppressOutput = true → outputs = []) ∧ outputs.IsChain (· ≠ ·) ∧
              ∀ text ∈ outputs, ∃ start, start <+: received seen ∧
                (Collector.mk request.targetSegment start.flatten).visible? = some text) := by
  intro ended ready
  by_cases early : IsCancelledEarly surroundings request progress world
  · obtain ⟨settled, unstarted, result, events⟩ :=
      supervise_of_cancelled observer early
    exact ⟨settled, fun _ => ⟨unstarted, result, events⟩,
      fun uncancelled => absurd early uncancelled⟩
  · obtain ⟨prepared, isCancelled, latch, events, supervised⟩ :=
      supervise_of_not_cancelled observer early
    cases started : surroundings.start ready request.launch.main with
    | error cause =>
      have failed : ended = ⟨.error (.spawn request.launch.main.program cause), [.idle, .errored],
          false, prepared.finish observer request.position false, ready⟩ := by
        rw [started] at supervised
        exact supervised
      rw [failed]
      refine ⟨⟨⟨[.idle], .errored, rfl, rfl, by decide⟩, nofun⟩,
        fun cancelled => absurd cancelled early, fun _ => ⟨?_, nofun⟩⟩
      intro other same
      obtain rfl := Except.error.inj same
      exact ⟨rfl, rfl, rfl⟩
    | ok process =>
      obtain ⟨status, exited⟩ := waited process started
      have followed : Followed observer request prepared status (process.moments.map (·.sign))
          ended := by
        rw [started] at supervised
        dsimp only at supervised
        rw [exited] at supervised
        simp only [ended, supervised]
        apply followed_follow status process.world process.moments (heard_nil ..) isCancelled
        intro earlier first
        obtain rfl := List.prefix_nil.mp first
        simp [IsCancelledBy, toldOutputs_nil]
      refine ⟨followed.settled, fun cancelled => absurd cancelled early, fun _ => ⟨nofun, ?_⟩⟩
      intro other same
      obtain rfl := Except.ok.inj same
      refine ⟨followed.hasStarted, followed.cancelled, fun uncancelled => ?_, ?_⟩
      · obtain ⟨success, result, succeeds⟩ := followed.closed uncancelled
        exact ⟨status, success, exited, result, succeeds⟩
      · obtain ⟨seen, first, reached, before, told⟩ := followed.told
        rw [latch, events] at told
        refine ⟨seen, first, reached, before, told, ?_, isChain_toldOutputs, ?_⟩
        · exact fun suppressed => if_pos suppressed
        · exact fun text member => mem_toldOutputs member

/-- A process prints a greeting and exits with a failure; just before its exit is noticed, someone
cancels the run. -/
theorem supervise_outcome_late_cancellation :
    let moment (sign : Sign) : Moment Unit := ⟨sign, fun _ => ()⟩
    let process : Process Unit :=
      ⟨[.chunk .output (Utf8.encode (marker ++ "\n")), .chunk .error (Utf8.encode "hi\n"),
        .ended .output, .ended .error, .cancelled].map moment, .ok (.code 3), ()⟩
    let surroundings : Surroundings Unit :=
      ⟨fun _ => false, fun _ _ => (), fun _ _ => .ok process, 0⟩
    let request : Request := ⟨0, ⟨[], ⟨"/bin/sh", [], "/w"⟩⟩, 1, false⟩
    let ended := supervise surroundings (fun _ => false) request (.new false) ()
    ¬ IsCancelledEarly surroundings request (.new false) () ∧
      IsCancelledBy (fun _ => false) request (process.moments.map (·.sign)) ∧
      ended.result = .ok ⟨.cancelled, false, none, none⟩ ∧ IsSettled ended ∧
      ∃ seen, seen <+: process.moments.map (·.sign) ∧ ended.progress.events =
        (toldOutputs request seen).map (.output 0) ++ [.finished 0 false] := by
  intro moment process surroundings request ended
  have uncancelled : ¬ IsCancelledEarly surroundings request (.new false) () := by
    simp [IsCancelledEarly, Progress.new, surroundings]
  have cancelled : IsCancelledBy (fun _ => false) request (process.moments.map (·.sign)) :=
    .inl (by decide)
  obtain ⟨settled, _, outcome⟩ := supervise_outcome surroundings (fun _ => false) request
    (.new false) () fun other same => ⟨.code 3, by obtain rfl := Except.ok.inj same; rfl⟩
  obtain ⟨_, ends, _, seen, first, _, _, told, _⟩ := (outcome uncancelled).2 process rfl
  refine ⟨uncancelled, cancelled, ends cancelled, settled, seen, first, ?_⟩
  rw [told, ends cancelled]
  rfl

end Notebook.Run
