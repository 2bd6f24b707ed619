import Notebook.Proofs.Program.Influence
import Notebook.Session

/-! # Changes that do not concern a run

Most of a document can be changed without any effect on what is run for one of its cells: the
contents of cells that are left out, cells before a `restart`, cells of other languages and prose,
outputs, and everything behind the cell.
-/

namespace Notebook

/-- The cell with all that histories do not read taken out. -/
def Cell.bare (cell : Cell) : Cell :=
  { Cell.prose cell.content with
    kind := cell.kind, language := cell.language, directive := cell.directive }

theorem Cell.bare_eq_iff {cell other : Cell} : cell.bare = other.bare ↔
    cell.kind = other.kind ∧ cell.language = other.language ∧ cell.directive = other.directive ∧
      cell.content = other.content := by
  simp [bare, prose]

/-! ## What is run -/

namespace Session

open History Program

/-- The directive leaves a cell to be run by a program. -/
def isRun : Option Directive → Bool
  | some .skip | some (.create _) => false
  | _ => true

theorem isRun_eq_false_iff {directive : Option Directive} :
    isRun directive = false ↔
      directive = some .skip ∨ ∃ file, directive = some (.create file) := by
  rcases directive with _ | directive
  · simp [isRun]
  · cases directive <;> simp [isRun]

/-- What is run for the cell at a position: there is no program for prose, for a cell that is
skipped or written to a file, and for a language without a family. -/
def program? (context : ProgramContext) (cells : List Cell) (position : Nat) :
    Option (Family × Program) :=
  cells[position]?.bind fun cell =>
    if cell.isCode ∧ isRun cell.directive then (programFor context cells position cell).toOption
    else none

section

open Run

variable {σ : Type} {environment : Environment σ} {observer : Observer} {documentDir : Option Path}
  {session : Session} {cells : List Cell} {position : Nat} {isCancelled : Bool} {world : σ}

theorem runCode_of_isRun {cell : Cell} (runs : isRun cell.directive = true) (run : CellRun σ) :
    runCode environment observer documentDir position cell run =
      match programFor ⟨run.session.workspace, documentDir⟩ run.cells position cell with
      | .error failure => run.ended (.error failure)
      | .ok (family, program) =>
        runProgram environment observer ⟨run.session.workspace, documentDir⟩ position family program
          run := by
  rw [runCode]
  split
  next skips =>
    rw [skips] at runs
    contradiction
  next file creates =>
    rw [creates] at runs
    contradiction
  next => rfl

/-- Where there is a program, running the cell is running it. -/
theorem attempt_of_program?_some {family : Family} {program : Program}
    (found : program? ⟨session.workspace, documentDir⟩ cells position = some (family, program)) :
    attempt environment observer documentDir session cells position isCancelled world =
      runProgram environment observer ⟨session.workspace, documentDir⟩ position family program
        ⟨.error (.cellNotFound position), session, cells, false,
          (Progress.new isCancelled).tell observer (.started position), world⟩ := by
  obtain ⟨cell, here, built⟩ := Option.bind_eq_some_iff.mp found
  obtain ⟨⟨isCode, runs⟩, built⟩ := Option.ite_none_right_eq_some.mp built
  rw [attempt, here]
  simp only [isCode, if_true]
  rw [runCode_of_isRun runs]
  cases result : programFor ⟨session.workspace, documentDir⟩ cells position cell with
  | error failure =>
    rw [result] at built
    contradiction
  | ok pair =>
    rw [result] at built
    obtain rfl : pair = (family, program) := Option.some_inj.mp built
    rfl

end

/-! ## Changes without effect -/

theorem programFor_of_family {context : ProgramContext} {cells : List Cell} {position : Nat}
    {cell : Cell} {family : Family} (found : cells[position]? = some cell)
    (isCode : cell.isCode = true)
    (known : Family.ofLanguage? (cell.language.getD []) = some family) :
    programFor context cells position cell =
      .ok (family, build family context (historyOf cell.language (cells.take (position + 1)))) := by
  simp only [programFor, known, collect_eq found isCode]

/-- Programs are equal if the cells being run are, as far as they are read, and their histories are
alike. -/
theorem program?_congr {context : ProgramContext} {cells cells' : List Cell}
    {position position' : Nat}
    (current : cells[position]?.map Cell.bare = cells'[position']?.map Cell.bare)
    (alike : ∀ cell, cells[position]? = some cell → cell.isCode = true →
      History.Alike (historyOf cell.language (cells.take (position + 1)))
        (historyOf cell.language (cells'.take (position' + 1)))) :
    program? context cells position = program? context cells' position' := by
  cases here : cells[position]? with
  | none =>
    rw [here, Option.map_none, eq_comm, Option.map_eq_none_iff] at current
    rw [program?, program?, here, current]
    rfl
  | some cell =>
    rw [here, Option.map_some, eq_comm, Option.map_eq_some_iff] at current
    obtain ⟨other, there, same⟩ := current
    obtain ⟨kind, language, directive, content⟩ := Cell.bare_eq_iff.mp same
    have isCode : other.isCode = cell.isCode := by rw [Cell.isCode, Cell.isCode, kind]
    rw [program?, program?, here, there, Option.bind_some, Option.bind_some, isCode, directive]
    by_cases runs : cell.isCode ∧ isRun cell.directive
    · have otherIsCode := isCode.trans runs.1
      rw [if_pos runs, if_pos runs]
      cases known : Family.ofLanguage? (cell.language.getD []) with
      | none => simp only [programFor, language, known]
      | some family =>
        have otherKnown : Family.ofLanguage? (other.language.getD []) = some family := by
          rw [language, known]
        rw [programFor_of_family here runs.1 known,
          programFor_of_family there otherIsCode otherKnown, language]
        have built : build family context (historyOf cell.language (cells.take (position + 1))) =
            build family context (historyOf cell.language (cells'.take (position' + 1))) := by
          cases family with
          | shell kind =>
            obtain ⟨last, clear⟩ := current?_historyOf here runs.1
            obtain ⟨otherLast, otherClear⟩ := current?_historyOf there otherIsCode
            rw [language] at otherLast otherClear
            apply build_shell_congr
            · rw [last, otherLast, content]
            · rw [clear, otherClear, directive]
          | _ => exact build_of_alike rfl context (alike cell here runs.1)
        rw [built]
    · rw [if_neg runs, if_neg runs]

/-- A change to a document, and with it to the position of the cell being run, that does not
concern what is run. -/
inductive Unseen : List Cell → Nat → List Cell → Nat → Prop where
  /-- Another content for a cell that is skipped or written to a file, or for a `once` cell other
  than the one being run. -/
  | leftOut (earlier later : List Cell) (cell : Cell) (content : Text) (position : Nat)
      (out : leavesOut (decide (earlier.length = position)) cell.directive) :
      Unseen (earlier ++ cell :: later) position
        (earlier ++ { cell with content := content } :: later) position
  /-- Another content and directive for a cell before a `restart` of its language. -/
  | beforeRestart (earlier between later : List Cell) (cell restart : Cell) (content : Text)
      (directive : Option Directive) (position : Nat) (isCode : restart.isCode = true)
      (language : restart.language = cell.language) (restarts : restart.directive = some .restart)
      (reached : earlier.length + (between.length + 1) ≤ position) :
      Unseen (earlier ++ cell :: (between ++ restart :: later)) position
        (earlier ++ { cell with content := content, directive := directive } ::
          (between ++ restart :: later)) position
  /-- Other prose and other cells of other languages before the cell being run, in any number. -/
  | foreign (earlier old new later : List Cell) (k : Nat) (current : Cell)
      (here : later[k]? = some current)
      (others : ∀ cell ∈ old ++ new, cell.isCode = true → cell.language ≠ current.language) :
      Unseen (earlier ++ (old ++ later)) (earlier.length + (old.length + k))
        (earlier ++ (new ++ later)) (earlier.length + (new.length + k))
  /-- Other outputs, blank lines, indentation and info texts. -/
  | written (cells cells' : List Cell) (position : Nat)
      (bare : cells.map Cell.bare = cells'.map Cell.bare) : Unseen cells position cells' position
  /-- Other cells behind the one being run. -/
  | behind (cells cells' : List Cell) (position : Nat)
      (start : cells.take (position + 1) = cells'.take (position + 1)) :
      Unseen cells position cells' position
  | trans {cells cells' cells'' : List Cell} {position position' position'' : Nat}
      (first : Unseen cells position cells' position')
      (second : Unseen cells' position' cells'' position'') :
      Unseen cells position cells'' position''

section

variable {context : ProgramContext} {earlier later : List Cell} {cell edited : Cell}
  {position : Nat}

theorem getElem?_edited (elsewhere : earlier.length ≠ position) :
    (earlier ++ cell :: later)[position]? = (earlier ++ edited :: later)[position]? := by
  have replaced : earlier ++ edited :: later =
      (earlier ++ cell :: later).set earlier.length edited := by
    simp
  rw [replaced, List.getElem?_set_ne elsewhere]

theorem take_through (reached : earlier.length ≤ position) :
    (earlier ++ cell :: later).take (position + 1) =
      earlier ++ cell :: later.take (position - earlier.length) := by
  rw [List.take_append, List.take_of_length_le (by omega),
    show position + 1 - earlier.length = position - earlier.length + 1 by omega,
    List.take_succ_cons]

/-- The cell being run is among those of its language behind any earlier cell. -/
theorem own_ne_nil {current : Cell} (reached : earlier.length < position)
    (here : (earlier ++ cell :: later)[position]? = some current) (isCode : current.isCode = true) :
    own current.language (later.take (position - earlier.length)) ≠ [] := by
  obtain ⟨k, rfl⟩ := Nat.exists_eq_add_of_lt reached
  rw [Nat.add_assoc] at here ⊢
  rw [List.getElem?_append_right (Nat.le_add_right ..), Nat.add_sub_cancel_left,
    List.getElem?_cons_succ] at here
  rw [Nat.add_sub_cancel_left]
  apply List.ne_nil_of_mem (a := current)
  rw [mem_own]
  refine ⟨?_, isCode, rfl⟩
  apply List.mem_of_getElem? (i := k)
  rw [List.getElem?_take_of_lt (Nat.lt_succ_self k), here]

theorem program?_leftOut {content : Text}
    (out : leavesOut (decide (earlier.length = position)) cell.directive) :
    program? context (earlier ++ cell :: later) position =
      program? context (earlier ++ { cell with content := content } :: later) position := by
  by_cases isCurrent : earlier.length = position
  · have stays : isRun cell.directive = false := by
      rw [isRun_eq_false_iff]
      rcases out with skips | creates | ⟨_, other⟩
      · exact .inl skips
      · exact .inr creates
      · rw [decide_eq_true isCurrent] at other
        contradiction
    subst isCurrent
    simp [program?, stays]
  · apply program?_congr
    · rw [getElem?_edited isCurrent]
    · intro current here isCode
      rcases Nat.lt_or_gt_of_ne isCurrent with reached | ahead
      · rw [take_through (Nat.le_of_lt reached), take_through (Nat.le_of_lt reached)]
        refine alike_of_leavesOut (by rfl) (by rfl) (by rfl) ?_
        rw [decide_eq_false (own_ne_nil reached here isCode)]
        rwa [decide_eq_false isCurrent] at out
      · rw [List.take_append_of_le_length ahead, List.take_append_of_le_length ahead]
        exact alike_of_own rfl

theorem program?_beforeRestart {between : List Cell} {restart : Cell} {content : Text}
    {directive : Option Directive} (isCode : restart.isCode = true)
    (language : restart.language = cell.language) (restarts : restart.directive = some .restart)
    (reached : earlier.length + (between.length + 1) ≤ position) :
    program? context (earlier ++ cell :: (between ++ restart :: later)) position =
      program? context (earlier ++ { cell with content := content, directive := directive } ::
        (between ++ restart :: later)) position := by
  apply program?_congr
  · rw [getElem?_edited (by omega)]
  · intro current _ _
    rw [take_through (by omega), take_through (by omega)]
    refine alike_of_restart (by rfl) (by rfl) ?_
    have member : restart ∈ (between ++ restart :: later).take (position - earlier.length) := by
      rw [show position - earlier.length = position - earlier.length - 1 + 1 by omega,
        take_through (by omega)]
      exact List.mem_append_right _ (List.mem_cons_self ..)
    exact List.mem_map.mpr ⟨restart, mem_own.mpr ⟨member, isCode, language⟩, restarts⟩

theorem program?_foreign {old new : List Cell} {k : Nat} {current : Cell}
    (here : later[k]? = some current)
    (others : ∀ cell ∈ old ++ new, cell.isCode = true → cell.language ≠ current.language) :
    program? context (earlier ++ (old ++ later)) (earlier.length + (old.length + k)) =
      program? context (earlier ++ (new ++ later)) (earlier.length + (new.length + k)) := by
  have found : ∀ group : List Cell,
      (earlier ++ (group ++ later))[earlier.length + (group.length + k)]? = some current := by
    intro group
    rw [List.getElem?_append_right (by omega), List.getElem?_append_right (by omega),
      Nat.add_sub_cancel_left, Nat.add_sub_cancel_left, here]
  have kept : ∀ group : List Cell, (∀ cell ∈ group, cell ∈ old ++ new) →
      own current.language ((earlier ++ (group ++ later)).take
        (earlier.length + (group.length + k) + 1)) =
          own current.language earlier ++ own current.language (later.take (k + 1)) := by
    intro group among
    have none : own current.language group = [] := by
      rw [own, List.filter_eq_nil_iff]
      intro cell member
      simpa using others cell (among cell member)
    rw [Nat.add_assoc, List.take_length_add_append, Nat.add_assoc, List.take_length_add_append,
      own_append, own_append, none, List.nil_append]
  apply program?_congr
  · rw [found, found]
  · intro cell there _
    obtain rfl : current = cell := Option.some_inj.mp ((found old).symm.trans there)
    apply alike_of_own
    rw [kept old fun cell member => List.mem_append_left _ member,
      kept new fun cell member => List.mem_append_right _ member]

end

theorem program?_written {context : ProgramContext} {cells cells' : List Cell} {position : Nat}
    (bare : cells.map Cell.bare = cells'.map Cell.bare) :
    program? context cells position = program? context cells' position := by
  have read : ∀ (language : Option Text) (cells : List Cell),
      (own language cells).map (fun cell => (cell.content, cell.directive)) =
        (own language (cells.map Cell.bare)).map fun cell => (cell.content, cell.directive) := by
    intro language cells
    rw [own, own, List.filter_map, List.map_map]
    rfl
  apply program?_congr
  · rw [← List.getElem?_map, bare, List.getElem?_map]
  · intro cell _ _
    apply alike_of_own
    rw [read, List.map_take, bare, ← List.map_take, ← read]

theorem program?_behind {context : ProgramContext} {cells cells' : List Cell} {position : Nat}
    (start : cells.take (position + 1) = cells'.take (position + 1)) :
    program? context cells position = program? context cells' position := by
  apply program?_congr
  · rw [← List.getElem?_take_of_lt (Nat.lt_succ_self position), start,
      List.getElem?_take_of_lt (Nat.lt_succ_self position)]
  · intro cell _ _
    rw [start]
    exact alike_of_own rfl

theorem program?_unseen {context : ProgramContext} {cells cells' : List Cell}
    {position position' : Nat} (unseen : Unseen cells position cells' position') :
    program? context cells position = program? context cells' position' := by
  induction unseen with
  | leftOut earlier later cell content position out => exact program?_leftOut out
  | beforeRestart earlier between later cell restart content directive position isCode language
      restarts reached =>
    exact program?_beforeRestart isCode language restarts reached
  | foreign earlier old new later k current here others => exact program?_foreign here others
  | written cells cells' position bare => exact program?_written bare
  | behind cells cells' position start => exact program?_behind start
  | trans first second firstSame secondSame => exact firstSame.trans secondSame

/-- Programs of code cells are equal in every field if the histories are alike, whatever else the
documents hold; for a shell it is enough that the two cells agree in content and on `clear`. So
what is run for a cell stays the same under every change that does not concern it. -/
theorem program_noninterference (context : ProgramContext) :
    (∀ (cells cells' : List Cell) (position position' : Nat) (cell cell' : Cell),
      cells[position]? = some cell → cell.isCode = true →
      cells'[position']? = some cell' → cell'.isCode = true →
      ∃ history history', collect cells position = .ok history ∧
        collect cells' position' = .ok history' ∧
        (∀ family : Family, family.isShell = false → Alike history history' →
          build family context history = build family context history') ∧
        ∀ kind : ShellKind, cell.content = cell'.content →
          (cell.directive = some .clear ↔ cell'.directive = some .clear) →
          build (.shell kind) context history = build (.shell kind) context history') ∧
    ∀ (cells cells' : List Cell) (position position' : Nat),
      Unseen cells position cells' position' →
        program? context cells position = program? context cells' position' := by
  refine ⟨?_, fun _ _ _ _ unseen => program?_unseen unseen⟩
  intro cells cells' position position' cell cell' here isCode here' isCode'
  refine ⟨_, _, collect_eq here isCode, collect_eq here' isCode', ?_, ?_⟩
  · intro family keeps alike
    exact build_of_alike keeps context alike
  · intro kind content clear
    obtain ⟨last, suppresses⟩ := current?_historyOf here isCode
    obtain ⟨last', suppresses'⟩ := current?_historyOf here' isCode'
    apply build_shell_congr
    · rw [last, last', content]
    · rw [suppresses, suppresses', decide_eq_decide]
      exact clear

/-- A skipped cell with another content, in front of a cell that is run; and a shell cell with and
without a cell before it. -/
theorem program_noninterference_skipped :
    let context : ProgramContext := ⟨"/w", none⟩
    let skipped (content : Text) : Cell := { Cell.code "python" content with directive := some .skip }
    let before : List Cell := [skipped "x", Cell.code "python" "print(1)"]
    let after : List Cell := [skipped "y", Cell.code "python" "print(1)"]
    let script : Cell := Cell.code "bash" "ls"
    (∃ history history', collect before 1 = .ok history ∧ collect after 1 = .ok history' ∧
      build .python context history = build .python context history') ∧
    (∃ history history', collect [script, script] 1 = .ok history ∧
      collect [script] 0 = .ok history' ∧
      build (.shell .bash) context history = build (.shell .bash) context history') ∧
    program? context before 1 = program? context after 1 ∧ (program? context before 1).isSome := by
  intro context skipped before after script
  obtain ⟨laws, same⟩ := program_noninterference context
  refine ⟨?_, ?_, ?_, rfl⟩
  · obtain ⟨history, history', first, second, equal, _⟩ :=
      laws before after 1 1 _ _ rfl rfl rfl rfl
    refine ⟨history, history', first, second, equal .python rfl ?_⟩
    obtain rfl := Except.ok.inj first
    obtain rfl := Except.ok.inj second
    change Alike (historyOf _ ([] ++ skipped "x" :: _)) (historyOf _ ([] ++ skipped "y" :: _))
    exact alike_of_leavesOut (by rfl) (by rfl) (by rfl) (.inl rfl)
  · obtain ⟨history, history', first, second, _, equal⟩ :=
      laws [script, script] [script] 1 0 script script rfl rfl rfl rfl
    exact ⟨history, history', first, second, equal .bash rfl Iff.rfl⟩
  · exact same before after 1 1 (.leftOut [] _ (skipped "x") "y" 1 (.inl rfl))

end Session

end Notebook
