import Mathlib.Data.List.Basic
import Notebook.Proofs.History.Plan

/-! # Collected histories

A history that is collected from a document holds the cells of one language, in order, and numbers
them from one. Two such histories are alike if they have the same roles, the same contents where an
entry contributes, and agree on `clear`; a change to the content of an entry that is left out, or
to an entry before a `restart`, gives a history that is alike.
-/

namespace Notebook.History

/-! ## Collecting -/

/-- The code cells of a language. -/
def own (language : Option Text) (cells : List Cell) : List Cell :=
  cells.filter fun cell => cell.isCode ∧ cell.language = language

theorem own_append (language : Option Text) (earlier later : List Cell) :
    own language (earlier ++ later) = own language earlier ++ own language later :=
  List.filter_append ..

theorem mem_own {language : Option Text} {cells : List Cell} {cell : Cell} :
    cell ∈ own language cells ↔ cell ∈ cells ∧ cell.isCode = true ∧ cell.language = language := by
  simp [own]

theorem map_snd_sourcesOf (language : Option Text) (cells : List Cell) :
    (sourcesOf language cells).map (·.2) =
      (own language cells).map fun cell => (cell.content, cell.directive) := by
  have shifted : ∀ start : Nat,
      ((cells.zipIdx start).filterMap fun entry =>
        if entry.1.isCode ∧ entry.1.language = language then
          some (entry.2, entry.1.content, entry.1.directive) else none).map (·.2) =
        (own language cells).map fun cell => (cell.content, cell.directive) := by
    induction cells with
    | nil => exact fun _ => rfl
    | cons cell rest ih =>
      intro start
      rw [own] at ih ⊢
      by_cases isOwn : cell.isCode ∧ cell.language = language
      · simp [isOwn, ih]
      · simp [isOwn, ih]
  exact shifted 0

/-- The history of the cells of a language. -/
def historyOf (language : Option Text) (cells : List Cell) : History :=
  number (sourcesOf language cells)

/-- Contents and directives are read off the entries as off the cells. -/
theorem map_historyOf {α : Type} (read : Text × Option Directive → α) (language : Option Text)
    (cells : List Cell) :
    (historyOf language cells).entries.map (fun entry => read (entry.content, entry.directive)) =
      (own language cells).map fun cell => read (cell.content, cell.directive) := by
  have firsts := congrArg (List.map fun source => read source.2)
    (List.zipIdx_map_fst 0 (sourcesOf language cells))
  have sources := congrArg (List.map read) (map_snd_sourcesOf language cells)
  rw [List.map_map] at firsts
  rw [List.map_map, List.map_map] at sources
  rw [historyOf, number, List.map_map]
  exact firsts.trans sources

theorem contents_historyOf (language : Option Text) (cells : List Cell) :
    (historyOf language cells).contents = (own language cells).map (·.content) :=
  map_historyOf (·.1) language cells

theorem directives_historyOf (language : Option Text) (cells : List Cell) :
    (historyOf language cells).directives = (own language cells).map (·.directive) :=
  map_historyOf (·.2) language cells

/-- Entry numbers start at one. -/
theorem index_historyOf {language : Option Text} {cells : List Cell} {i : Nat}
    {entry : HistoryEntry} (found : (historyOf language cells).entries[i]? = some entry) :
    entry.index = i + 1 := by
  rw [historyOf, number, List.getElem?_map, List.getElem?_zipIdx, Option.map_map] at found
  obtain ⟨source, _, rfl⟩ := Option.map_eq_some_iff.mp found
  exact congrArg (· + 1) (Nat.zero_add i)

theorem index_of_plan {language : Option Text} {cells : List Cell} {i : Nat}
    {planned : PlannedEntry} (found : (historyOf language cells).plan[i]? = some planned) :
    planned.entry.index = i + 1 := by
  apply index_historyOf
  rw [← map_entry_plan, List.getElem?_map, found]
  rfl

theorem collect_eq {cells : List Cell} {position : Nat} {cell : Cell}
    (found : cells[position]? = some cell) (isCode : cell.isCode = true) :
    collect cells position = .ok (historyOf cell.language (cells.take (position + 1))) := by
  rw [collect, found]
  exact if_pos isCode

theorem own_take_succ {cells : List Cell} {position : Nat} {cell : Cell}
    (found : cells[position]? = some cell) (isCode : cell.isCode = true) :
    own cell.language (cells.take (position + 1)) =
      own cell.language (cells.take position) ++ [cell] := by
  rw [List.take_add_one, found, own_append]
  simp [own, isCode]

/-- The history of a cell ends with it. -/
theorem current?_historyOf {cells : List Cell} {position : Nat} {cell : Cell}
    (found : cells[position]? = some cell) (isCode : cell.isCode = true) :
    ((historyOf cell.language (cells.take (position + 1))).current?.map (·.content) =
        some cell.content) ∧
      (historyOf cell.language (cells.take (position + 1))).suppressesOutput =
        decide (cell.directive = some .clear) := by
  have last := own_take_succ found isCode
  constructor
  · rw [current?, ← List.getLast?_map]
    change (contents _).getLast? = _
    rw [contents_historyOf, last, List.map_append, List.map_singleton, List.getLast?_concat]
  · rw [suppressesOutput_eq, directives_historyOf, last, List.map_append, List.map_singleton,
      List.getLast?_concat]
    simp

/-! ## Histories that are alike -/

/-- Two histories agree on what a program may depend on. -/
structure Alike (history other : History) : Prop where
  length : history.length = other.length
  roles : history.plan.map (·.role) = other.plan.map (·.role)
  contents : ∀ (i : Nat) (planned counterpart : PlannedEntry), history.plan[i]? = some planned →
    other.plan[i]? = some counterpart → planned.role.contributes = true →
    planned.entry.content = counterpart.entry.content
  clear : history.suppressesOutput = other.suppressesOutput

theorem contents_eq (history : History) :
    history.contents = history.plan.map (·.entry.content) := by
  rw [contents, ← map_entry_plan, List.map_map]
  rfl

section

variable {history other : History}

theorem alike_of_eq (contents : history.contents = other.contents)
    (directives : history.directives = other.directives) : Alike history other where
  length := by
    have sizes := congrArg List.length directives
    rwa [History.directives, History.directives, List.length_map, List.length_map] at sizes
  roles := by rw [map_role_plan, map_role_plan, directives]
  contents := by
    intro i planned counterpart here there _
    have same := congrArg (·[i]?) contents
    simp only [contents_eq, List.getElem?_map, here, there, Option.map_some, Option.some_inj] at same
    exact same
  clear := by rw [suppressesOutput_eq, suppressesOutput_eq, directives]

/-- The content of one entry that does not contribute makes no difference. -/
theorem alike_of_edit {before after : List Text} {old new : Text}
    (contents : history.contents = before ++ old :: after)
    (edited : other.contents = before ++ new :: after)
    (roles : rolesOf history.directives = rolesOf other.directives)
    (out : ∀ role, (rolesOf history.directives)[before.length]? = some role →
      role.contributes = false)
    (clear : history.suppressesOutput = other.suppressesOutput) : Alike history other where
  length := by
    have sizes : history.contents.length = other.contents.length := by
      rw [contents, edited, List.length_append, List.length_append, List.length_cons,
        List.length_cons]
    rwa [History.contents, History.contents, List.length_map, List.length_map] at sizes
  roles := by rw [map_role_plan, map_role_plan, roles]
  contents := by
    intro i planned counterpart here there contributes
    have elsewhere : before.length ≠ i := by
      rintro rfl
      have role : (rolesOf history.directives)[before.length]? = some planned.role := by
        rw [← map_role_plan, List.getElem?_map, here, Option.map_some]
      rw [out _ role] at contributes
      contradiction
    have replaced : other.contents = history.contents.set before.length new := by
      simp [contents, edited]
    have same : other.contents[i]? = history.contents[i]? := by
      rw [replaced, List.getElem?_set_ne elsewhere]
    simp only [contents_eq, List.getElem?_map, here, there, Option.map_some, Option.some_inj] at same
    exact same.symm
  clear := clear

end

/-! ## Edited documents -/

section

variable {language : Option Text} {earlier later : List Cell} {cell edited : Cell}

theorem own_cons (language : Option Text) (cell : Cell) (later : List Cell) :
    own language (cell :: later) =
      if cell.isCode ∧ cell.language = language then cell :: own language later
      else own language later := by
  rw [own, own, List.filter_cons]
  simp only [decide_eq_true_eq]

theorem alike_of_own {cells others : List Cell}
    (same : (own language cells).map (fun cell => (cell.content, cell.directive)) =
      (own language others).map fun cell => (cell.content, cell.directive)) :
    Alike (historyOf language cells) (historyOf language others) := by
  have contents := congrArg (List.map (·.1)) same
  have directives := congrArg (List.map (·.2)) same
  rw [List.map_map, List.map_map] at contents directives
  apply alike_of_eq
  · rw [contents_historyOf, contents_historyOf]
    exact contents
  · rw [directives_historyOf, directives_historyOf]
    exact directives

theorem contents_split (isOwn : cell.isCode = true ∧ cell.language = language) :
    (historyOf language (earlier ++ cell :: later)).contents =
      (own language earlier).map (·.content) ++
        cell.content :: (own language later).map (·.content) := by
  rw [contents_historyOf, own_append, own_cons, if_pos isOwn, List.map_append, List.map_cons]

theorem directives_split (isOwn : cell.isCode = true ∧ cell.language = language) :
    (historyOf language (earlier ++ cell :: later)).directives =
      (own language earlier).map (·.directive) ++
        cell.directive :: (own language later).map (·.directive) := by
  rw [directives_historyOf, own_append, own_cons, if_pos isOwn, List.map_append, List.map_cons]

/-- A cell of another language makes no difference. -/
theorem alike_of_foreign (kind : edited.isCode = cell.isCode)
    (tag : edited.language = cell.language)
    (foreign : ¬ (cell.isCode = true ∧ cell.language = language)) :
    Alike (historyOf language (earlier ++ cell :: later))
      (historyOf language (earlier ++ edited :: later)) := by
  apply alike_of_own
  rw [own_append, own_append, own_cons, own_cons, kind, tag, if_neg foreign, if_neg foreign]

/-- The content of a cell that is left out makes no difference. -/
theorem alike_of_leavesOut (kind : edited.isCode = cell.isCode)
    (tag : edited.language = cell.language) (directive : edited.directive = cell.directive)
    (out : leavesOut (decide (own language later = [])) cell.directive) :
    Alike (historyOf language (earlier ++ cell :: later))
      (historyOf language (earlier ++ edited :: later)) := by
  by_cases isOwn : cell.isCode = true ∧ cell.language = language
  · have editedIsOwn : edited.isCode = true ∧ edited.language = language := by rwa [kind, tag]
    have directives : (historyOf language (earlier ++ cell :: later)).directives =
        (historyOf language (earlier ++ edited :: later)).directives := by
      rw [directives_split isOwn, directives_split editedIsOwn, directive]
    refine alike_of_edit (contents_split isOwn) (contents_split editedIsOwn)
      (congrArg rolesOf directives) ?_ ?_
    · intro role there
      rw [directives_split isOwn, List.length_map, ← List.length_map (·.directive),
        getElem?_rolesOf, List.getElem?_append_right (Nat.le_refl _), Nat.sub_self,
        List.getElem?_cons_zero, Option.map_some, Option.some_inj] at there
      have last : ((own language earlier).map (·.directive)).length + 1 =
          ((own language earlier).map (·.directive) ++
            cell.directive :: (own language later).map (·.directive)).length ↔
          own language later = [] := by
        rw [List.length_append, List.length_cons, List.length_map, List.length_map,
          ← List.length_eq_zero_iff]
        omega
      rw [← there, decide_eq_decide.mpr last]
      exact roleOf_leavesOut out _
    · rw [suppressesOutput_eq, suppressesOutput_eq, directives]
  · exact alike_of_foreign kind tag isOwn

/-- A cell before a `restart` of its language makes no difference. -/
theorem alike_of_restart (kind : edited.isCode = cell.isCode)
    (tag : edited.language = cell.language)
    (restarted : some .restart ∈ (own cell.language later).map (·.directive)) :
    Alike (historyOf language (earlier ++ cell :: later))
      (historyOf language (earlier ++ edited :: later)) := by
  by_cases isOwn : cell.isCode = true ∧ cell.language = language
  · have editedIsOwn : edited.isCode = true ∧ edited.language = language := by rwa [kind, tag]
    rw [isOwn.2] at restarted
    have roles : ∀ directive : Option Directive,
        rolesOf ((own language earlier).map (·.directive) ++
            directive :: (own language later).map (·.directive)) =
          List.replicate ((own language earlier).length + 1) .dropped ++
            rolesOf ((own language later).map (·.directive)) := by
      intro directive
      rw [List.append_cons, rolesOf_append _ restarted, List.length_append, List.length_map,
        List.length_singleton]
    refine alike_of_edit (contents_split isOwn) (contents_split editedIsOwn) ?_ ?_ ?_
    · rw [directives_split isOwn, directives_split editedIsOwn, roles, roles]
    · intro role there
      rw [directives_split isOwn, roles, List.length_map,
        List.getElem?_append_left (by rw [List.length_replicate]; exact Nat.lt_succ_self _)] at there
      rw [List.eq_of_mem_replicate (List.mem_of_getElem? there)]
      rfl
    · have present : (own language later).map (·.directive) ≠ [] := List.ne_nil_of_mem restarted
      rw [suppressesOutput_eq, suppressesOutput_eq, directives_split isOwn,
        directives_split editedIsOwn, List.append_cons, List.append_cons _ edited.directive,
        List.getLast?_append_of_ne_nil _ present, List.getLast?_append_of_ne_nil _ present]
  · exact alike_of_foreign kind tag isOwn

end

end Notebook.History
