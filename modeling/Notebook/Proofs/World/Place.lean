import Mathlib.Algebra.Order.BigOperators.Group.List
import Mathlib.Algebra.Order.Group.Nat
import Notebook.Path

/-! # Where joined paths lead

A relative path that is joined to another leads to where its own names lead from the place of the
other. It stays below that place, whatever the place is, exactly when no beginning of it takes more
steps up than down; an absolute path leads to the same place from everywhere.
-/

namespace Notebook.Path

variable {root path : Path} {place current down names : List Text}

/-! ## Names -/

theorem names_append (before after : Text) :
    Path.names ⟨before ++ '/' :: after⟩ = Path.names ⟨before⟩ ++ Path.names ⟨after⟩ := by
  rw [Path.names, List.splitOn_append_cons_self, List.filter_append]
  rfl

theorem names_nil : Path.names ⟨[]⟩ = [] := rfl

/-- The names of a relative path come behind those of the path that it is joined to. -/
theorem names_join (relative : path.isAbsolute = false) :
    (root.join path).names = root.names ++ path.names := by
  obtain ⟨text⟩ := root
  rw [join, if_neg (Bool.eq_false_iff.mp relative)]
  dsimp only
  split_ifs with short
  · rcases short with rfl | slash
    · rfl
    · obtain ⟨before, rfl⟩ := List.getLast?_eq_some_iff.mp slash
      rw [List.append_assoc, List.singleton_append, names_append, names_append, names_nil,
        List.append_nil]
  · exact names_append text path.text

theorem isAbsolute_join (relative : path.isAbsolute = false) :
    (root.join path).isAbsolute = root.isAbsolute := by
  obtain ⟨text⟩ := root
  rw [join, if_neg (Bool.eq_false_iff.mp relative)]
  dsimp only
  cases text with
  | nil => simpa [isAbsolute] using relative
  | cons c rest => split_ifs <;> rfl

/-! ## Places -/

/-- A relative path starts from the place of the path that it is joined to. -/
theorem resolved_join (relative : path.isAbsolute = false) (base : List Text) :
    (root.join path).resolved base = path.names.foldl step (root.resolved base) := by
  rw [resolved, names_join relative, isAbsolute_join relative, List.foldl_append, resolved]

/-- An absolute path does not depend on the path that it is joined to, nor on where it starts. -/
theorem resolved_join_of_isAbsolute (absolute : path.isAbsolute = true) (base : List Text) :
    (root.join path).resolved base = path.names.foldl step [] := by
  rw [join, if_pos absolute, resolved, if_pos absolute]

/-! ## Steps up -/

/-- Names that are followed from so many steps below a place never lead out of it. -/
def staysBelow : Nat → List Text → Bool
  | _, [] => true
  | depth, name :: rest =>
    if name = ['.'] then staysBelow depth rest
    else if name = ['.', '.'] then depth ≠ 0 && staysBelow (depth - 1) rest
    else staysBelow (depth + 1) rest

/-- Names that stay below a place lead to a place below it. -/
theorem prefix_foldl_step (stays : staysBelow down.length names = true) :
    place <+: names.foldl step (place ++ down) := by
  induction names generalizing down with
  | nil => exact List.prefix_append place down
  | cons name rest ih =>
    rw [staysBelow] at stays
    rw [List.foldl_cons, step]
    split_ifs at stays ⊢ with here up
    · exact ih stays
    · simp only [Bool.and_eq_true, decide_eq_true_eq, ne_eq, List.length_eq_zero_iff] at stays
      rw [List.dropLast_append_of_ne_nil stays.1]
      apply ih
      rw [List.length_dropLast]
      exact stays.2
    · rw [List.append_assoc]
      apply ih
      rw [List.length_append]
      exact stays

/-- A place is not entered by names that do not end it. -/
theorem not_prefix_foldl_step (outside : ¬ place <+: current)
    (fresh : ∀ name ∈ names, place.getLast? ≠ some name) :
    ¬ place <+: names.foldl step current := by
  induction names generalizing current with
  | nil => exact outside
  | cons name rest ih =>
    rw [List.forall_mem_cons] at fresh
    refine ih ?_ fresh.2
    rw [step]
    split_ifs
    · exact outside
    · exact fun inside => outside (inside.trans (List.dropLast_prefix current))
    · intro inside
      rcases List.prefix_concat_iff.mp inside with same | inside
      · apply fresh.1
        rw [same, List.getLast?_concat]
      · exact outside inside

/-- Names that do not stay below a place leave it for good, unless one of them ends it. -/
theorem not_prefix_of_not_staysBelow (filled : place ≠ [])
    (leaves : staysBelow down.length names = false)
    (fresh : ∀ name ∈ names, place.getLast? ≠ some name) :
    ¬ place <+: names.foldl step (place ++ down) := by
  induction names generalizing down with
  | nil => cases leaves
  | cons name rest ih =>
    rw [List.forall_mem_cons] at fresh
    rw [staysBelow] at leaves
    rw [List.foldl_cons, step]
    split_ifs at leaves ⊢ with here up
    · exact ih leaves fresh.2
    · rcases eq_or_ne down [] with rfl | more
      · rw [List.append_nil]
        refine not_prefix_foldl_step (fun inside => ?_) fresh.2
        have bound := inside.length_le
        have positive := List.length_pos_iff.mpr filled
        rw [List.length_dropLast] at bound
        omega
      · rw [List.dropLast_append_of_ne_nil more]
        refine ih ?_ fresh.2
        have positive := List.length_pos_iff.mpr more
        rw [List.length_dropLast]
        simpa [Nat.pos_iff_ne_zero.mp positive] using leaves
    · rw [List.append_assoc]
      refine ih ?_ fresh.2
      rw [List.length_append]
      exact leaves

/-- A relative path that stays below where it starts leads to a place below the path that it is
joined to. -/
theorem prefix_resolved_join (relative : path.isAbsolute = false)
    (stays : staysBelow 0 path.names = true) (base : List Text) :
    root.resolved base <+: (root.join path).resolved base := by
  have below := @prefix_foldl_step (root.resolved base) [] path.names stays
  rwa [List.append_nil, ← resolved_join relative] at below

/-! ## Every root -/

/-- There is a directory of the file system that has none of the names. -/
theorem exists_fresh (names : List Text) :
    ∃ (root : Path) (fresh : Text), fresh ∉ names ∧ ∀ base, root.resolved base = [fresh] := by
  -- A name that is longer than all of them together is none of them.
  let fresh : Text := List.replicate ((names.map List.length).sum + 1) 'x'
  have letters : ∀ c ∈ fresh, c = 'x' := fun c member => List.eq_of_mem_replicate member
  have whole : '/' ∉ fresh := fun member => by cases letters '/' member
  have other : ∀ c rest, c ≠ 'x' → fresh ≠ c :: rest := fun c rest different same =>
    different (letters c (by rw [same]; exact List.mem_cons_self ..))
  refine ⟨⟨'/' :: fresh⟩, fresh, fun member => ?_, fun base => ?_⟩
  · have bound := List.single_le_sum (fun _ _ => Nat.zero_le _) _
      (List.mem_map_of_mem (f := List.length) member)
    rw [List.length_replicate] at bound
    omega
  · have absolute : Path.isAbsolute ⟨'/' :: fresh⟩ = true := rfl
    have split : Path.names ⟨'/' :: fresh⟩ = [fresh] := by
      rw [← List.nil_append ('/' :: fresh), names_append, names_nil, List.nil_append, Path.names,
        List.splitOn_eq_singleton whole]
      rfl
    rw [resolved, if_pos absolute, split, List.foldl_cons, List.foldl_nil, step,
      if_neg (other '.' [] (by decide)), if_neg (other '.' ['.'] (by decide)), List.nil_append]

/-- A path stays below every root that it is joined to exactly when it is relative and stays below
where it starts. -/
theorem forall_prefix_resolved_join_iff {path : Path} {base : List Text} :
    (∀ root : Path, root.resolved base <+: (root.join path).resolved base) ↔
      path.isAbsolute = false ∧ staysBelow 0 path.names = true := by
  constructor
  · intro below
    obtain ⟨root, fresh, absent, place⟩ := exists_fresh path.names
    have below := below root
    have last : ∀ name ∈ path.names, [fresh].getLast? ≠ some name := by
      intro name member same
      rw [List.getLast?_singleton, Option.some_inj] at same
      exact absent (same ▸ member)
    rw [place] at below
    cases absolute : path.isAbsolute with
    | true =>
      rw [resolved_join_of_isAbsolute absolute] at below
      exact absurd below (not_prefix_foldl_step (by simp) last)
    | false =>
      rw [resolved_join absolute, place] at below
      cases stays : staysBelow 0 path.names with
      | true => exact ⟨rfl, rfl⟩
      | false =>
        exact absurd below (@not_prefix_of_not_staysBelow [fresh] [] path.names
          (List.cons_ne_nil _ _) stays last)
  · rintro ⟨relative, stays⟩ root
    exact prefix_resolved_join relative stays base

end Notebook.Path
