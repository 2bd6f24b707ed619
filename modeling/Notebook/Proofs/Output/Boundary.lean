import Mathlib.Data.List.Infix
import Notebook.Output.Segment

/-! # Boundaries and the segments between them

A boundary is the marker with a separator. The marker has no part that is both its beginning and its
end, and no separator holds a character that the marker starts with, so two boundaries of a text
never overlap. Hence a text that is cut where no boundary runs across the cut has the segments of
its two parts, with the two segments at the cut in one; and a boundary, wherever it stands, parts
the segments before it from those behind it.
-/

namespace Notebook.Output

/-! ## Boundaries at the start of a text -/

/-- The marker with each of the separators. -/
def boundaries : List Text := separators.map (marker ++ ·)

theorem find?_separators {separator : Text} (member : separator ∈ separators) (rest : Text) :
    (separators.find? fun other => other.isPrefixOf (separator ++ rest)) = some separator := by
  simp only [separators, List.mem_cons, List.not_mem_nil, or_false] at member
  rcases member with rfl | rfl | rfl | rfl | rfl <;> rfl

theorem boundaryLength?_eq_some_iff {text : Text} {length : Nat} :
    boundaryLength? text = some length ↔
      ∃ boundary ∈ boundaries, boundary <+: text ∧ boundary.length = length := by
  rw [boundaryLength?]
  constructor
  · intro found
    split at found
    · next rest marked =>
      obtain ⟨separator, first, total⟩ := Option.map_eq_some_iff.mp found
      have fits := List.find?_some first
      rw [← List.isPrefixOf?_eq_some_iff_append_eq.mp marked]
      refine ⟨marker ++ separator, List.mem_map_of_mem (List.mem_of_find?_eq_some first), ?_, ?_⟩
      · rw [List.prefix_append_right_inj]
        exact List.isPrefixOf_iff_prefix.mp fits
      · rw [List.length_append, total]
    · cases found
  · rintro ⟨boundary, member, ⟨rest, rfl⟩, rfl⟩
    obtain ⟨separator, known, rfl⟩ := List.mem_map.mp member
    rw [List.append_assoc, List.isPrefixOf?_eq_some_iff_append_eq.mpr rfl]
    simp only [find?_separators known, Option.map_some, List.length_append]

/-- What follows the start of a boundary is neither the marker nor the beginning of one. -/
theorem drop_boundary : ∀ boundary ∈ boundaries, ∀ count < boundary.length, count ≠ 0 →
    ¬ boundary.drop count <+: marker ++ ['\r'] ∧ ¬ marker <+: boundary.drop count := by
  decide

theorem boundary_ne_nil : ∀ boundary ∈ boundaries, boundary ≠ [] := by
  decide

/-! ## Clean cuts -/

/-- No boundary runs across the cut between two texts: one that starts before it ends before it. -/
def CleanCut (before after : Text) : Prop :=
  ∀ start, start <:+ before → start ≠ [] →
    ∀ boundary ∈ boundaries, boundary <+: start ++ after → boundary <+: start

section

variable {before after : Text} {boundary : Text}

theorem CleanCut.of_cons {c : Char} (cut : CleanCut (c :: before) after) : CleanCut before after :=
  fun start inside => cut start (inside.trans (List.suffix_cons c before))

theorem CleanCut.boundaryLength?_append (cut : CleanCut before after) (filled : before ≠ []) :
    boundaryLength? (before ++ after) = boundaryLength? before := by
  ext length
  rw [boundaryLength?_eq_some_iff, boundaryLength?_eq_some_iff]
  constructor
  · rintro ⟨boundary, member, starts, rfl⟩
    exact ⟨boundary, member, cut before List.suffix_rfl filled boundary member starts, rfl⟩
  · rintro ⟨boundary, member, starts, rfl⟩
    exact ⟨boundary, member, starts.trans (List.prefix_append before after), rfl⟩

/-- A boundary that runs on behind a text continues in what follows. -/
theorem prefix_or_drop_prefix {start rest : Text} (starts : boundary <+: start ++ rest) :
    boundary <+: start ∨ start.length < boundary.length ∧ boundary.drop start.length <+: rest := by
  rcases Nat.lt_or_ge start.length boundary.length with longer | fits
  · have continues := starts.drop start.length
    rw [List.drop_left] at continues
    exact .inr ⟨longer, continues⟩
  · exact .inl (List.prefix_of_prefix_length_le starts (List.prefix_append start rest) fits)

/-- Nothing runs across the start of a boundary. -/
theorem cleanCut_boundary (member : boundary ∈ boundaries) (before after : Text) :
    CleanCut before (boundary ++ after) := by
  intro start _ filled other known starts
  rcases prefix_or_drop_prefix starts with inside | ⟨longer, continues⟩
  · exact inside
  obtain ⟨separator, _, rfl⟩ := List.mem_map.mp member
  have apart := drop_boundary other known start.length longer (mt List.length_eq_zero_iff.mp filled)
  have marked : marker <+: (marker ++ separator) ++ after := by
    rw [List.append_assoc]
    exact List.prefix_append _ _
  rcases List.prefix_or_prefix_of_prefix continues marked with short | long
  · exact absurd (short.trans (List.prefix_append _ _)) apart.1
  · exact absurd long apart.2

end

/-! ## Segments of two parts -/

/-- Puts the segments of two texts one after the other, those at the cut in one. -/
def glue : List Text → List Text → List Text
  | [], later => later
  | [segment], [] => [segment]
  | [segment], next :: later => (segment ++ next) :: later
  | segment :: next :: earlier, later => segment :: glue (next :: earlier) later

section Segments

variable {before after boundary : Text} {earlier later : List Text} {pending : Nat}

theorem consFirst_ne_nil (c : Char) (segments : List Text) : consFirst c segments ≠ [] := by
  cases segments <;> exact List.cons_ne_nil _ _

theorem splitFrom_ne_nil (pending : Nat) (text : Text) : splitFrom pending text ≠ [] := by
  induction text generalizing pending with
  | nil => cases pending <;> exact List.cons_ne_nil _ _
  | cons c text ih =>
    cases pending with
    | succ pending => exact ih pending
    | zero =>
      rw [splitFrom]
      split
      · exact List.cons_ne_nil _ _
      · exact consFirst_ne_nil c _

theorem glue_cons (filled : earlier ≠ []) (segment : Text) :
    glue (segment :: earlier) later = segment :: glue earlier later := by
  cases earlier with
  | nil => exact absurd rfl filled
  | cons next earlier => rfl

theorem glue_consFirst (filled : earlier ≠ []) (c : Char) :
    glue (consFirst c earlier) later = consFirst c (glue earlier later) := by
  match earlier, later with
  | [], _ => exact absurd rfl filled
  | [_], [] => rfl
  | [_], _ :: _ => rfl
  | _ :: _ :: _, _ => rfl

theorem glue_concat (earlier later : List Text) (last next : Text) :
    glue (earlier ++ [last]) (next :: later) = earlier ++ (last ++ next) :: later := by
  induction earlier with
  | nil => rfl
  | cons segment earlier ih =>
    rw [List.cons_append, glue_cons (List.append_ne_nil_of_right_ne_nil _ (List.cons_ne_nil _ _)),
      ih, List.cons_append]

theorem glue_nil_cons (filled : earlier ≠ []) : glue earlier ([] :: later) = earlier ++ later := by
  obtain ⟨start, last, rfl⟩ := (List.eq_nil_or_concat' earlier).resolve_left filled
  rw [glue_concat, List.append_nil, List.append_assoc, List.singleton_append]

theorem splitFrom_append (cut : CleanCut before after) (fits : pending ≤ before.length) :
    splitFrom pending (before ++ after) = glue (splitFrom pending before) (split after) := by
  induction before generalizing pending with
  | nil =>
    obtain rfl := Nat.le_zero.mp fits
    obtain ⟨segment, rest, parts⟩ := List.exists_cons_of_ne_nil (splitFrom_ne_nil 0 after)
    rw [List.nil_append, splitFrom, split, parts]
    rfl
  | cons c before ih =>
    cases pending with
    | succ pending => exact ih cut.of_cons (Nat.le_of_succ_le_succ fits)
    | zero =>
      have same := cut.boundaryLength?_append (List.cons_ne_nil c before)
      rw [List.cons_append] at same
      rw [List.cons_append, splitFrom, same, splitFrom]
      cases found : boundaryLength? (c :: before) with
      | none =>
        rw [glue_consFirst (splitFrom_ne_nil 0 before), ← ih cut.of_cons (Nat.zero_le _)]
      | some length =>
        obtain ⟨boundary, _, starts, rfl⟩ := boundaryLength?_eq_some_iff.mp found
        have bound := starts.length_le
        rw [List.length_cons] at bound
        rw [glue_cons (splitFrom_ne_nil _ _), ← ih cut.of_cons (by omega)]

/-- Where no boundary runs across a cut, the segments are those of the two parts. -/
theorem split_append (cut : CleanCut before after) :
    split (before ++ after) = glue (split before) (split after) :=
  splitFrom_append cut (Nat.zero_le _)

theorem split_ne_nil (text : Text) : split text ≠ [] :=
  splitFrom_ne_nil 0 text

theorem splitFrom_length_append (passed rest : Text) :
    splitFrom passed.length (passed ++ rest) = split rest := by
  induction passed with
  | nil => rfl
  | cons c passed ih => exact ih

theorem split_boundary_append (member : boundary ∈ boundaries) (after : Text) :
    split (boundary ++ after) = [] :: split after := by
  obtain ⟨c, rest, rfl⟩ := List.exists_cons_of_ne_nil (boundary_ne_nil boundary member)
  have found := boundaryLength?_eq_some_iff.mpr
    ⟨c :: rest, member, List.prefix_append (c :: rest) after, rfl⟩
  rw [List.cons_append] at found
  rw [split, List.cons_append, splitFrom, found]
  exact congrArg ([] :: ·) (splitFrom_length_append rest after)

/-- A boundary parts the segments before it from those behind it. -/
theorem split_at_boundary (member : boundary ∈ boundaries) (before after : Text) :
    split (before ++ boundary ++ after) = split before ++ split after := by
  rw [List.append_assoc, split_append (cleanCut_boundary member before after),
    split_boundary_append member, glue_nil_cons (split_ne_nil before)]

/-- A text without the marker is one segment. -/
theorem split_of_unmarked {text : Text} (unmarked : ¬ marker <:+: text) : split text = [text] := by
  induction text with
  | nil => rfl
  | cons c text ih =>
    have absent : boundaryLength? (c :: text) = none := by
      rw [Option.eq_none_iff_forall_ne_some]
      intro length found
      obtain ⟨boundary, member, starts, _⟩ := boundaryLength?_eq_some_iff.mp found
      obtain ⟨separator, _, rfl⟩ := List.mem_map.mp member
      exact unmarked ((List.prefix_append marker separator).trans starts).isInfix
    have rest := ih fun inside => unmarked (inside.trans (List.suffix_cons c text).isInfix)
    rw [split] at rest ⊢
    rw [splitFrom, absent, rest]
    rfl

end Segments

end Notebook.Output
