import Notebook.Proofs.Output.Alignment
import Notebook.Proofs.Text.Trim

/-! # Output while a program runs

What may still become a boundary is held back: the longest end of the output that a boundary may
begin with. So no boundary runs across the end of the settled output, whatever comes later, and the
settled output only grows. Its segments are therefore never taken back: all but the last are final,
and the last is continued.
-/

namespace Notebook.Output

/-! ## The end that is held back -/

section Settled

variable {text more rest : Text} {held boundary : Text}

theorem mem_unfinished_iff : held ∈ unfinished ↔ held ≠ [] ∧ held <+: marker ++ ['\r'] := by
  constructor
  · have all : ∀ held ∈ unfinished, held ≠ [] ∧ held <+: marker ++ ['\r'] := by decide
    exact all held
  · rintro ⟨filled, starts⟩
    have all : ∀ count < (marker ++ ['\r']).length,
        (marker ++ ['\r']).take (count + 1) ∈ unfinished := by decide
    have positive := List.length_pos_iff.mpr filled
    have taken := all (held.length - 1) (by have := starts.length_le; omega)
    rw [Nat.sub_add_cancel positive] at taken
    rwa [List.prefix_iff_eq_take.mp starts]

/-- A text that is a part of a boundary, from its start on, is the beginning of an unfinished one. -/
theorem dropLast_boundary : ∀ boundary ∈ boundaries, boundary.dropLast <+: marker ++ ['\r'] := by
  decide

theorem unfinished_decreasing :
    unfinished.Pairwise fun longer held => held.length < longer.length := by
  decide +kernel

/-- To find what is held back, it is enough to look at the end of a text. -/
theorem isSuffixOf_ending_iff (text : Text) (member : held ∈ unfinished) :
    held.isSuffixOf (text.drop (text.length - (marker.length + 1))) = true ↔ held <:+ text := by
  have short := (mem_unfinished_iff.mp member).2.length_le
  rw [List.length_append, List.length_singleton] at short
  rw [List.isSuffixOf_iff_suffix]
  constructor
  · exact fun suffix => suffix.trans (List.drop_suffix _ _)
  · intro suffix
    refine List.suffix_of_suffix_length_le suffix (List.drop_suffix _ _) ?_
    have inside := suffix.length_le
    rw [List.length_drop]
    omega

/-- What is held back is an end of the text that may become a boundary, or nothing. -/
theorem heldBack_suffix (text : Text) :
    heldBack text <:+ text ∧ (heldBack text ≠ [] → heldBack text ∈ unfinished) := by
  simp only [heldBack]
  cases found : unfinished.find? fun held =>
      held.isSuffixOf (text.drop (text.length - (marker.length + 1))) with
  | none => exact ⟨List.nil_suffix, absurd rfl⟩
  | some held =>
    have fits := List.find?_some found
    have member := List.mem_of_find?_eq_some found
    exact ⟨(isSuffixOf_ending_iff text member).mp fits, fun _ => member⟩

/-- No longer end of the text may become a boundary. -/
theorem length_le_heldBack (member : held ∈ unfinished) (suffix : held <:+ text) :
    held.length ≤ (heldBack text).length := by
  have matched := (isSuffixOf_ending_iff text member).mpr suffix
  simp only [heldBack]
  cases found : unfinished.find? fun held =>
      held.isSuffixOf (text.drop (text.length - (marker.length + 1))) with
  | none => exact absurd matched (List.find?_eq_none.mp found held member)
  | some longest =>
    obtain ⟨_, before, after, split, missed⟩ := List.find?_eq_some_iff_append.mp found
    have ordered := unfinished_decreasing
    rw [split] at member ordered
    rw [List.pairwise_append, List.pairwise_cons] at ordered
    rcases List.mem_append.mp member with earlier | member
    · have fails := missed held earlier
      rw [matched] at fails
      cases fails
    · rcases List.mem_cons.mp member with rfl | later
      · exact Nat.le_refl _
      · exact Nat.le_of_lt (ordered.2.1.1 held later)

theorem settled_append_heldBack (text : Text) : settled text ++ heldBack text = text := by
  obtain ⟨start, joined⟩ := (heldBack_suffix text).1
  generalize held_eq : heldBack text = held at joined
  rw [settled, held_eq, ← joined, List.length_append, Nat.add_sub_cancel, List.take_left]

theorem settled_isPrefix (text : Text) : settled text <+: text :=
  ⟨heldBack text, settled_append_heldBack text⟩

/-- Whatever comes later, no boundary runs across the end of the settled text. -/
theorem cleanCut_settled (grows : settled text ++ rest <+: text ++ more) :
    CleanCut (settled text) rest := by
  have waits := (heldBack_suffix text).2
  have longest : ∀ other ∈ unfinished, other <:+ text → other.length ≤ (heldBack text).length :=
    fun other => length_le_heldBack
  have joined := settled_append_heldBack text
  generalize settled text = kept at grows joined ⊢
  generalize heldBack text = held at waits longest joined
  subst joined
  rw [List.append_assoc, List.prefix_append_right_inj] at grows
  rintro start ⟨front, rfl⟩ filled boundary member starts
  rcases prefix_or_drop_prefix starts with inside | ⟨longer, _⟩
  · exact inside
  exfalso
  have positive := List.length_pos_iff.mpr filled
  have received : start ++ held <:+ front ++ start ++ held :=
    ⟨front, (List.append_assoc ..).symm⟩
  have continued : boundary <+: start ++ held ++ more := by
    rw [List.append_assoc]
    exact starts.trans ((List.prefix_append_right_inj start).mpr grows)
  have arrived := List.prefix_append (start ++ held) more
  rcases Nat.lt_or_ge (start ++ held).length boundary.length with partly | wholly
  · -- The boundary has come in part, and this part is longer than what is held back.
    have short := List.prefix_of_prefix_length_le arrived continued (Nat.le_of_lt partly)
    have begins : start ++ held <+: boundary.dropLast := by
      refine List.prefix_of_prefix_length_le short (List.dropLast_prefix boundary) ?_
      rw [List.length_dropLast]
      omega
    have known := mem_unfinished_iff.mpr ⟨List.append_ne_nil_of_left_ne_nil filled held,
      begins.trans (dropLast_boundary boundary member)⟩
    have bound := longest _ known received
    rw [List.length_append] at bound
    omega
  · -- The boundary has come whole, and what is held back begins inside it.
    have inside := List.prefix_of_prefix_length_le continued arrived wholly
    rcases prefix_or_drop_prefix inside with early | ⟨_, continues⟩
    · exact absurd early.length_le (Nat.not_le.mpr longer)
    · have present : held ≠ [] := by
        rintro rfl
        rw [List.prefix_nil, List.drop_eq_nil_iff] at continues
        omega
      exact (drop_boundary boundary member start.length longer (by omega)).1
        (continues.trans (mem_unfinished_iff.mp (waits present)).2)

/-- Output that was settled stays so. -/
theorem settled_mono {longer : Text} (first : text <+: longer) : settled text <+: settled longer := by
  have joined := settled_append_heldBack text
  have joinedLonger := settled_append_heldBack longer
  have longest : ∀ other ∈ unfinished, other <:+ text → other.length ≤ (heldBack text).length :=
    fun other => length_le_heldBack
  have waits := (heldBack_suffix longer).2
  generalize settled text = kept at joined ⊢
  generalize heldBack text = held at joined longest
  generalize settled longer = keptLonger at joinedLonger ⊢
  generalize heldBack longer = heldLonger at joinedLonger waits
  subst joined joinedLonger
  have start := (List.prefix_append kept held).trans first
  rcases List.prefix_or_prefix_of_prefix start (List.prefix_append keptLonger heldLonger) with
    grows | ⟨taken, rfl⟩
  · exact grows
  -- What was taken back would be held back, and so would be with it what was held back before.
  rw [List.append_assoc, List.prefix_append_right_inj] at first
  by_cases none_taken : taken = []
  · rw [none_taken, List.append_nil]
  exfalso
  have filled := List.append_ne_nil_of_left_ne_nil none_taken held
  have present : heldLonger ≠ [] := by
    rintro rfl
    exact filled (List.prefix_nil.mp first)
  have known := mem_unfinished_iff.mpr
    ⟨filled, first.trans (mem_unfinished_iff.mp (waits present)).2⟩
  have bound := longest _ known ⟨keptLonger, (List.append_assoc ..).symm⟩
  have positive := List.length_pos_iff.mpr none_taken
  rw [List.length_append] at bound
  omega

/-- A boundary of the whole output is behind what is settled, or part of it. -/
theorem boundary_settled {whole before after : Text} (first : text <+: whole)
    (member : boundary ∈ boundaries) (parts : whole = before ++ boundary ++ after) :
    settled text <+: before ∨ ∃ more, settled text = before ++ boundary ++ more := by
  obtain ⟨more, arrived⟩ := first
  obtain ⟨rest, joined⟩ := (settled_isPrefix text).trans ⟨more, arrived⟩
  have cut : CleanCut (settled text) rest := cleanCut_settled (by rw [joined, arrived])
  generalize settled text = kept at joined cut ⊢
  subst parts
  have start := List.prefix_append kept rest
  rw [joined, List.append_assoc] at start
  rcases List.prefix_or_prefix_of_prefix start (List.prefix_append before _) with
    behind | ⟨passed, rfl⟩
  · exact .inl behind
  by_cases none_passed : passed = []
  · rw [none_passed, List.append_nil]
    exact .inl List.prefix_rfl
  right
  rw [List.append_assoc, List.append_assoc, List.append_right_inj] at joined
  obtain ⟨more, rfl⟩ := cut passed (List.suffix_append before passed) none_passed boundary member
    (by rw [joined]; exact List.prefix_append _ _)
  exact ⟨more, (List.append_assoc ..).symm⟩

end Settled

/-! ## Segments that are continued -/

/-- What was reported stays: every segment but the last is as it was, and the last may have become
longer. -/
structure Continues (earlier later : List Text) : Prop where
  length_le : earlier.length ≤ later.length
  final : ∀ number, number + 1 < earlier.length → later[number]? = earlier[number]?
  last : ∀ segment, earlier.getLast? = some segment →
    ∃ longer, later[earlier.length - 1]? = some longer ∧ segment <+: longer

theorem continues_glue {earlier later : List Text} (filled : earlier ≠ []) (more : later ≠ []) :
    Continues earlier (glue earlier later) := by
  obtain ⟨start, last, rfl⟩ := (List.eq_nil_or_concat' earlier).resolve_left filled
  obtain ⟨next, later, rfl⟩ := List.exists_cons_of_ne_nil more
  rw [glue_concat]
  refine ⟨by simp, fun number before => ?_, fun segment ends => ?_⟩
  · rw [List.length_append, List.length_singleton] at before
    rw [List.getElem?_append_left (by omega), List.getElem?_append_left (by omega)]
  · rw [List.getLast?_concat, Option.some_inj] at ends
    subst ends
    refine ⟨last ++ next, ?_, List.prefix_append _ _⟩
    simp

theorem Continues.getElem? {earlier later : List Text} (continues : Continues earlier later)
    {number : Nat} {segment : Text} (found : earlier[number]? = some segment) :
    ∃ longer, later[number]? = some longer ∧ segment <+: longer := by
  have inside := (List.getElem?_eq_some_iff.mp found).1
  rcases Nat.lt_or_ge (number + 1) earlier.length with before | after
  · exact ⟨segment, (continues.final number before).trans found, List.prefix_rfl⟩
  · obtain rfl : number = earlier.length - 1 := by omega
    exact continues.last segment (by rw [List.getLast?_eq_getElem?, found])

/-- Output that was settled has segments that later ones continue. -/
theorem continues_split {text longer rest : Text} (grows : settled text ++ rest <+: longer)
    (first : text <+: longer) : Continues (split (settled text)) (split (settled text ++ rest)) := by
  obtain ⟨more, rfl⟩ := first
  rw [split_append (cleanCut_settled grows)]
  exact continues_glue (split_ne_nil _) (split_ne_nil _)

namespace Collector

theorem shown?_continued {segment longer shown : Text} (reported : shown? segment = some shown)
    (first : segment <+: longer) : ∃ later, shown? longer = some later ∧ shown <+: later := by
  rw [shown?_eq] at reported
  split_ifs at reported with blank
  rw [Bool.not_eq_true] at blank
  rw [Option.some_inj] at reported
  have continued := Text.trim_prefix_trim blank first
  refine ⟨longer.trim, ?_, reported ▸ continued⟩
  rw [shown?, if_neg]
  intro empty
  rw [empty, List.prefix_nil, Text.trim_eq_nil_iff, blank] at continued
  cases continued

/-- While a program runs, nothing that was reported is taken back: later segments, and those at the
end, continue the earlier ones; so does the output of the target. A boundary of the output is either
behind all that is reported or taken out of it whole. -/
theorem segments_continued (target : Nat) {text : Text} {bytes longer : List UInt8}
    (first : bytes <+: longer) (second : longer <+: Utf8.encode text) :
    let early := (new target).push bytes
    let late := (new target).push longer
    Continues early.segments late.segments ∧ Continues early.segments late.allSegments ∧
      (∀ shown, early.visible? = some shown →
        (∃ later, late.visible? = some later ∧ shown <+: later) ∧
          ∃ final, late.final? = some final ∧ shown <+: final) ∧
      ∀ before boundary after, boundary ∈ boundaries → text = before ++ boundary ++ after →
        settled (decode bytes) <+: before ∨
          ∃ more, settled (decode bytes) = before ++ boundary ++ more ∧
            early.segments = split before ++ split more := by
  intro early late
  have grown := decode_mono first second
  have whole := decode_prefix (first.trans second)
  have kept := settled_isPrefix (decode bytes)
  have running : Continues early.segments late.segments := by
    obtain ⟨rest, joined⟩ := settled_mono grown
    have grows := settled_isPrefix (decode longer)
    rw [← joined] at grows
    have continued := continues_split grows grown
    rwa [joined] at continued
  have ended : Continues early.segments late.allSegments := by
    obtain ⟨rest, joined⟩ := kept.trans grown
    have continued := continues_split (by rw [joined]) grown
    rwa [joined] at continued
  refine ⟨running, ended, fun shown reported => ?_, fun before boundary after member parts => ?_⟩
  · obtain ⟨segment, found, reported⟩ := Option.bind_eq_some_iff.mp reported
    constructor
    · obtain ⟨segment, present, grows⟩ := running.getElem? found
      obtain ⟨later, visible, extended⟩ := shown?_continued reported grows
      exact ⟨later, Option.bind_eq_some_iff.mpr ⟨segment, present, visible⟩, extended⟩
    · obtain ⟨segment, present, grows⟩ := ended.getElem? found
      obtain ⟨final, visible, extended⟩ := shown?_continued reported grows
      refine ⟨final, Option.bind_eq_some_iff.mpr ⟨segment, ?_, visible⟩, extended⟩
      exact Option.or_eq_some_iff.mpr (.inl present)
  · rcases boundary_settled whole member parts with behind | ⟨more, joined⟩
    · exact .inl behind
    · refine .inr ⟨more, joined, ?_⟩
      rw [← split_at_boundary member, ← joined]
      rfl

/-- The output is cut off inside its second marker, which is held back. -/
theorem segments_continued_partial_marker :
    let before : Text := marker ++ "\n" ++ "one "
    let boundary : Text := marker ++ "\r\n"
    let bytes := (Utf8.encode (before ++ boundary ++ "two")).take 30
    let early := (new 1).push bytes
    let late := (new 1).push (Utf8.encode (before ++ boundary ++ "two"))
    decode bytes = before ++ "!!outp" ∧ early.visible? = some ("one" : Text) ∧
      Continues early.segments late.allSegments ∧
      (∃ final, late.final? = some final ∧ ("one" : Text) <+: final) ∧
      (settled (decode bytes) <+: before ∨
        ∃ more, settled (decode bytes) = before ++ boundary ++ more ∧
          early.segments = split before ++ split more) := by
  intro before boundary bytes early late
  have visible : early.visible? = some ("one" : Text) := by decide
  obtain ⟨_, ended, shown, parted⟩ := segments_continued 1
    (List.take_prefix 30 (Utf8.encode (before ++ boundary ++ "two"))) List.prefix_rfl
  exact ⟨by decide, visible, ended, (shown "one" visible).2,
    parted before boundary "two" (by decide) rfl⟩

end Collector

end Notebook.Output
