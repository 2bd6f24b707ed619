import Notebook.Proofs.Document.Misreading
import Notebook.Proofs.Document.WellFormed

/-! # Cells that come back

Sound cells keep their gists when they are written and read again exactly when all of them are plain
and no two of them run together. Everything else about them is then that of the cells as each of
them is read for itself. A document in which one code cell has been replaced by another that is
sound is made of such cells.
-/

namespace Notebook.Document

open Text

/-- What is written for the cells is read from them one by one, up to carriage returns and up to
outputs of their neighbours. -/
structure Legible (cells : List Cell) : Prop where
  sound : ∀ cell ∈ cells, Sound cell
  quiet : ∀ cell ∈ cells, Quiet cell
  apart : cells.IsChain ProseApart
  spaced : ∀ cell ∈ cells, Spaced cell
  ending : ∃ count, cells.getLast?.map (·.trailing) = some (List.replicate count '\n')
  broken : '\n' ∈ serialize cells

section Legible

variable {cells : List Cell}

theorem map_unspaced {α : Type} {f : Cell → α} (unled : ∀ cell, f { cell with leading := [] } = f cell)
    (cells : List Cell) : (unspaced cells).map f = cells.map f := by
  cases cells with
  | nil => rfl
  | cons first rest => rw [unspaced, List.map_cons, List.map_cons, unled]

theorem proseApart_unspaced_iff (cell next : Cell) :
    ProseApart { cell with leading := [] } next ↔ ProseApart cell next := Iff.rfl

/-- What is read back is each cell for itself, but for the empty lines around the document. -/
theorem Legible.map_parse (legible : Legible cells) (plain : ∀ cell ∈ cells, Plain cell)
    (separate : cells.IsChain Separate) {α : Type} {f : Cell → α} (untrailed : Untrailed f)
    (unled : ∀ cell, f { cell with leading := [] } = f cell) :
    (parse (serialize cells)).map f = cells.map fun cell => f (reread cell) := by
  obtain ⟨count, trailing⟩ := legible.ending
  rw [parse_serialize_eq legible.sound plain legible.quiet separate legible.spaced trailing
    legible.broken, map_finish untrailed, List.reverse_reverse, List.map_map]
  exact map_unspaced (fun cell => (congrArg f (reread_unspaced cell)).trans (unled _)) cells

/-- The gists come back exactly when nothing is read as something else. -/
theorem Legible.map_gist_iff (legible : Legible cells) :
    (parse (serialize cells)).map gist = cells.map gist ↔
      (∀ cell ∈ cells, Plain cell) ∧ cells.IsChain Separate := by
  constructor
  · intro same
    obtain ⟨count, trailing⟩ := legible.ending
    have whole := (unspaced cells).append_nil
    rw [parse_serialize_eq_readOn legible.sound legible.spaced trailing legible.broken] at same
    have reads : ReadsAs [] (restLines (unspaced cells ++ []) count) (unspaced cells ++ []) := by
      rw [whole, ReadsAs, same, List.reverse_nil, List.nil_append, map_unspaced fun _ => rfl]
    obtain ⟨_, plain, separate, _⟩ := reads.run
      (by rw [whole]; exact (forall_unspaced_iff sound_unspaced_iff).mpr legible.sound)
      (by rw [whole]; exact (isChain_unspaced_iff proseApart_unspaced_iff).mpr legible.apart)
      ((forall_unspaced_iff fun _ => Iff.rfl).mpr legible.quiet)
    exact ⟨(forall_unspaced_iff plain_unspaced_iff).mp plain,
      (isChain_unspaced_iff separate_unspaced_iff).mp separate⟩
  · rintro ⟨plain, separate⟩
    rw [legible.map_parse plain separate untrailed_gist fun _ => rfl]
    refine List.map_congr_left fun cell member => ?_
    exact congrArg (fun shape => (shape.1, shape.2.1, shape.2.2.2))
      (shape_reread (legible.sound cell member) (plain cell member))

end Legible

/-! ## One cell replaced -/

theorem newline_mem_cellText {cell : Cell} (kind : cell.kind = .code) : '\n' ∈ cellText cell := by
  rw [cellText, kind]
  simp [fenced]

theorem cellText_subset_serialize {cells : List Cell} {cell : Cell} (member : cell ∈ cells) :
    cellText cell ⊆ serialize cells := by
  cases cells with
  | nil => cases member
  | cons first rest =>
    intro c present
    rw [serialize, List.mem_append, List.mem_append]
    rcases List.mem_cons.mp member with rfl | member
    · exact .inl (.inl present)
    · refine .inl (.inr (List.mem_flatMap.mpr ⟨cell, member, ?_⟩))
      exact List.mem_append_right _ present

theorem exists_append_of_getElem? {α : Type} {items : List α} {position : Nat} {item : α}
    (found : items[position]? = some item) :
    ∃ before after, items = before ++ item :: after ∧ before.length = position := by
  obtain ⟨inside, rfl⟩ := List.getElem?_eq_some_iff.mp found
  exact ⟨items.take position, items.drop (position + 1),
    by rw [← List.drop_eq_getElem_cons inside, List.take_append_drop],
    List.length_take_of_le (Nat.le_of_lt inside)⟩

theorem modify_append_cons {α : Type} (before after : List α) (item : α) (f : α → α) :
    (before ++ item :: after).modify before.length f = before ++ f item :: after := by
  induction before with
  | nil => rfl
  | cons first rest ih => exact congrArg (first :: ·) ih

section Replaced

variable {before after : List Cell} {cell edited : Cell}

theorem isChain_replaced {r : Cell → Cell → Prop} (chain : (before ++ cell :: after).IsChain r)
    (next : ∀ other, r cell other → r edited other)
    (previous : ∀ other, r other cell → r other edited) :
    (before ++ edited :: after).IsChain r := by
  rw [List.isChain_append, List.isChain_cons] at chain ⊢
  obtain ⟨earlier, ⟨following, later⟩, leading⟩ := chain
  refine ⟨earlier, ⟨fun other member => next other (following other member), later⟩, ?_⟩
  rintro other member _ ⟨⟩
  exact previous other (leading other member cell rfl)

variable {text : Text} (split : parse text = before ++ cell :: after)

include split

/-- What holds of every cell that is read holds of all cells when it holds of the new one. -/
theorem forall_replaced {p : Cell → Prop} (read : ∀ other, FromBlock other → p other)
    (new : p edited) : ∀ other ∈ before ++ edited :: after, p other := by
  have blocks : ∀ other ∈ before ++ cell :: after, p other := by
    rw [← split]
    exact fun other member => read other (fromBlock_parse member)
  rw [List.forall_mem_append, List.forall_mem_cons] at blocks ⊢
  exact ⟨blocks.1, new, blocks.2.2⟩

theorem fromBlock_of_split : FromBlock cell :=
  @fromBlock_parse text cell
    (by rw [split]; exact List.mem_append_right _ (List.mem_cons_self ..))

theorem spaced_replaced (leading : edited.leading = cell.leading) :
    ∀ other ∈ before ++ edited :: after, Spaced other := by
  apply forall_replaced split fun other block => block.spaced
  rw [Spaced, leading]
  exact (fromBlock_of_split split).spaced

theorem ending_replaced (trailing : edited.trailing = cell.trailing) :
    ∃ count, (before ++ edited :: after).getLast?.map (·.trailing) =
      some (List.replicate count '\n') := by
  obtain ⟨count, ending⟩ := @trailing_parse text (by rw [split]; simp)
  refine ⟨count, ?_⟩
  rw [split, ← List.getLast?_map, List.map_append, List.map_cons, ← trailing] at ending
  rw [← List.getLast?_map, List.map_append, List.map_cons, ending]

/-- A cell of a document that was read can be replaced by code that is sound and quiet. -/
theorem legible_replaced (kind : edited.kind = .code) (leading : edited.leading = cell.leading)
    (trailing : edited.trailing = cell.trailing) (sound : Sound edited) (quiet : Quiet edited) :
    Legible (before ++ edited :: after) where
  sound := forall_replaced split (fun _ block => block.sound) sound
  quiet := forall_replaced split (fun _ block => block.quiet) quiet
  apart := by
    have apart := apart_parse text
    rw [split] at apart
    refine isChain_replaced (apart.imp fun _ _ apart => apart.prose) (fun other _ prose => ?_)
      fun _ _ _ => by simp [kind]
    rw [kind] at prose
    cases prose
  spaced := spaced_replaced split leading
  ending := ending_replaced split trailing
  broken := cellText_subset_serialize (List.mem_append_right _ (List.mem_cons_self ..))
    (newline_mem_cellText kind)

end Replaced

end Notebook.Document
