import Notebook.Proofs.Document.WrittenOutput

/-! # Outputs that are given up

A run that gets as far as starting a program gives up the output of its cell, and there is none
until the run succeeds. An output also stands between its cell and a `text` block behind it, which
is read as the output of that cell once the other one is gone. Otherwise the document comes back
with the same cells, as far as its carriage returns and its empty outputs let it.
-/

namespace Notebook.Document

/-- The cells after one of them has given up its output. -/
def withoutOutput (cells : List Cell) (position : Nat) : List Cell :=
  cells.modify position fun cell => cell.setOutput none

theorem withoutOutput_append (before after : List Cell) (cell : Cell) :
    withoutOutput (before ++ cell :: after) before.length =
      before ++ { cell with output := none } :: after :=
  modify_append_cons before after cell _

/-! ## Neighbours -/

/-- A cell that gives up an output is separate from any block but a `text` block. -/
theorem Apart.separate_cleared_iff {cell next : Cell} (apart : Apart cell next)
    (kind : cell.kind = .code)
    (tag : cell.output ≠ none → cell.language ≠ some Fence.outputTag) :
    Separate { cell with output := none } next ↔
      (cell.output ≠ none → next.language ≠ some Fence.outputTag) := by
  constructor
  · intro separate stored
    apply separate.output
    simp [lacksOutput, Cell.isCode, kind, tag stored, keptOutput]
  · refine fun kept => ⟨apart.prose, fun lacks => ?_⟩
    simp only [lacksOutput, Bool.and_eq_true, decide_eq_true_eq] at lacks
    cases stored : cell.output with
    | none =>
      apply apart.output
      simp [Reading.acceptsOutput, Cell.isCode, kind, lacks.1.2, stored]
    | some output => exact kept (by rw [stored]; exact Option.some_ne_none output)

/-- The cells are separate once one of them has given up its output, unless a `text` block comes
behind it or behind an output that is left out. -/
theorem isChain_separate_cleared_iff {before after : List Cell} {cell : Cell}
    (apart : (before ++ cell :: after).IsChain Apart)
    (code : ∀ other ∈ before ++ cell :: after, other.output ≠ none →
      other.kind = .code ∧ other.language ≠ some Fence.outputTag) (kind : cell.kind = .code) :
    (before ++ { cell with output := none } :: after).IsChain Separate ↔
      (before ++ cell :: after).IsChain (fun other next =>
        other.output = some [] → next.language ≠ some Fence.outputTag) ∧
      (cell.output ≠ none → ∀ next ∈ after.head?, next.language ≠ some Fence.outputTag) := by
  rw [List.forall_mem_append, List.forall_mem_cons] at code
  obtain ⟨before_code, cell_code, after_code⟩ := code
  rw [List.isChain_append, List.isChain_cons] at apart ⊢
  rw [List.isChain_append, List.isChain_cons]
  obtain ⟨earlier, ⟨next_apart, later⟩, previous⟩ := apart
  have inside := isChain_separate_iff earlier before_code
  have behind := isChain_separate_iff later after_code
  have following : ∀ next ∈ after.head?, Separate { cell with output := none } next ↔
      (cell.output ≠ none → next.language ≠ some Fence.outputTag) :=
    fun next member => (next_apart next member).separate_cleared_iff kind
      fun stored => (cell_code stored).2
  have leading : ∀ other ∈ before.getLast?, Separate other { cell with output := none } ↔
      (other.output = some [] → cell.language ≠ some Fence.outputTag) := fun other member => by
    rw [← (previous other member cell rfl).separate_iff
      (before_code other (List.mem_of_getLast? member))]
    exact ⟨fun separate => ⟨separate.prose, separate.output⟩,
      fun separate => ⟨separate.prose, separate.output⟩⟩
  rw [inside, behind]
  constructor
  · rintro ⟨before_kept, ⟨separate, after_kept⟩, last⟩
    have text_free : cell.output ≠ none →
        ∀ next ∈ after.head?, next.language ≠ some Fence.outputTag :=
      fun stored next member => (following next member).mp (separate next member) stored
    refine ⟨⟨before_kept, ⟨fun next member empty => ?_, after_kept⟩, ?_⟩, text_free⟩
    · exact text_free (by rw [empty]; exact Option.some_ne_none []) next member
    · rintro other member _ ⟨⟩
      exact (leading other member).mp (last other member _ rfl)
  · rintro ⟨⟨before_kept, ⟨_, after_kept⟩, last⟩, text_free⟩
    refine ⟨before_kept, ⟨fun next member => ?_, after_kept⟩, ?_⟩
    · exact (following next member).mpr fun stored => text_free stored next member
    · rintro other member _ ⟨⟩
      exact (leading other member).mpr (last other member cell rfl)

/-! ## Documents that were read -/

/-- A document from which one output is left out comes back with the same gists, and without that
output, exactly when every cell is plain, no empty output stands in front of a `text` block, and
neither does the output that is left out. -/
theorem withoutOutput_comesBack_iff {text : Text} {position : Nat} {cell : Cell}
    (read : (parse text)[position]? = some cell) (kind : cell.kind = .code) :
    ((parse (serialize (withoutOutput (parse text) position))).map gist = (parse text).map gist ∧
      ((parse (serialize (withoutOutput (parse text) position))).map (·.output))[position]? =
        some none) ↔
      (∀ other ∈ parse text, Plain other) ∧
      ((parse text).IsChain fun other next =>
        other.output = some [] → next.language ≠ some Fence.outputTag) ∧
      (cell.output ≠ none → ∀ next, (parse text)[position + 1]? = some next →
        next.language ≠ some Fence.outputTag) := by
  obtain ⟨before, after, split, rfl⟩ := exists_append_of_getElem? read
  have block := fromBlock_of_split split
  have apart := apart_parse text
  rw [split] at apart
  have legible := @legible_replaced before after cell { cell with output := none } text split kind
    rfl rfl (block.sound.update cell.leading cell.trailing
      (fun _ => (block.sound.code kind).outputIndent) (fun _ none => absurd rfl none))
    (fun _ kept => by cases kept)
  have plain : (∀ other ∈ before ++ { cell with output := none } :: after, Plain other) ↔
      ∀ other ∈ before ++ cell :: after, Plain other := by
    rw [List.forall_mem_append, List.forall_mem_append, List.forall_mem_cons, List.forall_mem_cons]
    exact and_congr_right fun _ => and_congr_left fun _ => plain_congr rfl rfl
  have next : (before ++ cell :: after)[before.length + 1]? = after.head? := by
    rw [List.getElem?_append_right (by omega), Nat.add_sub_cancel_left, List.getElem?_cons_succ,
      List.head?_eq_getElem?]
  have gists : (before ++ { cell with output := none } :: after).map gist =
      (before ++ cell :: after).map gist := by
    rw [List.map_append, List.map_append]
    rfl
  have separate := isChain_separate_cleared_iff apart
    (forall_replaced split (fun _ block => block.output_ne_none) block.output_ne_none) kind
  rw [split, withoutOutput_append, ← gists, next, legible.map_gist_iff, plain, separate]
  refine and_iff_left_of_imp fun back => ?_
  rw [legible.map_parse (plain.mpr back.1) (separate.mpr back.2) (fun _ _ => rfl) fun _ => rfl,
    List.map_append, List.getElem?_append_right (by simp), List.length_map, Nat.sub_self,
    List.map_cons, List.getElem?_cons_zero, @reread_code_none { cell with output := none } kind rfl]
  rfl

/-- A cell in front of another cell with an output of its own. -/
theorem withoutOutput_comesBack_prose :
    ((parse (serialize (withoutOutput (parse "```py\nx\n```\n\n```text\n1\n```\n# A\n") 0))).map
        gist = (parse "```py\nx\n```\n\n```text\n1\n```\n# A\n").map gist ∧
      ((parse (serialize (withoutOutput (parse "```py\nx\n```\n\n```text\n1\n```\n# A\n") 0))).map
        (·.output))[0]? = some none) := by
  have cells : parse "```py\nx\n```\n\n```text\n1\n```\n# A\n" =
      [{ Cell.code "py" "x" with leading := [], output := some "1\n", info := some "py" },
        { Cell.prose "# A" with leading := [], trailing := ['\n'] }] := by
    rw [parse_eq_read (by decide)]
    decide
  refine (@withoutOutput_comesBack_iff _ 0 _ (by rw [cells]; rfl) rfl).mpr ?_
  rw [cells]
  exact ⟨by decide, by decide, fun _ next found => by cases found; decide⟩

/-- A `text` block behind an output is read as the output once the other one is gone. -/
theorem parse_serialize_withoutOutput_text :
    parse "```py\nx\n```\n\n```text\na\n```\n\n```text\nb\n```\n" =
        [{ Cell.code "py" "x" with leading := [], output := some "a\n", info := some "py" },
          { Cell.code "text" "b" with trailing := ['\n'], info := some "text" }] ∧
      parse (serialize (withoutOutput
          (parse "```py\nx\n```\n\n```text\na\n```\n\n```text\nb\n```\n") 0)) =
        [{ Cell.code "py" "x" with
          leading := [], trailing := ['\n'], output := some "b\n", info := some "py" }] := by
  have cells : parse "```py\nx\n```\n\n```text\na\n```\n\n```text\nb\n```\n" =
      [{ Cell.code "py" "x" with leading := [], output := some "a\n", info := some "py" },
        { Cell.code "text" "b" with trailing := ['\n'], info := some "text" }] := by
    rw [parse_eq_read (by decide)]
    decide
  refine ⟨cells, ?_⟩
  rw [cells, parse_eq_read (by decide)]
  decide

end Notebook.Document
