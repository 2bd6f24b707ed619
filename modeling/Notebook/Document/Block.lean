import Notebook.Fence

/-! # Blocks of a document

The lines of a document fall into stretches of prose and fenced blocks, each followed by a run of
empty lines. A prose stretch reaches to the next opener and gives the empty lines at its end back
to the run after it; a fenced block reaches to its closer, or to the end of the document.
-/

namespace Notebook

/-- A stretch of lines between runs of empty lines. -/
inductive Block where
  | prose (lines : List Text)
  | fenced (opener : Fence.Opener) (body : List Text)
  deriving DecidableEq, Repr

/-- A block with the number of empty lines after it. -/
structure PlacedBlock where
  block : Block
  blanks : Nat
  deriving DecidableEq, Repr

namespace Block

/-- Leaves out empty lines at the end, and counts them. -/
def dropBlankEnd : List Text → List Text × Nat
  | [] => ([], 0)
  | line :: rest =>
    match dropBlankEnd rest with
    | ([], blanks) => if line = [] then ([], blanks + 1) else ([line], blanks)
    | (kept, blanks) => (line :: kept, blanks)

/-- The lines of prose up to the next opener, with the rest. -/
def proseSpan (lines : List Text) : List Text × List Text :=
  (lines.takeWhile fun line => (Fence.opener? line).isNone,
    lines.dropWhile fun line => (Fence.opener? line).isNone)

/-- The lines up to the closer, with the lines after the closer. -/
def bodySpan (lines : List Text) : List Text × List Text :=
  (lines.takeWhile fun line => !Fence.isCloser line,
    (lines.dropWhile fun line => !Fence.isCloser line).drop 1)

theorem dropWhile_length_le {α : Type} (p : α → Bool) (xs : List α) :
    (xs.dropWhile p).length ≤ xs.length :=
  (List.dropWhile_sublist p).length_le

theorem bodySpan_length_le (lines : List Text) : (bodySpan lines).2.length ≤ lines.length := by
  have := dropWhile_length_le (fun line => !Fence.isCloser line) lines
  simp only [bodySpan, List.length_drop]
  omega

theorem proseSpan_length_le (lines : List Text) : (proseSpan lines).2.length ≤ lines.length :=
  dropWhile_length_le _ lines

/-- Reads lines, the first of which is not empty, into blocks. -/
def ofLines : List Text → List PlacedBlock
  | [] => []
  | line :: rest =>
    match Fence.opener? line with
    | some opener =>
      ⟨.fenced opener (bodySpan rest).1, ((bodySpan rest).2.takeWhile List.isEmpty).length⟩ ::
        ofLines ((bodySpan rest).2.dropWhile List.isEmpty)
    | none =>
      ⟨.prose (dropBlankEnd (line :: (proseSpan rest).1)).1,
        (dropBlankEnd (line :: (proseSpan rest).1)).2⟩ :: ofLines (proseSpan rest).2
termination_by lines => lines.length
decreasing_by
  · have := bodySpan_length_le rest
    have := dropWhile_length_le List.isEmpty (bodySpan rest).2
    simp only [List.length_cons]
    omega
  · have := proseSpan_length_le rest
    simp only [List.length_cons]
    omega

end Block

end Notebook
