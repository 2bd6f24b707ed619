import Notebook.Proofs.Output.Boundary
import Notebook.Proofs.Text.Lines
import Notebook.Proofs.Text.Utf8

/-! # Segments and entries

A program that prints a boundary before each of its outputs is read with one segment for each of
them, in whatever chunks its bytes arrive. So the output of an entry is found by the number of the
entry, and if the program stops before it, the last segment is where it stopped.
-/

namespace Notebook.Output

/-! ## Text of the bytes received -/

section Received

variable {text : Text} {bytes longer : List UInt8}

/-- The first bytes of a text give its first characters; one that is cut off is left out. -/
theorem decode_of_chars {start : Text} (read : (Utf8.run none bytes).chars = start.map some) :
    decode bytes = start := by
  have whole : (start.map some).contains none = false := by
    simp
  have values : (start.map some).filterMap id = start := by
    simp [List.filterMap_map]
  rw [decode, Utf8.decodeLossy]
  simp only [read, whole, Bool.not_false, Bool.and_true, values]
  split_ifs with cut
  · rfl
  · rw [List.append_nil, List.map_map]
    exact List.map_id start

theorem decode_encode (text : Text) : decode (Utf8.encode text) = text :=
  decode_of_chars (by rw [Utf8.run_encode])

theorem decode_prefix (first : bytes <+: Utf8.encode text) : decode bytes <+: text := by
  obtain ⟨start, within, read⟩ := Utf8.chars_run_of_prefix first
  rwa [decode_of_chars read]

theorem decode_mono (first : bytes <+: longer) (second : longer <+: Utf8.encode text) :
    decode bytes <+: decode longer := by
  obtain ⟨start, within, read⟩ := Utf8.chars_run_of_prefix (first.trans second)
  obtain ⟨further, withinLonger, readLonger⟩ := Utf8.chars_run_of_prefix second
  have bound := (Utf8.chars_run_prefix first).length_le
  rw [read, readLonger, List.length_map, List.length_map] at bound
  rw [decode_of_chars read, decode_of_chars readLonger]
  exact List.prefix_of_prefix_length_le within withinLonger bound

end Received

/-! ## Outputs between boundaries -/

/-- The output of a program: what it prints first, and what it prints behind each marker, with the
separator in between. -/
def stream (first : Text) (rest : List (Text × Text)) : Text :=
  first ++ rest.flatMap fun (separator, output) => marker ++ separator ++ output

/-- All that is printed, without the boundaries. -/
def outputs (first : Text) (rest : List (Text × Text)) : List Text :=
  first :: rest.map (·.2)

theorem stream_cons (first separator output : Text) (rest : List (Text × Text)) :
    stream first ((separator, output) :: rest) =
      first ++ (marker ++ separator) ++ stream output rest := by
  simp [stream]

/-- Cutting undoes putting boundaries between outputs that do not hold the marker. -/
theorem split_stream {first : Text} {rest : List (Text × Text)}
    (unmarked : ∀ output ∈ outputs first rest, ¬ marker <:+: output)
    (separated : ∀ part ∈ rest, part.1 ∈ separators) :
    split (stream first rest) = outputs first rest := by
  rw [outputs, List.forall_mem_cons] at unmarked
  induction rest generalizing first with
  | nil =>
    rw [stream, List.flatMap_nil, List.append_nil, split_of_unmarked unmarked.1]
    rfl
  | cons part rest ih =>
    obtain ⟨separator, output⟩ := part
    rw [List.forall_mem_cons] at separated
    rw [List.map_cons, List.forall_mem_cons] at unmarked
    rw [stream_cons, split_at_boundary (List.mem_map_of_mem separated.1),
      split_of_unmarked unmarked.1, ih unmarked.2 separated.2]
    rfl

namespace Collector

theorem foldl_push (collector : Collector) (chunks : List (List UInt8)) :
    chunks.foldl push collector = ⟨collector.target, collector.bytes ++ chunks.flatten⟩ := by
  induction chunks generalizing collector with
  | nil => rw [List.foldl_nil, List.flatten_nil, List.append_nil]
  | cons chunk chunks ih => rw [List.foldl_cons, ih, push, List.append_assoc, List.flatten_cons]

theorem shown?_eq (segment : Text) :
    shown? segment = if segment.isBlank then none else some segment.trim := by
  simp only [shown?, Text.trim_eq_nil_iff]

theorem hasOutput_iff (collector : Collector) : collector.hasOutput = true ↔
    ∃ segment ∈ collector.allSegments, segment.isBlank = false := by
  simp [hasOutput, Text.trim_eq_nil_iff]

/-- The output to keep is that of the target, or of the last segment if there are fewer. -/
theorem final?_eq {collector : Collector} {first : Text} {rest : List Text}
    (parts : collector.allSegments = first :: rest) :
    ∃ segment, (first :: rest)[min collector.target rest.length]? = some segment ∧
      collector.final? = shown? segment := by
  have inside : min collector.target rest.length < (first :: rest).length := by
    rw [List.length_cons]
    omega
  refine ⟨(first :: rest)[min collector.target rest.length],
    List.getElem?_eq_getElem inside, ?_⟩
  rw [final?, parts]
  rcases Nat.lt_or_ge rest.length collector.target with missed | reached
  · have beyond : (first :: rest).length ≤ collector.target := by
      rw [List.length_cons]
      omega
    simp only [Nat.min_eq_right (Nat.le_of_lt missed), List.getElem?_eq_none beyond,
      Option.none_or, List.getLast?_eq_getElem?, List.length_cons, Nat.add_sub_cancel,
      List.getElem?_eq_getElem (show rest.length < (first :: rest).length from Nat.lt_succ_self _),
      Option.bind_some]
  · simp only [Nat.min_eq_left reached,
      List.getElem?_eq_getElem (show collector.target < (first :: rest).length by
        rw [List.length_cons]; omega), Option.some_or, Option.bind_some]

/-- However its bytes arrive, the output of a program has one segment for each boundary and one
before them; what is kept is that of the target, or of where the program stopped; and blanks alone
are no output. -/
theorem segments_of_stream (target : Nat) {first : Text} {rest : List (Text × Text)}
    {chunks : List (List UInt8)} (unmarked : ∀ output ∈ outputs first rest, ¬ marker <:+: output)
    (separated : ∀ part ∈ rest, part.1 ∈ separators)
    (received : chunks.flatten = Utf8.encode (stream first rest)) :
    let collector := chunks.foldl push (new target)
    collector.allSegments = outputs first rest ∧
      (∃ output, (outputs first rest)[min target rest.length]? = some output ∧
        collector.final? = if output.isBlank then none else some output.trim) ∧
      (collector.hasOutput = true ↔ ∃ output ∈ outputs first rest, output.isBlank = false) := by
  intro collector
  have state : collector = ⟨target, Utf8.encode (stream first rest)⟩ := by
    rw [← received]
    exact foldl_push (new target) chunks
  have parts : collector.allSegments = outputs first rest := by
    rw [allSegments, state, decode_encode, split_stream unmarked separated]
  refine ⟨parts, ?_, ?_⟩
  · obtain ⟨output, found, final⟩ := final?_eq parts
    rw [List.length_map, state] at found
    exact ⟨output, found, by rw [final, shown?_eq]⟩
  · rw [hasOutput_iff, parts]

/-- The bytes arrive in two chunks that cut a character, and the last output is blank. -/
theorem segments_of_stream_cut_character :
    let rest : List (Text × Text) := [("\n", "é!\n"), ("\r\n", " ")]
    let bytes := Utf8.encode (stream "note\n" rest)
    let collector := [bytes.take 26, bytes.drop 26].foldl push (new 1)
    (∀ output ∈ outputs "note\n" rest, ¬ marker <:+: output) ∧
      (∀ part ∈ rest, part.1 ∈ separators) ∧
      decode (bytes.take 26) = "note\n" ++ marker ++ "\n" ∧
      collector.allSegments = outputs "note\n" rest ∧ collector.final? = some ("é!" : Text) := by
  intro rest bytes collector
  have unmarked : ∀ output ∈ outputs "note\n" rest, ¬ marker <:+: output := by decide
  have separated : ∀ part ∈ rest, part.1 ∈ separators := by decide
  have received : [bytes.take 26, bytes.drop 26].flatten = Utf8.encode (stream "note\n" rest) := by
    rw [List.flatten_cons, List.flatten_singleton, List.take_append_drop]
  obtain ⟨segments, ⟨output, found, final⟩, _⟩ :=
    segments_of_stream 1 unmarked separated received
  obtain rfl : output = "é!\n" := (Option.some_inj.mp found).symm
  refine ⟨unmarked, separated, by decide, segments, ?_⟩
  rw [final]
  decide

end Collector

end Notebook.Output
