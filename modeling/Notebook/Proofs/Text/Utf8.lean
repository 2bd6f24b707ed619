import Mathlib.Tactic.SplitIfs
import Notebook.Text.Utf8

/-! # Decoding what was encoded

The bytes of a character are read as that character, so the bytes of a text are read as that text.
As the decoder reads byte by byte, the first bytes of a text give its first characters, wherever
they are cut off.
-/

namespace Notebook.Utf8

/-! ## Bytes of one character -/

section Character

variable {value : Nat}

private theorem toNat_ofNat {n : Nat} (bound : n < 256) : (UInt8.ofNat n).toNat = n := by
  rw [UInt8.toNat_ofNat', Nat.mod_eq_of_lt bound]

theorem lead_two (low : 0x80 ≤ value) (high : value ≤ 0x7FF) :
    lead (value / 64 + 0xC0) = .start ⟨1, 0x80, 0xBF, value / 64⟩ := by
  rw [lead, if_neg (by omega), if_neg (by omega), if_pos (by omega), Nat.add_sub_cancel]

/-- The bounds of the second byte keep out what two bytes can hold, and the surrogates. -/
theorem lead_three (low : 0x800 ≤ value) (high : value ≤ 0xFFFF)
    (valid : value < 0xD800 ∨ 0xDFFF < value) :
    ∃ least greatest, lead (value / 4096 + 0xE0) = .start ⟨2, least, greatest, value / 4096⟩ ∧
      least ≤ value / 64 % 64 + 0x80 ∧ value / 64 % 64 + 0x80 ≤ greatest := by
  rw [lead, if_neg (by omega), if_neg (by omega), if_neg (by omega)]
  by_cases first : value / 4096 = 0
  · rw [first, if_pos rfl]
    exact ⟨_, _, rfl, by omega, by omega⟩
  rw [if_neg (by omega)]
  by_cases surrogate : value / 4096 = 0xD
  · rw [surrogate, if_pos rfl]
    exact ⟨_, _, rfl, by omega, by omega⟩
  rw [if_neg (by omega), if_pos (by omega), Nat.add_sub_cancel]
  exact ⟨_, _, rfl, by omega, by omega⟩

/-- The bounds of the second byte keep out what three bytes can hold, and what is beyond Unicode. -/
theorem lead_four (low : 0x10000 ≤ value) (high : value ≤ 0x10FFFF) :
    ∃ least greatest, lead (value / 262144 + 0xF0) = .start ⟨3, least, greatest, value / 262144⟩ ∧
      least ≤ value / 4096 % 64 + 0x80 ∧ value / 4096 % 64 + 0x80 ≤ greatest := by
  rw [lead, if_neg (by omega), if_neg (by omega), if_neg (by omega), if_neg (by omega),
    if_neg (by omega), if_neg (by omega)]
  by_cases first : value / 262144 = 0
  · rw [first, if_pos rfl]
    exact ⟨_, _, rfl, by omega, by omega⟩
  rw [if_neg (by omega)]
  by_cases last : value / 262144 = 4
  · rw [last, if_neg (by omega), if_pos rfl]
    exact ⟨_, _, rfl, by omega, by omega⟩
  rw [if_pos (by omega), Nat.add_sub_cancel]
  exact ⟨_, _, rfl, by omega, by omega⟩

end Character

section Bytes

variable {missing low high value part : Nat} {rest : List UInt8}

theorem run_start {byte : Nat} {pending : Pending} (bound : byte < 256)
    (starts : lead byte = .start pending) :
    run none (UInt8.ofNat byte :: rest) = run (some pending) rest := by
  simp [run, step, first, toNat_ofNat bound, starts]

/-- A byte that may come next adds six bits, and completes the character if it is the last. -/
theorem step_next (bound : part < 64) (above : low ≤ part + 0x80) (below : part + 0x80 ≤ high) :
    step (some ⟨missing, low, high, value⟩) (UInt8.ofNat (part + 0x80)) =
      if missing ≤ 1 then ⟨[some (Char.ofNat (value * 64 + part))], none⟩
      else ⟨[], some ⟨missing - 1, 0x80, 0xBF, value * 64 + part⟩⟩ := by
  rw [step]
  simp only [toNat_ofNat (show part + 0x80 < 256 by omega)]
  rw [if_pos ⟨above, below⟩, Nat.add_sub_cancel]

theorem run_last (bound : part < 64) (above : low ≤ part + 0x80) (below : part + 0x80 ≤ high) :
    run (some ⟨1, low, high, value⟩) [UInt8.ofNat (part + 0x80)] =
      ⟨[some (Char.ofNat (value * 64 + part))], none⟩ := by
  rw [run, step_next bound above below, if_pos (Nat.le_refl 1)]
  rfl

theorem run_inner (bound : part < 64) (above : low ≤ part + 0x80) (below : part + 0x80 ≤ high)
    (more : 1 < missing) :
    run (some ⟨missing, low, high, value⟩) (UInt8.ofNat (part + 0x80) :: rest) =
      run (some ⟨missing - 1, 0x80, 0xBF, value * 64 + part⟩) rest := by
  rw [run, step_next bound above below, if_neg (Nat.not_le.mpr more)]
  rfl

end Bytes

theorem utf8EncodeChar_eq (c : Char) :
    String.utf8EncodeChar c =
      if c.toNat ≤ 0x7F then [UInt8.ofNat c.toNat]
      else if c.toNat ≤ 0x7FF then
        [UInt8.ofNat (c.toNat / 64 % 32 + 0xC0), UInt8.ofNat (c.toNat % 64 + 0x80)]
      else if c.toNat ≤ 0xFFFF then
        [UInt8.ofNat (c.toNat / 4096 % 16 + 0xE0), UInt8.ofNat (c.toNat / 64 % 64 + 0x80),
          UInt8.ofNat (c.toNat % 64 + 0x80)]
      else
        [UInt8.ofNat (c.toNat / 262144 % 8 + 0xF0), UInt8.ofNat (c.toNat / 4096 % 64 + 0x80),
          UInt8.ofNat (c.toNat / 64 % 64 + 0x80), UInt8.ofNat (c.toNat % 64 + 0x80)] :=
  rfl

/-- The bytes of a character are read as the character. -/
theorem run_encodeChar (c : Char) : run none (String.utf8EncodeChar c) = ⟨[some c], none⟩ := by
  have same := Char.ofNat_toNat c
  have valid : c.toNat < 0xD800 ∨ 0xDFFF < c.toNat ∧ c.toNat < 0x110000 := c.valid
  rw [utf8EncodeChar_eq]
  generalize c.toNat = value at same valid
  split_ifs with one two three
  · simp [run, step, first, toNat_ofNat (show value < 256 by omega), lead,
      show value < 0x80 by omega, same]
  · rw [Nat.mod_eq_of_lt (by omega : value / 64 < 32),
      run_start (by omega) (lead_two (by omega) two),
      run_last (by omega) (by omega) (by omega), show value / 64 * 64 + value % 64 = value by omega,
      same]
  · obtain ⟨least, greatest, starts, above, below⟩ := lead_three (by omega) three (by omega)
    rw [Nat.mod_eq_of_lt (by omega : value / 4096 < 16), run_start (by omega) starts,
      run_inner (by omega) above below (by omega), run_last (by omega) (by omega) (by omega),
      show (value / 4096 * 64 + value / 64 % 64) * 64 + value % 64 = value by omega, same]
  · have four : 0xFFFF < value := by omega
    obtain ⟨least, greatest, starts, above, below⟩ := lead_four four (by omega)
    rw [Nat.mod_eq_of_lt (by omega : value / 262144 < 8), run_start (by omega) starts,
      run_inner (by omega) above below (by omega),
      run_inner (by omega) (by omega) (by omega) (by omega),
      run_last (by omega) (by omega) (by omega),
      show ((value / 262144 * 64 + value / 4096 % 64) * 64 + value / 64 % 64) * 64 + value % 64 =
        value by omega, same]

/-- A character of ASCII is one byte; the bytes of any other are none of ASCII. -/
theorem encodeChar_cases (c : Char) :
    c.toNat < 128 ∧ String.utf8EncodeChar c = [UInt8.ofNat c.toNat] ∨
      128 ≤ c.toNat ∧ ∀ byte ∈ String.utf8EncodeChar c, 128 ≤ byte.toNat := by
  have valid : c.toNat < 0xD800 ∨ 0xDFFF < c.toNat ∧ c.toNat < 0x110000 := c.valid
  have above {high low : Nat} (least : 128 ≤ high) (bound : high + low < 256) :
      128 ≤ (UInt8.ofNat (low + high)).toNat := by
    rw [toNat_ofNat (by omega)]
    omega
  rw [utf8EncodeChar_eq]
  split_ifs with one two three
  · exact .inl ⟨by omega, rfl⟩
  · refine .inr ⟨by omega, ?_⟩
    rw [List.forall_mem_cons, List.forall_mem_singleton]
    exact ⟨above (by omega) (by omega), above (by omega) (by omega)⟩
  · refine .inr ⟨by omega, ?_⟩
    rw [List.forall_mem_cons, List.forall_mem_cons, List.forall_mem_singleton]
    exact ⟨above (by omega) (by omega), above (by omega) (by omega), above (by omega) (by omega)⟩
  · refine .inr ⟨by omega, ?_⟩
    rw [List.forall_mem_cons, List.forall_mem_cons, List.forall_mem_cons, List.forall_mem_singleton]
    exact ⟨above (by omega) (by omega), above (by omega) (by omega), above (by omega) (by omega),
      above (by omega) (by omega)⟩

/-! ## Bytes of a text -/

theorem encode_append (text rest : Text) : encode (text ++ rest) = encode text ++ encode rest :=
  List.flatMap_append

theorem encode_cons (c : Char) (text : Text) :
    encode (c :: text) = String.utf8EncodeChar c ++ encode text :=
  rfl

theorem length_encode (text : Text) : (encode text).length = text.byteLength := by
  have counted : ∀ total, text.foldl (fun total c => total + c.utf8Size) total =
      total + (encode text).length := by
    induction text with
    | nil => exact fun _ => rfl
    | cons c text ih =>
      intro total
      rw [List.foldl_cons, ih, encode_cons, List.length_append, String.length_utf8EncodeChar,
        Nat.add_assoc]
  rw [Text.byteLength, counted, Nat.zero_add]

theorem byteLength_cons (c : Char) (text : Text) :
    Text.byteLength (c :: text) = c.utf8Size + text.byteLength := by
  rw [← length_encode, encode_cons, List.length_append, String.length_utf8EncodeChar, length_encode]

theorem byteLength_append (text rest : Text) :
    (text ++ rest : Text).byteLength = text.byteLength + rest.byteLength := by
  rw [← length_encode, encode_append, List.length_append, length_encode, length_encode]

theorem run_encode (text : Text) : run none (encode text) = ⟨text.map some, none⟩ := by
  induction text with
  | nil => rfl
  | cons c text ih =>
    rw [encode] at ih ⊢
    rw [List.flatMap_cons, run_append, run_encodeChar, ih]
    rfl

/-- A text is read as it was encoded. -/
theorem decode?_encode (text : Text) : decode? (encode text) = some text := by
  rw [decode?, run_encode]
  simp [List.filterMap_map]

/-- More bytes give more characters and change none that are there. -/
theorem chars_run_prefix {bytes longer : List UInt8} (first : bytes <+: longer) :
    (run none bytes).chars <+: (run none longer).chars := by
  obtain ⟨more, rfl⟩ := first
  rw [run_append]
  exact List.prefix_append _ _

/-- The first bytes of a text hold no malformed sequence. -/
theorem chars_run_of_prefix {text : Text} {bytes : List UInt8} (first : bytes <+: encode text) :
    ∃ start : Text, start <+: text ∧ (run none bytes).chars = start.map some := by
  have read := chars_run_prefix first
  rw [run_encode] at read
  refine ⟨text.take (run none bytes).chars.length, List.take_prefix _ _, ?_⟩
  rw [List.map_take]
  exact List.prefix_iff_eq_take.mp read

end Notebook.Utf8
