import Notebook.Text.Basic

/-! # UTF-8

Bytes are decoded one at a time. Between characters there is nothing pending; inside a character
the decoder knows how many bytes are missing and which byte may come next. A byte that may not come
next ends a malformed sequence, and is then read as a first byte, so that each malformed sequence
is as long as possible. The decoder is a fold, so the text of a longer input extends what a shorter
one gave.
-/

namespace Notebook.Utf8

/-- A character whose bytes have come in part. -/
structure Pending where
  /-- Bytes still to come. -/
  missing : Nat
  /-- Bounds of the next byte. -/
  low : Nat
  high : Nat
  /-- The bits read so far. -/
  value : Nat
  deriving DecidableEq, Repr

/-- A first byte: a whole character, the start of a longer one, or nothing that UTF-8 has. -/
inductive Lead where
  | whole (c : Char)
  | start (pending : Pending)
  | malformed

/-- Reads a first byte. -/
def lead (byte : Nat) : Lead :=
  if byte < 0x80 then .whole (Char.ofNat byte)
  else if byte < 0xC2 then .malformed
  else if byte < 0xE0 then .start ⟨1, 0x80, 0xBF, byte - 0xC0⟩
  else if byte = 0xE0 then .start ⟨2, 0xA0, 0xBF, 0⟩
  else if byte = 0xED then .start ⟨2, 0x80, 0x9F, 0xD⟩
  else if byte < 0xF0 then .start ⟨2, 0x80, 0xBF, byte - 0xE0⟩
  else if byte = 0xF0 then .start ⟨3, 0x90, 0xBF, 0⟩
  else if byte < 0xF4 then .start ⟨3, 0x80, 0xBF, byte - 0xF0⟩
  else if byte = 0xF4 then .start ⟨3, 0x80, 0x8F, 4⟩
  else .malformed

/-- What has been decoded, a missing character for each malformed sequence, and the character that
is under way. -/
structure Decoding where
  chars : List (Option Char)
  pending : Option Pending
  deriving DecidableEq, Repr

/-- Reads a byte between characters. -/
def first (byte : UInt8) : Decoding :=
  match lead byte.toNat with
  | .whole c => ⟨[some c], none⟩
  | .start pending => ⟨[], some pending⟩
  | .malformed => ⟨[none], none⟩

/-- Reads a byte: what it completes, and what is under way after it. -/
def step (pending : Option Pending) (byte : UInt8) : Decoding :=
  match pending with
  | none => first byte
  | some pending =>
    if pending.low ≤ byte.toNat ∧ byte.toNat ≤ pending.high then
      let value := pending.value * 64 + (byte.toNat - 0x80)
      if pending.missing ≤ 1 then ⟨[some (Char.ofNat value)], none⟩
      else ⟨[], some ⟨pending.missing - 1, 0x80, 0xBF, value⟩⟩
    else
      let next := first byte
      ⟨none :: next.chars, next.pending⟩

/-- Reads bytes after a character under way. -/
def run : Option Pending → List UInt8 → Decoding
  | pending, [] => ⟨[], pending⟩
  | pending, byte :: rest =>
    let next := step pending byte
    let later := run next.pending rest
    ⟨next.chars ++ later.chars, later.pending⟩

/-- What is shown for a malformed sequence. -/
def replacement : Char := '\ufffd'

/-- The text of bytes, with a replacement character for each malformed sequence. -/
def decodeLossy (bytes : List UInt8) : Text :=
  let read := run none bytes
  read.chars.map (·.getD replacement) ++ if read.pending.isSome then [replacement] else []

/-- The text of well-formed bytes. -/
def decode? (bytes : List UInt8) : Option Text :=
  let read := run none bytes
  if read.pending.isSome || read.chars.contains none then none else some (read.chars.filterMap id)

/-- The bytes of a text. -/
def encode (text : Text) : List UInt8 :=
  text.flatMap String.utf8EncodeChar

theorem run_append (pending : Option Pending) (bytes more : List UInt8) :
    run pending (bytes ++ more) =
      ⟨(run pending bytes).chars ++ (run (run pending bytes).pending more).chars,
        (run (run pending bytes).pending more).pending⟩ := by
  induction bytes generalizing pending with
  | nil => simp [run]
  | cons byte rest ih => simp [run, ih, List.append_assoc]

end Notebook.Utf8
