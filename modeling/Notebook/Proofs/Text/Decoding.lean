import Mathlib.Data.List.Infix
import Notebook.Proofs.Text.Utf8

/-! # Bytes that were decoded

What the decoder has under way is the beginning of the bytes of a character, and what it completes
are all bytes of one. So bytes without a malformed sequence are the beginning of the bytes of a
text, and a character that is cut off at the end is read once the rest of its bytes has come.
-/

namespace Notebook.Utf8

/-! ## First bytes -/

section Lead

variable {byte : Nat} {pending : Pending}

/-- The first byte of a longer character: it fixes how many bytes follow and bounds the next. -/
theorem lead_eq_start (starts : lead byte = .start pending) :
    0x80 ≤ pending.low ∧ pending.low ≤ pending.high ∧ pending.high ≤ 0xBF ∧
      ((0xC2 ≤ byte ∧ byte < 0xE0 ∧ pending.missing = 1 ∧ pending.value = byte - 0xC0) ∨
        (0xE0 ≤ byte ∧ byte < 0xF0 ∧ pending.missing = 2 ∧ pending.value = byte - 0xE0 ∧
          (byte = 0xE0 → pending.low = 0xA0) ∧ (byte = 0xED → pending.high = 0x9F)) ∨
        (0xF0 ≤ byte ∧ byte < 0xF5 ∧ pending.missing = 3 ∧ pending.value = byte - 0xF0 ∧
          (byte = 0xF0 → pending.low = 0x90) ∧ (byte = 0xF4 → pending.high = 0x8F))) := by
  revert starts
  fun_cases lead byte <;> intro starts <;> cases starts <;> dsimp only <;> omega

theorem lead_eq_whole {c : Char} (whole : lead byte = .whole c) :
    byte < 0x80 ∧ c = Char.ofNat byte := by
  revert whole
  fun_cases lead byte with
  | case1 ascii =>
    rintro ⟨⟩
    exact ⟨ascii, rfl⟩
  | _ => exact nofun

end Lead

/-! ## Bytes of one character -/

section Character

variable {one two three four : Nat}

theorem toNat_ofNat_of_valid {value : Nat}
    (valid : value < 0xD800 ∨ 0xDFFF < value ∧ value < 0x110000) :
    (Char.ofNat value).toNat = value := by
  rw [Char.ofNat, dif_pos valid]
  rfl

theorem encodeChar_one (bound : one < 0x80) :
    String.utf8EncodeChar (Char.ofNat one) = [UInt8.ofNat one] := by
  rw [utf8EncodeChar_eq, toNat_ofNat_of_valid (by omega), if_pos (by omega)]

theorem encodeChar_two (low : 0xC2 ≤ one) (high : one < 0xE0) (next : 0x80 ≤ two ∧ two ≤ 0xBF) :
    String.utf8EncodeChar (Char.ofNat ((one - 0xC0) * 64 + (two - 0x80))) =
      [UInt8.ofNat one, UInt8.ofNat two] := by
  rw [utf8EncodeChar_eq, toNat_ofNat_of_valid (by omega), if_neg (by omega), if_pos (by omega)]
  congr <;> omega

theorem encodeChar_three (low : 0xE0 ≤ one) (high : one < 0xF0) (next : 0x80 ≤ two ∧ two ≤ 0xBF)
    (least : one = 0xE0 → 0xA0 ≤ two) (greatest : one = 0xED → two ≤ 0x9F)
    (last : 0x80 ≤ three ∧ three ≤ 0xBF) :
    String.utf8EncodeChar (Char.ofNat
        (((one - 0xE0) * 64 + (two - 0x80)) * 64 + (three - 0x80))) =
      [UInt8.ofNat one, UInt8.ofNat two, UInt8.ofNat three] := by
  rw [utf8EncodeChar_eq, toNat_ofNat_of_valid (by omega), if_neg (by omega), if_neg (by omega),
    if_pos (by omega)]
  congr <;> omega

theorem encodeChar_four (low : 0xF0 ≤ one) (high : one < 0xF5) (next : 0x80 ≤ two ∧ two ≤ 0xBF)
    (least : one = 0xF0 → 0x90 ≤ two) (greatest : one = 0xF4 → two ≤ 0x8F)
    (third : 0x80 ≤ three ∧ three ≤ 0xBF) (last : 0x80 ≤ four ∧ four ≤ 0xBF) :
    String.utf8EncodeChar (Char.ofNat
        ((((one - 0xF0) * 64 + (two - 0x80)) * 64 + (three - 0x80)) * 64 + (four - 0x80))) =
      [UInt8.ofNat one, UInt8.ofNat two, UInt8.ofNat three, UInt8.ofNat four] := by
  rw [utf8EncodeChar_eq, toNat_ofNat_of_valid (by omega), if_neg (by omega), if_neg (by omega),
    if_neg (by omega)]
  congr <;> omega

end Character

/-- Some but not all of the bytes of a character, and the others. -/
structure SplitsChar (c : Char) (part rest : List UInt8) : Prop where
  begun : part ≠ []
  unfinished : rest ≠ []
  bytes : String.utf8EncodeChar c = part ++ rest

/-- The bytes of the character under way. -/
inductive Under : List UInt8 → Option Pending → Prop where
  | between : Under [] none
  | start {byte : UInt8} {pending : Pending} (starts : lead byte.toNat = .start pending) :
      Under [byte] (some pending)
  | more {part : List UInt8} {byte : UInt8} {pending : Pending} (under : Under part (some pending))
      (many : 1 < pending.missing) (above : pending.low ≤ byte.toNat)
      (below : byte.toNat ≤ pending.high) :
      Under (part ++ [byte])
        (some ⟨pending.missing - 1, 0x80, 0xBF, pending.value * 64 + (byte.toNat - 0x80)⟩)

namespace Under

variable {part : List UInt8} {current : Option Pending} {pending : Pending} {byte : UInt8}

theorem bounds (under : Under part current) :
    ∀ pending ∈ current, 0x80 ≤ pending.low ∧ pending.low ≤ pending.high ∧ pending.high ≤ 0xBF ∧
      1 ≤ pending.missing ∧ pending.missing ≤ 3 := by
  induction under with
  | between => exact nofun
  | start starts =>
    rintro pending ⟨⟩
    have first := lead_eq_start starts
    omega
  | more under many above below ih =>
    rintro pending ⟨⟩
    have before := ih _ rfl
    dsimp only
    omega

/-- The last byte completes the character. -/
theorem encodeChar (under : Under part (some pending)) (last : pending.missing ≤ 1)
    (above : pending.low ≤ byte.toNat) (below : byte.toNat ≤ pending.high) :
    String.utf8EncodeChar (Char.ofNat (pending.value * 64 + (byte.toNat - 0x80))) =
      part ++ [byte] := by
  cases under with
  | @start one pending starts =>
    have first := lead_eq_start starts
    have value : pending.value = one.toNat - 0xC0 := by omega
    rw [value, encodeChar_two (by omega) (by omega) (by omega), UInt8.ofNat_toNat,
      UInt8.ofNat_toNat]
    rfl
  | @more part before pending under many aboveBefore belowBefore =>
    cases under with
    | @start one pending starts =>
      dsimp only at last above below ⊢
      have first := lead_eq_start starts
      have value : pending.value = one.toNat - 0xE0 := by omega
      rw [value, encodeChar_three (by omega) (by omega) (by omega) (by omega) (by omega) (by omega),
        UInt8.ofNat_toNat, UInt8.ofNat_toNat, UInt8.ofNat_toNat]
      rfl
    | @more part two pending under many aboveTwo belowTwo =>
      dsimp only at last above below many aboveBefore belowBefore ⊢
      cases under with
      | @start one pending starts =>
        have first := lead_eq_start starts
        have value : pending.value = one.toNat - 0xF0 := by omega
        rw [value, encodeChar_four (by omega) (by omega) (by omega) (by omega) (by omega) (by omega)
          (by omega), UInt8.ofNat_toNat, UInt8.ofNat_toNat, UInt8.ofNat_toNat, UInt8.ofNat_toNat]
        rfl
      | more under =>
        -- No character has five bytes.
        have first := under.bounds _ rfl
        dsimp only at *
        omega

theorem exists_pending (under : Under part current) (filled : part ≠ []) :
    ∃ pending, current = some pending := by
  cases under with
  | between => exact absurd rfl filled
  | start => exact ⟨_, rfl⟩
  | more => exact ⟨_, rfl⟩

theorem ne_nil (under : Under part (some pending)) : part ≠ [] := by
  cases under with
  | start => exact List.cons_ne_nil _ _
  | more => exact List.append_ne_nil_of_right_ne_nil _ (List.cons_ne_nil _ _)

/-- The decoder has nothing to show for the bytes of a character under way. -/
theorem run_eq (under : Under part current) : run none part = ⟨[], current⟩ := by
  induction under with
  | between => rfl
  | start starts => simp [run, step, first, starts]
  | more under many above below ih =>
    rw [run_append, ih]
    simp [run, step, above, below, Nat.not_le.mpr many]

/-- Another byte goes on with the character, completes it or shows that what came before is
malformed. -/
theorem step_cases (under : Under part current) (byte : UInt8) :
    (step current byte).chars = [] ∧ Under (part ++ [byte]) (step current byte).pending ∨
      (∃ c, step current byte = ⟨[some c], none⟩ ∧ String.utf8EncodeChar c = part ++ [byte]) ∨
      (step current byte).chars.head? = some none ∧
        ∃ dropped rest, part ++ [byte] = dropped ++ rest ∧ Under rest (step current byte).pending := by
  have alone : (first byte).chars = [] ∧ Under [byte] (first byte).pending ∨
      (∃ c, first byte = ⟨[some c], none⟩ ∧ String.utf8EncodeChar c = [byte]) ∨
      first byte = ⟨[none], none⟩ := by
    cases leads : lead byte.toNat with
    | whole c =>
      obtain ⟨ascii, rfl⟩ := lead_eq_whole leads
      refine .inr (.inl ⟨_, by rw [first, leads], ?_⟩)
      rw [encodeChar_one ascii, UInt8.ofNat_toNat]
    | start pending =>
      rw [first, leads]
      exact .inl ⟨rfl, .start leads⟩
    | malformed => exact .inr (.inr (by rw [first, leads]))
  have again : ∃ dropped rest, part ++ [byte] = dropped ++ rest ∧
      Under rest (first byte).pending := by
    obtain ⟨_, under⟩ | ⟨c, whole, _⟩ | malformed := alone
    · exact ⟨part, [byte], rfl, under⟩
    · exact ⟨part ++ [byte], [], (List.append_nil _).symm, whole ▸ .between⟩
    · exact ⟨part ++ [byte], [], (List.append_nil _).symm, malformed ▸ .between⟩
  cases current with
  | none =>
    cases under with
    | between =>
      rw [step, List.nil_append] at *
      obtain started | whole | malformed := alone
      · exact .inl started
      · exact .inr (.inl whole)
      · exact .inr (.inr ⟨by rw [malformed]; rfl, again⟩)
  | some pending =>
    rw [step]
    split_ifs with fits last
    · exact .inr (.inl ⟨_, rfl, under.encodeChar last fits.1 fits.2⟩)
    · exact .inl ⟨rfl, .more under (Nat.not_le.mp last) fits.1 fits.2⟩
    · exact .inr (.inr ⟨rfl, again⟩)

/-- Some bytes complete the character under way. -/
theorem exists_splitsChar (under : Under part (some pending)) :
    ∃ c rest, SplitsChar c part rest := by
  have bounds := under.bounds pending rfl
  generalize missing_eq : pending.missing = missing at *
  induction missing generalizing part pending with
  | zero => omega
  | succ missing ih =>
    have next : (UInt8.ofNat pending.low).toNat = pending.low := by
      rw [UInt8.toNat_ofNat', Nat.mod_eq_of_lt (by omega)]
    by_cases last : pending.missing ≤ 1
    · exact ⟨_, _, under.ne_nil, List.cons_ne_nil _ _,
        under.encodeChar last (Nat.le_of_eq next.symm) (by omega)⟩
    · have later := Under.more under (Nat.not_le.mp last) (Nat.le_of_eq next.symm) (by omega)
      obtain ⟨c, rest, splits⟩ := ih later (by dsimp only; omega) (by dsimp only; omega)
      exact ⟨c, UInt8.ofNat pending.low :: rest, under.ne_nil, List.cons_ne_nil _ _, by
        rw [splits.bytes, List.append_assoc, List.singleton_append]⟩

/-- What comes next completes the character under way if and only if it starts with the rest of its
bytes. -/
theorem head?_chars_run_iff {c : Char} {more : List UInt8} (under : Under part (some pending)) :
    (run (some pending) more).chars.head? = some (some c) ↔
      ∃ rest, rest <+: more ∧ SplitsChar c part rest := by
  constructor
  · intro shown
    induction more generalizing part pending with
    | nil => cases shown
    | cons byte more ih =>
      rw [run] at shown
      dsimp only at shown
      obtain ⟨silent, later⟩ | ⟨d, whole, bytes⟩ | ⟨malformed, _⟩ := under.step_cases byte
      · rw [silent, List.nil_append] at shown
        obtain ⟨next, same⟩ := later.exists_pending (List.append_ne_nil_of_right_ne_nil _ (by simp))
        rw [same] at later shown
        obtain ⟨rest, first, splits⟩ := ih later shown
        exact ⟨byte :: rest, List.cons_prefix_cons.mpr ⟨rfl, first⟩, under.ne_nil,
          List.cons_ne_nil _ _, by rw [splits.bytes, List.append_assoc, List.singleton_append]⟩
      · rw [whole] at shown
        cases shown
        exact ⟨[byte], List.prefix_append [byte] more, under.ne_nil, List.cons_ne_nil _ _, bytes⟩
      · rw [List.head?_append, malformed] at shown
        cases shown
  · rintro ⟨rest, ⟨more, rfl⟩, splits⟩
    have read := run_encodeChar c
    rw [splits.bytes, run_append, under.run_eq, List.nil_append] at read
    obtain ⟨chars, _⟩ := Decoding.mk.inj read
    rw [run_append, chars]
    rfl

end Under

/-! ## All bytes -/

/-- At the end of the bytes is the character under way; if no sequence ahead of it is malformed,
they are the bytes of a text. -/
theorem exists_under (bytes : List UInt8) :
    ∃ start part, bytes = start ++ part ∧ Under part (run none bytes).pending ∧
      ∀ text : Text, (run none bytes).chars = text.map some → start = encode text := by
  induction bytes using List.reverseRecOn with
  | nil => exact ⟨[], [], rfl, .between, fun text shown => by
      rw [List.map_eq_nil_iff.mp shown.symm]; rfl⟩
  | append_singleton bytes byte ih =>
    obtain ⟨start, part, split, under, encoded⟩ := ih
    have next : run none (bytes ++ [byte]) =
        ⟨(run none bytes).chars ++ (step (run none bytes).pending byte).chars,
          (step (run none bytes).pending byte).pending⟩ := by
      rw [run_append, run, run, List.append_nil]
    rw [next]
    dsimp only
    obtain ⟨silent, later⟩ | ⟨c, whole, ends⟩ | ⟨malformed, dropped, rest, parts, later⟩ :=
      under.step_cases byte
    · refine ⟨start, part ++ [byte], by rw [split, List.append_assoc], later, fun text shown => ?_⟩
      rw [silent, List.append_nil] at shown
      exact encoded text shown
    · refine ⟨bytes ++ [byte], [], (List.append_nil _).symm, whole ▸ .between, fun text shown => ?_⟩
      rw [whole] at shown
      obtain ⟨before, last, rfl, first, final⟩ := List.map_eq_append_iff.mp shown.symm
      obtain ⟨d, rfl, same⟩ := List.map_eq_singleton_iff.mp final
      obtain rfl := Option.some_inj.mp same
      rw [encode_append, encode_cons, ends, split, encoded before first.symm]
      simp [encode]
    · refine ⟨start ++ dropped, rest, by rw [split, List.append_assoc, parts, List.append_assoc],
        later, fun text shown => ?_⟩
      have member : none ∈ (run none bytes).chars ++ (step (run none bytes).pending byte).chars :=
        List.mem_append_right _ (List.mem_of_mem_head? malformed)
      rw [shown] at member
      simp at member

/-- As long as nothing more is read, the character is under way. -/
theorem Under.isSome_pending_run {part more : List UInt8} {pending : Pending}
    (under : Under part (some pending)) (silent : (run (some pending) more).chars = []) :
    (run (some pending) more).pending.isSome = true := by
  obtain ⟨start, later, split, whole, encoded⟩ := exists_under (part ++ more)
  rw [run_append, under.run_eq] at whole encoded
  have nothing : start = [] := encoded [] silent
  have filled : later ≠ [] := by
    rintro rfl
    rw [nothing] at split
    exact under.ne_nil (List.append_eq_nil_iff.mp split).1
  obtain ⟨next, same⟩ := whole.exists_pending filled
  exact Option.isSome_iff_exists.mpr ⟨next, same⟩

theorem exists_map_some {chars : List (Option Char)} (wellFormed : none ∉ chars) :
    ∃ text : Text, chars = text.map some := by
  refine ⟨chars.filterMap id, ?_⟩
  rw [List.map_filterMap_some_eq_filter_map_isSome, List.map_id, eq_comm, List.filter_eq_self]
  intro char? member
  exact Option.isSome_iff_ne_none.mpr fun same => wellFormed (same ▸ member)

/-- The bytes are the beginning of the bytes of a text. -/
def IsWellFormed (bytes : List UInt8) : Prop :=
  ∃ text : Text, bytes <+: encode text

theorem none_mem_chars_run_iff {bytes : List UInt8} :
    none ∈ (run none bytes).chars ↔ ¬IsWellFormed bytes := by
  constructor
  · rintro malformed ⟨text, first⟩
    obtain ⟨start, _, shown⟩ := chars_run_of_prefix first
    rw [shown] at malformed
    simp at malformed
  · contrapose!
    intro wellFormed
    obtain ⟨text, shown⟩ := exists_map_some wellFormed
    obtain ⟨start, part, rfl, under, encoded⟩ := exists_under bytes
    rw [IsWellFormed, encoded text shown]
    cases pending : (run none (start ++ part)).pending with
    | none =>
      rw [pending] at under
      cases under with
      | between => exact ⟨text, by rw [List.append_nil]⟩
    | some pending =>
      rw [pending] at under
      obtain ⟨c, rest, splits⟩ := under.exists_splitsChar
      refine ⟨text ++ [c], ?_⟩
      rw [encode_append, encode_cons, splits.bytes, List.append_assoc, List.prefix_append_right_inj]
      exact List.prefix_append _ _

/-- The first byte of a longer character is no continuation of another one. -/
theorem Under.run_behind {before part : List UInt8} {current next : Option Pending}
    (other : Under before current) (under : Under part next) (filled : part ≠ []) :
    run current part = ⟨if current.isSome then [none] else [], next⟩ := by
  induction under with
  | between => exact absurd rfl filled
  | @start byte pending starts =>
    have alone : first byte = ⟨[], some pending⟩ := by rw [first, starts]
    rw [run, run, List.append_nil]
    cases current with
    | none => exact alone
    | some pending =>
      have bounds := other.bounds pending rfl
      have leads := lead_eq_start starts
      rw [step, if_neg (by omega), alone]
      rfl
  | @more part byte pending under many above below ih =>
    rw [run_append, ih under.ne_nil]
    simp [run, step, above, below, Nat.not_le.mpr many]

/-- Bytes that end inside a character leave it under way, and what was under way ahead of it is
malformed. -/
theorem SplitsChar.run_eq {part rest : List UInt8} {c : Char} (splits : SplitsChar c part rest)
    (start : List UInt8) :
    ∃ pending, Under part (some pending) ∧ run none (start ++ part) =
      ⟨(run none start).chars ++ if (run none start).pending.isSome then [none] else [],
        some pending⟩ := by
  have read := run_encodeChar c
  rw [splits.bytes, run_append] at read
  obtain ⟨chars, _⟩ := Decoding.mk.inj read
  obtain ⟨ahead, behind, parts, under, encoded⟩ := exists_under part
  have nothing : ahead = [] := by
    obtain ⟨silent, _⟩ | ⟨whole, _⟩ := List.append_eq_singleton_iff.mp chars
    · exact encoded [] silent
    · have lengths := congrArg List.length parts
      rw [encoded [c] whole, encode_cons, splits.bytes, List.length_append, List.length_append,
        List.length_append] at lengths
      have more := List.length_pos_iff.mpr splits.unfinished
      omega
  rw [nothing, List.nil_append] at parts
  rw [← parts] at under
  obtain ⟨pending, same⟩ := under.exists_pending splits.begun
  rw [same] at under
  obtain ⟨_, _, _, other, _⟩ := exists_under start
  exact ⟨pending, under, by rw [run_append, other.run_behind under splits.begun]⟩

end Notebook.Utf8
