import Notebook.Proofs.Source.Declaration
import Notebook.Proofs.Source.Masking

/-! # Byte offsets

A program in memory has a text as bytes, and a place in it is an offset. Reading there can fail: the
offset may be beyond the end or within a character. The readers here are given offsets and check
each one, and a fault says which check was not met. On the bytes of a masked text they do what the
readers of glyphs do: what they look for is ASCII, and of any other character each byte is like the
character itself, so offsets are only ever read between glyphs or passed within one.
-/

namespace Notebook.Source

/-! ## Reads that can fail -/

/-- What goes wrong where a text is addressed by offsets. -/
inductive Fault where
  /-- An index that is not below the length. -/
  | index
  /-- A range that is reversed, goes beyond the end, or starts or ends within a character. -/
  | slice
  /-- A count of open brackets that falls below zero. -/
  | count
  /-- A search that goes on from where it is. -/
  | endless
  deriving DecidableEq, Repr

/-- The byte at an offset. -/
def byteAt (bytes : List UInt8) (offset : Nat) : Except Fault UInt8 :=
  match bytes[offset]? with
  | some byte => .ok byte
  | none => .error .index

/-- The bytes from an offset on. -/
def bytesFrom (bytes : List UInt8) (offset : Nat) : Except Fault (List UInt8) :=
  if offset ≤ bytes.length then .ok (bytes.drop offset) else .error .slice

/-- The text up to a byte offset and the text behind it, if a character or the end is there. -/
def cutAt? : Nat → Text → Option (Text × Text)
  | 0, text => some ([], text)
  | _ + 1, [] => none
  | offset + 1, c :: rest =>
    if c.utf8Size ≤ offset + 1 then
      (cutAt? (offset + 1 - c.utf8Size) rest).map fun (before, after) => (c :: before, after)
    else none

/-- The text between two byte offsets. -/
def slice (text : Text) (start stop : Nat) : Except Fault Text :=
  match cutAt? stop text with
  | none => .error .slice
  | some (through, _) =>
    match cutAt? start through with
    | none => .error .slice
    | some (_, part) => .ok part

theorem cutAt?_eq_some_iff {offset : Nat} {text before after : Text} :
    cutAt? offset text = some (before, after) ↔
      text = before ++ after ∧ before.byteLength = offset := by
  induction text generalizing offset before with
  | nil =>
    cases offset with
    | zero =>
      rw [cutAt?, Option.some_inj, Prod.mk.injEq]
      constructor
      · rintro ⟨rfl, rfl⟩
        exact ⟨rfl, rfl⟩
      · rintro ⟨split, _⟩
        obtain ⟨rfl, rfl⟩ := List.append_eq_nil_iff.mp split.symm
        exact ⟨rfl, rfl⟩
    | succ offset =>
      refine ⟨nofun, ?_⟩
      rintro ⟨split, length⟩
      obtain ⟨rfl, rfl⟩ := List.append_eq_nil_iff.mp split.symm
      cases length
  | cons c rest ih =>
    have size := c.utf8Size_pos
    cases offset with
    | zero =>
      rw [cutAt?, Option.some_inj, Prod.mk.injEq]
      constructor
      · rintro ⟨rfl, rfl⟩
        exact ⟨rfl, rfl⟩
      · rintro ⟨split, length⟩
        cases before with
        | nil => exact ⟨rfl, split⟩
        | cons d before =>
          have positive := d.utf8Size_pos
          rw [Utf8.byteLength_cons] at length
          omega
    | succ offset =>
      rw [cutAt?, Option.ite_none_right_eq_some, Option.map_eq_some_iff]
      constructor
      · rintro ⟨fits, ⟨start, behind⟩, cut, same⟩
        obtain ⟨rfl, rfl⟩ := Prod.mk.inj same
        obtain ⟨rfl, length⟩ := ih.mp cut
        refine ⟨rfl, ?_⟩
        rw [Utf8.byteLength_cons]
        omega
      · rintro ⟨split, length⟩
        cases before with
        | nil => cases length
        | cons d before =>
          obtain ⟨rfl, rfl⟩ := List.cons_eq_cons.mp split
          rw [Utf8.byteLength_cons] at length
          exact ⟨by omega, ⟨before, after⟩, ih.mpr ⟨rfl, by omega⟩, rfl⟩

/-- A part of a text is found by the offsets of its ends. -/
theorem slice_append (before part after : Text) :
    slice (before ++ part ++ after) before.byteLength (before ++ part : Text).byteLength =
      .ok part := by
  have stop : cutAt? (before ++ part : Text).byteLength (before ++ part ++ after) =
      some (before ++ part, after) := cutAt?_eq_some_iff.mpr ⟨rfl, rfl⟩
  have start : cutAt? before.byteLength (before ++ part) = some (before, part) :=
    cutAt?_eq_some_iff.mpr ⟨rfl, rfl⟩
  rw [slice, stop]
  dsimp only
  rw [start]

/-! ## Scanning bytes -/

/-- The first offset from the given one on with a byte that is not of the class. -/
def scanWhile (p : Char → Bool) (bytes : List UInt8) (offset : Nat) : Nat :=
  offset + ((bytes.drop offset).takeWhile fun byte => p (.ofUInt8 byte)).length

/-- The offset of the bracket that closes the first opening one, given how many are open and the
offset of the bytes. -/
def closeFrom (opening closing : Char) : Nat → Nat → List UInt8 → Except Fault (Option Nat)
  | _, _, [] => .ok none
  | depth, offset, byte :: rest =>
    if Char.ofUInt8 byte = opening then closeFrom opening closing (depth + 1) (offset + 1) rest
    else if Char.ofUInt8 byte = closing then
      if depth = 0 then .error .count
      else if depth = 1 then .ok (some offset)
      else closeFrom opening closing (depth - 1) (offset + 1) rest
    else closeFrom opening closing depth (offset + 1) rest

/-- The offset of the bracket that closes the one at an offset. -/
def matchingClose (opening closing : Char) (bytes : List UInt8) (openAt : Nat) :
    Except Fault (Option Nat) := do
  closeFrom opening closing 0 openAt (← bytesFrom bytes openAt)

/-! ## Bytes of glyphs -/

namespace Glyph

/-- The bytes that glyphs show. -/
def bytes (list : List Glyph) : List UInt8 :=
  Utf8.encode (shownText list)

/-- How many bytes glyphs show, which is the offset behind them. -/
def width (list : List Glyph) : Nat :=
  (shownText list).byteLength

@[simp] theorem bytes_append (list rest : List Glyph) :
    bytes (list ++ rest) = bytes list ++ bytes rest := by
  rw [bytes, shownText, List.map_append, Utf8.encode_append]
  rfl

theorem bytes_cons (glyph : Glyph) (list : List Glyph) :
    bytes (glyph :: list) = String.utf8EncodeChar glyph.shown ++ bytes list :=
  rfl

@[simp] theorem length_bytes (list : List Glyph) : (bytes list).length = width list :=
  Utf8.length_encode _

@[simp] theorem width_append (list rest : List Glyph) :
    width (list ++ rest) = width list + width rest := by
  rw [← length_bytes, bytes_append, List.length_append, length_bytes, length_bytes]

theorem width_cons (glyph : Glyph) (list : List Glyph) :
    width (glyph :: list) = glyph.shown.utf8Size + width list :=
  Utf8.byteLength_cons ..

theorem width_concat (list : List Glyph) (glyph : Glyph) :
    width (list ++ [glyph]) = width list + glyph.shown.utf8Size := by
  rw [width_append, width_cons]
  rfl

theorem width_pos {list : List Glyph} (filled : list ≠ []) : 0 < width list := by
  obtain ⟨glyph, rest, rfl⟩ := List.exists_cons_of_ne_nil filled
  have size := glyph.shown.utf8Size_pos
  rw [width_cons]
  omega

end Glyph

/-- The class has the same answer for all characters beyond ASCII. -/
def IsAsciiClass (p : Char → Bool) : Prop :=
  ∃ answer, ∀ c : Char, 128 ≤ c.toNat → p c = answer

/-- The phrase is ASCII. -/
def IsAscii (phrase : Text) : Prop :=
  ∀ c ∈ phrase, c.toNat < 128

/-- A byte is taken for a character of ASCII only where it is one. -/
theorem toNat_ofUInt8 (byte : UInt8) : (Char.ofUInt8 byte).toNat = byte.toNat :=
  UInt8.toNat_toUInt32 byte

theorem ofUInt8_ofNat {c : Char} (ascii : c.toNat < 128) :
    Char.ofUInt8 (UInt8.ofNat c.toNat) = c := by
  rw [← Char.toNat_inj, toNat_ofUInt8, UInt8.toNat_ofNat', Nat.mod_eq_of_lt (by omega)]

/-- Each byte of a character is of a class if the character is. -/
theorem class_ofUInt8 {p : Char → Bool} (ascii : IsAsciiClass p) {c : Char} {byte : UInt8}
    (member : byte ∈ String.utf8EncodeChar c) : p (.ofUInt8 byte) = p c := by
  rcases Utf8.encodeChar_cases c with ⟨bound, encoded⟩ | ⟨bound, beyond⟩
  · rw [encoded, List.mem_singleton] at member
    rw [member, ofUInt8_ofNat bound]
  · obtain ⟨answer, same⟩ := ascii
    rw [same c bound, same (.ofUInt8 byte) (toNat_ofUInt8 byte ▸ beyond byte member)]

theorem encodeChar_ne_nil (c : Char) : String.utf8EncodeChar c ≠ [] :=
  List.length_pos_iff.mp (String.length_utf8EncodeChar c ▸ c.utf8Size_pos)

theorem isAsciiClass_eq {c : Char} (ascii : c.toNat < 128) : IsAsciiClass (· = c) := by
  refine ⟨false, fun d beyond => decide_eq_false ?_⟩
  rintro rfl
  omega

theorem encodeChar_of_ascii {c : Char} (ascii : c.toNat < 128) :
    String.utf8EncodeChar c = [UInt8.ofNat c.toNat] := by
  rcases Utf8.encodeChar_cases c with ⟨_, encoded⟩ | ⟨beyond, _⟩
  · exact encoded
  · omega

section

variable {p : Char → Bool} {before list : List Glyph}

theorem bytesFrom_width (before list : List Glyph) :
    bytesFrom (Glyph.bytes (before ++ list)) (Glyph.width before) = .ok (Glyph.bytes list) := by
  rw [bytesFrom, if_pos, Glyph.bytes_append, ← Glyph.length_bytes, List.drop_left]
  rw [Glyph.length_bytes, Glyph.width_append]
  exact Nat.le_add_right ..

/-- The byte at the offset of a glyph is like the glyph. -/
theorem any_getElem?_width (ascii : IsAsciiClass p) (before list : List Glyph) :
    ((Glyph.bytes (before ++ list))[Glyph.width before]?.any fun byte => p (.ofUInt8 byte)) =
      list.head?.any fun glyph => p glyph.shown := by
  rw [Glyph.bytes_append, ← Glyph.length_bytes, List.getElem?_append_right (Nat.le_refl _),
    Nat.sub_self]
  cases list with
  | nil => rfl
  | cons glyph list =>
    obtain ⟨byte, others, bytes⟩ := List.exists_cons_of_ne_nil (encodeChar_ne_nil glyph.shown)
    rw [Glyph.bytes_cons, bytes]
    exact class_ofUInt8 ascii (bytes ▸ List.mem_cons_self ..)

/-- The byte ahead of an offset is like the glyph there. -/
theorem exists_byteAt (filled : before ≠ []) (list : List Glyph) :
    ∃ byte, byteAt (Glyph.bytes (before ++ list)) (Glyph.width before - 1) = .ok byte ∧
      ∀ p, IsAsciiClass p →
        (before.getLast?.any fun glyph => p glyph.shown) = p (.ofUInt8 byte) := by
  obtain ⟨start, glyph, rfl⟩ := (List.eq_nil_or_concat before).resolve_left filled
  obtain ⟨others, byte, bytes⟩ :=
    (List.eq_nil_or_concat (String.utf8EncodeChar glyph.shown)).resolve_left (encodeChar_ne_nil _)
  have shown : Glyph.bytes (start.concat glyph ++ list) =
      Glyph.bytes start ++ others ++ byte :: Glyph.bytes list := by
    rw [List.concat_eq_append, Glyph.bytes_append, Glyph.bytes_append, Glyph.bytes_cons, bytes]
    simp [Glyph.bytes, Glyph.shownText, Utf8.encode]
  have offset : Glyph.width (start.concat glyph) - 1 = (Glyph.bytes start ++ others).length := by
    rw [List.concat_eq_append, ← Glyph.length_bytes, Glyph.bytes_append, Glyph.bytes_cons, bytes]
    simp [Glyph.bytes, Glyph.shownText, Utf8.encode]
  refine ⟨byte, ?_, fun p ascii => ?_⟩
  · rw [byteAt, shown, offset, List.getElem?_append_right (Nat.le_refl _), Nat.sub_self]
    rfl
  · rw [List.concat_eq_append, List.getLast?_concat]
    exact (class_ofUInt8 ascii (by simp [bytes])).symm

theorem takeWhile_bytes (ascii : IsAsciiClass p) (list : List Glyph) :
    ((Glyph.bytes list).takeWhile fun byte => p (.ofUInt8 byte)) =
      Glyph.bytes (list.takeWhile fun glyph => p glyph.shown) := by
  induction list with
  | nil => rfl
  | cons glyph list ih =>
    cases isClass : p glyph.shown with
    | true =>
      rw [List.takeWhile_cons_of_pos (p := fun glyph : Glyph => p glyph.shown) isClass,
        Glyph.bytes_cons, Glyph.bytes_cons, List.takeWhile_append_of_pos, ih]
      exact fun byte member => (class_ofUInt8 ascii member).trans isClass
    | false =>
      obtain ⟨byte, others, bytes⟩ := List.exists_cons_of_ne_nil (encodeChar_ne_nil glyph.shown)
      have other : p (.ofUInt8 byte) = false :=
        (class_ofUInt8 ascii (bytes ▸ List.mem_cons_self ..)).trans isClass
      rw [List.takeWhile_cons_of_neg (by simp [isClass]), Glyph.bytes_cons, bytes, List.cons_append,
        List.takeWhile_cons_of_neg (by simp [other])]
      rfl

theorem scanWhile_width (ascii : IsAsciiClass p) (before list : List Glyph) :
    scanWhile p (Glyph.bytes (before ++ list)) (Glyph.width before) =
      Glyph.width (before ++ list.takeWhile fun glyph => p glyph.shown) := by
  rw [scanWhile, Glyph.bytes_append, ← Glyph.length_bytes, List.drop_left, takeWhile_bytes ascii,
    Glyph.length_bytes, Glyph.length_bytes, Glyph.width_append]

/-- A phrase of ASCII stands in the bytes where it is shown. -/
theorem isPrefixOf_bytes {phrase : Text} (ascii : IsAscii phrase) (list : List Glyph) :
    (Utf8.encode phrase).isPrefixOf (Glyph.bytes list) = (takePhrase? phrase list).isSome := by
  induction phrase generalizing list with
  | nil => rfl
  | cons c phrase ih =>
    obtain ⟨bound, others⟩ := List.forall_mem_cons.mp ascii
    rw [Utf8.encode_cons, encodeChar_of_ascii bound]
    cases list with
    | nil => rfl
    | cons glyph list =>
      rw [Glyph.bytes_cons, takePhrase?, List.singleton_append]
      split_ifs with here
      · rw [here, encodeChar_of_ascii bound, List.singleton_append, List.isPrefixOf_cons_cons,
          beq_self_eq_true, Bool.true_and, ih others, Option.isSome_map]
      · obtain ⟨byte, more, bytes⟩ := List.exists_cons_of_ne_nil (encodeChar_ne_nil glyph.shown)
        have other := class_ofUInt8 (isAsciiClass_eq bound) (bytes ▸ List.mem_cons_self ..)
        have differ : (UInt8.ofNat c.toNat == byte) = false := by
          rw [beq_eq_false_iff_ne]
          rintro rfl
          rw [ofUInt8_ofNat bound] at other
          simp [here] at other
        rw [bytes, List.cons_append, List.isPrefixOf_cons_cons, differ]
        rfl

end

/-! ## Closing brackets -/

section

variable {opening closing : Char}

/-- Bytes that are no brackets are passed. -/
theorem closeFrom_pass {bytes : List UInt8}
    (none : ∀ byte ∈ bytes, Char.ofUInt8 byte ≠ opening ∧ Char.ofUInt8 byte ≠ closing)
    (depth offset : Nat) (rest : List UInt8) :
    closeFrom opening closing depth offset (bytes ++ rest) =
      closeFrom opening closing depth (offset + bytes.length) rest := by
  induction bytes generalizing offset with
  | nil => rfl
  | cons byte bytes ih =>
    obtain ⟨here, others⟩ := List.forall_mem_cons.mp none
    rw [List.cons_append, closeFrom, if_neg here.1, if_neg here.2, ih others, List.length_cons,
      Nat.add_assoc, Nat.add_comm 1]

/-- Within brackets and at an opening one the closing one is found, and counting does not fail. -/
theorem closeFrom_bytes (opens : opening.toNat < 128) (closes : closing.toNat < 128)
    {depth : Nat} {list : List Glyph}
    (inside : 0 < depth ∨ list.head?.map (·.shown) = some opening) (offset : Nat) :
    closeFrom opening closing depth offset (Glyph.bytes list) =
      .ok ((takeClosed? opening closing depth list).map fun (taken, _) =>
        offset + (Glyph.width taken - 1)) := by
  have size {c : Char} (ascii : c.toNat < 128) : c.utf8Size = 1 := by
    rw [← String.length_utf8EncodeChar, encodeChar_of_ascii ascii]
    rfl
  induction list generalizing depth offset with
  | nil => rfl
  | cons glyph list ih =>
    have further {deeper : Nat} (positive : 0 < deeper) : closeFrom opening closing deeper
        (offset + glyph.shown.utf8Size) (Glyph.bytes list) =
        .ok (((takeClosed? opening closing deeper list).map fun (taken, rest) =>
          (glyph :: taken, rest)).map fun (taken, _) => offset + (Glyph.width taken - 1)) := by
      rw [ih (.inl positive), Option.map_map]
      refine congrArg Except.ok (Option.map_congr fun (taken, rest) member => ?_)
      have positive := Glyph.width_pos (takeClosed?_ne_nil member)
      simp only [Function.comp, Glyph.width_cons]
      omega
    rw [takeClosed?, Glyph.bytes_cons]
    by_cases isOpening : glyph.shown = opening
    · rw [isOpening, size opens] at further
      rw [if_pos isOpening, isOpening, encodeChar_of_ascii opens, List.singleton_append, closeFrom,
        ofUInt8_ofNat opens, if_pos rfl, further (Nat.succ_pos depth)]
    have positive : 0 < depth := inside.resolve_right (by simp [isOpening])
    by_cases isClosing : glyph.shown = closing
    · rw [isClosing, size closes] at further
      rw [if_neg isOpening, if_pos isClosing, isClosing, encodeChar_of_ascii closes,
        List.singleton_append, closeFrom, ofUInt8_ofNat closes, if_neg (isClosing ▸ isOpening),
        if_pos rfl, if_neg positive.ne']
      by_cases last : depth = 1
      · have width : Glyph.width [glyph] = 1 := by
          rw [Glyph.width_cons, isClosing, size closes]
          rfl
        rw [if_pos last, if_pos last.le, Option.map_some]
        simp only [width, Nat.sub_self, Nat.add_zero]
      · rw [if_neg last, if_neg (by omega), further (by omega)]
    · rw [if_neg isOpening, if_neg isClosing, closeFrom_pass, String.length_utf8EncodeChar,
        further positive]
      intro byte member
      have other {c : Char} (ascii : c.toNat < 128) (ne : glyph.shown ≠ c) :
          Char.ofUInt8 byte ≠ c := by
        simpa [ne] using class_ofUInt8 (isAsciiClass_eq ascii) member
      exact ⟨other opens isOpening, other closes isClosing⟩

/-- The bracket that closes the one at an offset is the last glyph of what is taken there. -/
theorem matchingClose_width (opens : opening.toNat < 128) (closes : closing.toNat < 128)
    {list : List Glyph} (isOpen : list.head?.map (·.shown) = some opening) (before : List Glyph) :
    matchingClose opening closing (Glyph.bytes (before ++ list)) (Glyph.width before) =
      .ok ((takeClosed? opening closing 0 list).map fun (taken, _) =>
        Glyph.width (before ++ taken) - 1) := by
  rw [matchingClose, bytesFrom_width]
  refine (closeFrom_bytes opens closes (.inr isOpen) _).trans (congrArg Except.ok ?_)
  refine Option.map_congr fun (taken, rest) member => ?_
  have positive := Glyph.width_pos (takeClosed?_ne_nil member)
  dsimp only
  rw [Glyph.width_append]
  omega

end

/-! ## Offsets in the source -/

theorem source_of_mem_tail_glyphsOf {mark : Char × Bool} {glyph : Glyph}
    (member : glyph ∈ (glyphsOf mark).tail) : glyph.source = none := by
  obtain ⟨c, isCode⟩ := mark
  cases isCode with
  | true => cases member
  | false =>
    by_cases newline : c = '\n'
    · rw [newline] at member
      cases member
    · rw [glyphsOf_hidden newline] at member
      rw [List.eq_of_mem_replicate member]

/-- A character has as many bytes as its glyphs show. -/
theorem byteLength_glyphsOf (mark : Char × Bool) :
    (Glyph.sourceText (glyphsOf mark)).byteLength = Glyph.width (glyphsOf mark) := by
  obtain ⟨c, isCode⟩ := mark
  cases isCode with
  | true => rfl
  | false =>
    have shown : Glyph.shownText (glyphsOf (c, false)) = blanked c := by
      have shown := shownMarks_hidden c []
      rwa [shownMarks, List.flatMap_singleton, shownMarks, List.flatMap_nil, Glyph.shownText,
        Glyph.shownText, List.map_nil, List.append_nil] at shown
    have source : Glyph.sourceText (glyphsOf (c, false)) = [c] := Glyph.sourceText_hidden c
    rw [Glyph.width, shown, source, ← Utf8.length_encode, ← Utf8.length_encode,
      (covers_blanked c).length_eq, Utf8.encode_cons, List.length_append]
    rfl

/-- Ahead of a character the offset in the source is that in the masked text. -/
theorem byteLength_sourceText {lexicon : Lexicon} {source : Text} {before after : List Glyph}
    (split : glyphs lexicon source = before ++ after) (starts : StartsChar after) :
    (Glyph.sourceText before).byteLength = Glyph.width before := by
  rw [glyphs_eq_flatMap] at split
  generalize shade lexicon 0 none source = marks at split
  induction marks generalizing before with
  | nil =>
    obtain ⟨rfl, _⟩ := List.append_eq_nil_iff.mp split.symm
    rfl
  | cons mark marks ih =>
    rw [List.flatMap_cons] at split
    rcases List.append_eq_append_iff.mp split with ⟨start, rfl, behind⟩ | ⟨more, whole, rfl⟩
    · rw [Glyph.sourceText_append, Utf8.byteLength_append, Glyph.width_append, ← ih behind,
        ← byteLength_glyphsOf]
    · cases before with
      | nil => rfl
      | cons first before =>
        cases more with
        | nil =>
          rw [List.append_nil] at whole
          rw [← whole, byteLength_glyphsOf]
        | cons glyph more =>
          have inside : glyph ∈ (glyphsOf mark).tail := by simp [whole]
          exact absurd (source_of_mem_tail_glyphsOf inside) (starts glyph rfl)

/-! ## Masking by indices -/

/-- Masks the characters from an index on; a comment or a literal is cut out by the indices of its
ends. -/
def maskFrom (lexicon : Lexicon) (chars : Text) (index : Nat) : Except Fault Text :=
  if inside : index < chars.length then
    let previous := if index = 0 then none else chars[index - 1]?
    match lexicon.hiddenLength previous (chars.drop index) with
    | 0 => do
      let rest ← maskFrom lexicon chars (index + 1)
      pure (chars[index] :: rest)
    | length + 1 =>
      if index + (length + 1) ≤ chars.length then do
        let rest ← maskFrom lexicon chars (index + (length + 1))
        pure (((chars.drop index).take (length + 1)).flatMap blanked ++ rest)
      else .error .slice
  else .ok []
termination_by chars.length - index

section

variable {lexicon : Lexicon}

theorem lengthThrough_le (phrase text : Text) : Lexicon.lengthThrough phrase text ≤ text.length := by
  induction text with
  | nil => exact Nat.le_refl 0
  | cons c rest ih =>
    rw [Lexicon.lengthThrough]
    split_ifs with opens
    · exact (List.isPrefixOf_iff_prefix.mp opens).length_le
    · exact Nat.succ_le_succ ih

theorem quotedLength_le (quote : Char) (escapes : Bool) (text : Text) :
    Lexicon.quotedLength quote escapes text ≤ text.length := by
  fun_induction Lexicon.quotedLength quote escapes text with
  | case1 => exact Nat.le_refl 0
  | case2 => exact Nat.le_refl 1
  | case3 c d rest escaped ih => exact Nat.add_le_add_right ih 2
  | case4 d rest => exact Nat.succ_le_succ (Nat.zero_le _)
  | case5 c d rest _ _ ih => exact Nat.succ_le_succ ih

theorem rawLength?_le {text : Text} {length : Nat}
    (reads : Lexicon.rawLength? text = some length) : length ≤ text.length + 1 := by
  have split := List.takeWhile_append_dropWhile (p := fun c => decide (c = '#')) (l := text)
  simp only [Lexicon.rawLength?] at reads
  split at reads
  next body opens =>
    rw [opens] at split
    have long := congrArg List.length split
    have bound := lengthThrough_le ('"' :: text.takeWhile (· = '#')) body
    rw [List.length_append, List.length_cons] at long
    rw [← Option.some_inj.mp reads]
    omega
  next => cases reads

theorem charLength?_le {text : Text} {length : Nat}
    (reads : Lexicon.charLength? text = some length) : length ≤ text.length + 1 := by
  rw [Lexicon.charLength?.eq_def] at reads
  split at reads
  next rest =>
    simp only at reads
    split at reads
    next closes =>
      -- The apostrophe that ends the literal is among the characters that were looked at.
      have before : (((rest.drop 1).take 9).takeWhile (· ≠ '\'')).length <
          ((rest.drop 1).take 9).length := by
        refine (List.takeWhile_prefix _).length_le.lt_of_ne fun same => ?_
        have whole := (List.takeWhile_prefix _).eq_of_length same
        rw [List.contains_iff_mem, ← whole] at closes
        simpa using List.mem_takeWhile_imp closes
      rw [List.length_take, List.length_drop] at before
      rw [← Option.some_inj.mp reads, List.length_cons]
      omega
    next => cases reads
  next =>
    split at reads
    next =>
      rw [← Option.some_inj.mp reads]
      simp
    next => cases reads
  next => cases reads

/-- A comment or a literal ends within the text. -/
theorem hiddenLength_le (lexicon : Lexicon) (previous : Option Char) (text : Text) :
    lexicon.hiddenLength previous text ≤ text.length := by
  cases text with
  | nil => exact Nat.le_refl 0
  | cons c rest =>
    rw [Lexicon.hiddenLength]
    split
    next => exact (List.takeWhile_prefix _).length_le
    next =>
      split
      next length block =>
        obtain ⟨⟨opening, closing⟩, _, block⟩ := Option.bind_eq_some_iff.mp block
        obtain ⟨body, opens, rfl⟩ := Option.map_eq_some_iff.mp block
        have long := congrArg List.length (List.isPrefixOf?_eq_some_iff_append_eq.mp opens)
        have bound := lengthThrough_le closing body
        rw [List.length_append] at long
        omega
      next =>
        split
        next length raw => exact rawLength?_le (Option.ite_none_right_eq_some.mp raw).2
        next =>
          split_ifs
          · have bound := quotedLength_le c (!(lexicon.rawBacktick && decide (c = '\x60'))) rest
            rw [List.length_cons]
            omega
          · cases reads : Lexicon.charLength? rest with
            | none => exact Nat.zero_le _
            | some length => exact charLength?_le reads
          · exact Nat.zero_le _

theorem shade_hidden (lexicon : Lexicon) (previous : Option Char) (hidden rest : Text) :
    shade lexicon hidden.length previous (hidden ++ rest) =
      hidden.map (fun c => (c, false)) ++ shade lexicon 0 (hidden.getLast?.or previous) rest := by
  induction hidden generalizing previous with
  | nil => rfl
  | cons c hidden ih =>
    rw [List.length_cons, List.cons_append, shade, ih]
    cases hidden with
    | nil => rfl
    | cons next hidden =>
      rw [List.getLast?_cons_cons, List.getLast?_eq_some_getLast (List.cons_ne_nil next hidden)]
      rfl

theorem shownMarks_map_hidden (hidden : Text) (marks : List (Char × Bool)) :
    shownMarks (hidden.map (fun c => (c, false)) ++ marks) =
      hidden.flatMap blanked ++ shownMarks marks := by
  induction hidden with
  | nil => rfl
  | cons c hidden ih =>
    rw [List.map_cons, List.cons_append, shownMarks_hidden, ih, List.flatMap_cons,
      List.append_assoc]

/-- No index is beyond the end, and what was masked is the mask. The induction is on how many
characters are left, as a comment or a literal takes several of them. -/
theorem maskFrom_append (lexicon : Lexicon) (before text : Text) :
    maskFrom lexicon (before ++ text) before.length =
      .ok (shownMarks (shade lexicon 0 before.getLast? text)) := by
  induction isLeft : text.length using Nat.strong_induction_on generalizing before text with
  | _ left ih =>
    rw [maskFrom]
    cases text with
    | nil =>
      rw [List.append_nil, dif_neg (Nat.lt_irrefl _)]
      rfl
    | cons c rest =>
      have previous : (if before.length = 0 then none
          else (before ++ c :: rest)[before.length - 1]?) = before.getLast? := by
        split_ifs with first
        · rw [List.length_eq_zero_iff.mp first]
          rfl
        · rw [List.getElem?_append_left (by omega), List.getLast?_eq_getElem?]
      have fits := hiddenLength_le lexicon before.getLast? (c :: rest)
      rw [dif_pos (by simp), previous, List.drop_left, shade]
      dsimp only
      cases hides : lexicon.hiddenLength before.getLast? (c :: rest) with
      | zero =>
        have behind := ih rest.length (by simp [← isLeft]) (before ++ [c]) rest rfl
        rw [List.length_append, List.append_assoc, List.getLast?_concat] at behind
        simp only [List.singleton_append, List.length_singleton] at behind
        dsimp only
        rw [behind, shownMarks_code, List.getElem_append_right (Nat.le_refl _)]
        simp only [Nat.sub_self, List.getElem_cons_zero]
        rfl
      | succ length =>
        rw [hides, List.length_cons] at fits
        have split : rest = rest.take length ++ rest.drop length := (List.take_append_drop ..).symm
        have isLength : (rest.take length).length = length := List.length_take_of_le (by omega)
        generalize rest.take length = hidden at split isLength
        generalize rest.drop length = behind at split
        subst split isLength
        have last : (before ++ c :: hidden).getLast? = hidden.getLast?.or (some c) := by
          rw [List.getLast?_append, List.getLast?_cons]
          cases hidden.getLast? <;> rfl
        have fewer : behind.length < left := by
          rw [← isLeft, List.length_cons, List.length_append]
          omega
        have further := ih behind.length fewer (before ++ c :: hidden) behind rfl
        rw [List.length_append, List.append_assoc, last, List.length_cons, List.cons_append]
          at further
        dsimp only
        rw [if_pos (by simp), further, shade_hidden, shownMarks_hidden, shownMarks_map_hidden,
          List.take_succ_cons, List.take_left, List.flatMap_cons, ← List.append_assoc]
        rfl

theorem maskFrom_zero (lexicon : Lexicon) (source : Text) :
    maskFrom lexicon source 0 = .ok (mask lexicon source) :=
  maskFrom_append lexicon [] source

end

end Notebook.Source
