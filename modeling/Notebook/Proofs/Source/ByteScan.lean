import Notebook.Proofs.Source.Offsets
import Notebook.Proofs.Source.Search

/-! # Scanning for entry points by bytes

The search for an entry point over the bytes of the masked text, with each index and each range
checked. At the offset of a glyph its readers do what the readers of glyphs do there, and no check
fails.
-/

namespace Notebook.Source

/-! ## The search over bytes -/

/-- A declaration by its offsets. -/
structure EntryRange where
  span : Nat × Nat
  name : Nat × Nat
  returns : Text
  deriving DecidableEq, Repr

/-- What stands at an offset. -/
inductive Finding (α : Type) where
  | found (place : α)
  /-- A declaration starts here and one of its brackets does not close. -/
  | unbalanced
  | absent
  deriving DecidableEq, Repr

/-- A word stands at an offset, or starts there. -/
def startsWord (bytes : List UInt8) (word : Text) (offset : Nat) : Except Fault Bool := do
  let ahead ← bytesFrom bytes offset
  if (Utf8.encode word).isPrefixOf ahead then
    if offset = 0 then pure true
    else do
      let previous ← byteAt bytes (offset - 1)
      pure !isAsciiIdentifierChar (.ofUInt8 previous)
  else pure false

/-- The offsets of the parenthesis that closes the parameters and of the braces of the body. -/
def procedureBody (bytes : List UInt8) (openParen : Nat) :
    Except Fault (Finding (Nat × Nat × Nat)) := do
  match ← matchingClose '(' ')' bytes openParen with
  | none => pure .unbalanced
  | some closeParen =>
    let openBrace := scanWhile (fun c => c ≠ '{' ∧ c ≠ ';' ∧ c ≠ '\x7d') bytes (closeParen + 1)
    if bytes[openBrace]?.any fun byte => Char.ofUInt8 byte = '{' then
      match ← matchingClose '{' '\x7d' bytes openBrace with
      | none => pure .unbalanced
      | some closeBrace => pure (.found (closeParen, openBrace, closeBrace))
    else pure .absent

/-- The same behind a name. -/
def procedureFrom (bytes : List UInt8) (offset : Nat) : Except Fault (Finding (Nat × Nat × Nat)) :=
  let openParen := scanWhile isAsciiBlank bytes offset
  if bytes[openParen]?.any fun byte => Char.ofUInt8 byte = '(' then procedureBody bytes openParen
  else pure .absent

/-- Where a declaration starts that has its keyword at an offset. -/
def visibleFrom (masked : Text) (offset : Nat) : Except Fault Nat := do
  let before ← slice masked 0 offset
  match ("pub" : Text).isSuffixOf? (before.dropEndWhile fun c => c = ' ' ∨ c = '\t') with
  | some rest => pure (if rest.getLast?.any isIdentifierChar then offset else Text.byteLength rest)
  | none => pure offset

/-- A keyword stands at an offset. -/
def isKeywordAt (bytes : List UInt8) (keyword : Text) (offset : Nat) : Except Fault Bool := do
  let starts ← startsWord bytes keyword offset
  pure (starts &&
    bytes[offset + keyword.byteLength]?.any fun byte => isAsciiBlank (.ofUInt8 byte))

/-- A name stands at an offset. -/
def isNameAt (bytes : List UInt8) (name : Text) (offset : Nat) : Except Fault Bool := do
  let starts ← startsWord bytes name offset
  pure (starts &&
    !(bytes[offset + name.byteLength]?.any fun byte => isAsciiIdentifierChar (.ofUInt8 byte)))

/-- Reads `name (...) ... {...}` behind the keyword at an offset. -/
def signatureAt (source masked keyword name : Text) (offset : Nat) :
    Except Fault (Finding EntryRange) := do
  let bytes := Utf8.encode masked
  let nameStart := scanWhile isAsciiBlank bytes (offset + keyword.byteLength)
  let nameEnd := nameStart + name.byteLength
  let ahead ← bytesFrom bytes nameStart
  if (Utf8.encode name).isPrefixOf ahead &&
      !(bytes[nameEnd]?.any fun byte => isAsciiIdentifierChar (.ofUInt8 byte)) then
    match ← procedureFrom bytes nameEnd with
    | .found (closeParen, openBrace, closeBrace) =>
      let start ← visibleFrom masked offset
      let result ← slice source (closeParen + 1) openBrace
      pure (.found ⟨(start, closeBrace + 1), (nameStart, nameEnd), result.trim⟩)
    | .unbalanced => pure .unbalanced
    | .absent => pure .absent
  else pure .absent

/-- Reads `:: (...) ... {...}` behind the name at an offset. -/
def constantAt (source masked name : Text) (offset : Nat) : Except Fault (Finding EntryRange) := do
  let bytes := Utf8.encode masked
  let nameEnd := offset + name.byteLength
  let binding := scanWhile isAsciiBlank bytes nameEnd
  let ahead ← bytesFrom bytes binding
  if (Utf8.encode "::").isPrefixOf ahead then
    match ← procedureFrom bytes (binding + 2) with
    | .found (closeParen, openBrace, closeBrace) =>
      let result ← slice source (closeParen + 1) openBrace
      pure (.found ⟨(offset, closeBrace + 1), (offset, nameEnd), result.trim⟩)
    | .unbalanced => pure .unbalanced
    | .absent => pure .absent
  else pure .absent

/-- Reads a declaration at an offset. -/
def declarationAt (form : EntryForm) (source masked : Text) (offset : Nat) :
    Except Fault (Finding EntryRange) := do
  match form with
  | .function keyword name =>
    if ← isKeywordAt (Utf8.encode masked) keyword offset then
      signatureAt source masked keyword name offset
    else pure .absent
  | .constant name =>
    if ← isNameAt (Utf8.encode masked) name offset then constantAt source masked name offset
    else pure .absent

/-- The declarations at depth zero from an offset on, behind those that were found, or none if one
of them does not close. -/
def searchFrom (form : EntryForm) (source masked : Text) (offset : Nat) (depth : Int)
    (found : List EntryRange) : Except Fault (Option (List EntryRange)) :=
  if inside : offset < (Utf8.encode masked).length then
    let c := Char.ofUInt8 (Utf8.encode masked)[offset]
    if c = '{' ∨ c = '(' ∨ c = '[' then
      searchFrom form source masked (offset + 1) (depth + 1) found
    else if c = '\x7d' ∨ c = ')' ∨ c = ']' then
      searchFrom form source masked (offset + 1) (depth - 1) found
    else if depth = 0 then
      match declarationAt form source masked offset with
      | .error fault => .error fault
      | .ok (.found entry) =>
        if offset < entry.span.2 then
          searchFrom form source masked entry.span.2 depth (found ++ [entry])
        else .error .endless
      | .ok .unbalanced => .ok none
      | .ok .absent => searchFrom form source masked (offset + 1) depth found
    else searchFrom form source masked (offset + 1) depth found
  else .ok (some found)
termination_by (Utf8.encode masked).length - offset

/-- The only declaration of a source. -/
def findEntry (lexicon : Lexicon) (form : EntryForm) (source : Text) :
    Except Fault (Option EntryRange) := do
  let masked ← maskFrom lexicon source 0
  match ← searchFrom form source masked 0 0 [] with
  | some [entry] => pure (some entry)
  | _ => pure none

/-- A declaration under a new name, and the source without it. -/
structure Splice where
  function : Text
  remainder : Text
  returns : Text
  deriving DecidableEq, Repr

/-- Cuts a declaration out of its source and gives it a new name. -/
def spliceEntry (source : Text) (entry : EntryRange) (newName : Text) : Except Fault Splice := do
  let lead ← slice source entry.span.1 entry.name.1
  let tail ← slice source entry.name.2 entry.span.2
  let before ← slice source 0 entry.span.1
  let after ← slice source entry.span.2 source.byteLength
  pure ⟨lead ++ newName ++ tail, before ++ after, entry.returns⟩

/-! ## Reading at the offset of a glyph -/

/-- What was read of glyphs, with the place of a declaration in it. -/
def Attempt.finding {α : Type} (place : Declaration → α) : Attempt → Finding α
  | .found declaration => .found (place declaration)
  | .unbalanced => .unbalanced
  | .absent => .absent

theorem isAsciiClass_isAsciiBlank : IsAsciiClass isAsciiBlank := by
  refine ⟨false, fun c beyond => ?_⟩
  rw [Bool.eq_false_iff]
  intro blank
  simp only [isAsciiBlank, Bool.or_eq_true, beq_iff_eq] at blank
  rcases blank with (((rfl | rfl) | rfl) | rfl) | rfl <;> exact absurd beyond (by decide)

theorem toNat_lt_of_isChar {c : Char} (isChar : isAsciiIdentifierChar c = true) :
    c.toNat < 128 := by
  have within {last : Char} (ascii : last.toNat < 128) (bound : c.val ≤ last.val) :
      c.toNat < 128 :=
    Nat.lt_of_le_of_lt (UInt32.le_iff_toNat_le.mp bound) ascii
  rw [isAsciiIdentifierChar, Bool.or_eq_true, decide_eq_true_eq] at isChar
  rcases isChar with alphanumeric | rfl
  · have classes : ((c.isUpper || c.isLower) || c.isDigit) = true := alphanumeric
    rw [Bool.or_eq_true, Bool.or_eq_true] at classes
    rcases classes with (upper | lower) | digit
    · have bounds : c.val ≥ 'A'.val ∧ c.val ≤ 'Z'.val := of_decide_eq_true upper
      exact within (by decide) bounds.2
    · exact within (by decide) (of_decide_eq_true ((Bool.and_eq_true ..).mp lower).2)
    · exact within (by decide) (of_decide_eq_true ((Bool.and_eq_true ..).mp digit).2)
  · decide

theorem isAsciiClass_isAsciiIdentifierChar : IsAsciiClass isAsciiIdentifierChar := by
  refine ⟨false, fun c beyond => ?_⟩
  rw [Bool.eq_false_iff]
  intro isChar
  have bound := toNat_lt_of_isChar isChar
  omega

theorem isAsciiClass_staysInResult :
    IsAsciiClass fun c => c ≠ '{' ∧ c ≠ ';' ∧ c ≠ '\x7d' := by
  refine ⟨true, fun c beyond => ?_⟩
  rw [decide_eq_true_eq]
  refine ⟨?_, ?_, ?_⟩ <;> rintro rfl <;> exact absurd beyond (by decide)

section

variable {before list : List Glyph}

theorem startsWord_width {word : Text} (ascii : IsAscii word) (before list : List Glyph) :
    startsWord (Glyph.bytes (before ++ list)) word (Glyph.width before) =
      .ok ((takePhrase? word list).isSome && !endsInWord before) := by
  rw [startsWord, bytesFrom_width]
  change (if (Utf8.encode word).isPrefixOf (Glyph.bytes list) = true then _ else _) = _
  rw [isPrefixOf_bytes ascii]
  cases stands : (takePhrase? word list).isSome with
  | false => rfl
  | true =>
    rcases eq_or_ne before [] with rfl | filled
    · rfl
    · obtain ⟨byte, reads, same⟩ := exists_byteAt filled list
      rw [if_pos rfl, if_neg (Glyph.width_pos filled).ne', reads, endsInWord,
        same _ isAsciiClass_isAsciiIdentifierChar]
      rfl

/-- The offsets of parameters and body behind a name. -/
def bodyPlaces (ahead : List Glyph) (declaration : Declaration) : Nat × Nat × Nat :=
  (Glyph.width (ahead ++ declaration.parameters) - 1,
    Glyph.width (ahead ++ declaration.parameters ++ declaration.result),
    Glyph.width (ahead ++ declaration.parameters ++ declaration.result ++ declaration.body) - 1)

theorem head?_any_eq {c : Char} {list : List Glyph} :
    (list.head?.any fun glyph => decide (glyph.shown = c)) =
      decide (list.head?.map (·.shown) = some c) := by
  cases list <;> simp

/-- Behind closing brackets the offset is one more than that of the bracket. -/
theorem width_sub_one_add_one {opening closing : Char} {depth : Nat} {taken rest : List Glyph}
    (taking : takeClosed? opening closing depth list = some (taken, rest)) (ahead : List Glyph) :
    Glyph.width (ahead ++ taken) - 1 + 1 = Glyph.width (ahead ++ taken) :=
  Nat.sub_add_cancel (Glyph.width_pos
    (List.append_ne_nil_of_right_ne_nil ahead (takeClosed?_ne_nil taking)))

theorem procedureBody_width (opens : list.head?.map (·.shown) = some '(')
    (lead name ahead gap : List Glyph) :
    procedureBody (Glyph.bytes (ahead ++ gap ++ list)) (Glyph.width (ahead ++ gap)) =
      .ok ((readBody lead name gap list).finding (bodyPlaces ahead)) := by
  rw [procedureBody, matchingClose_width (by decide) (by decide) opens, readBody, if_pos opens]
  cases closed : takeClosed? '(' ')' 0 list with
  | none => rfl
  | some taken =>
    obtain ⟨parameters, rest⟩ := taken
    obtain ⟨rfl, _⟩ := takeClosed?_eq_some closed
    have openBrace := scanWhile_width isAsciiClass_staysInResult (ahead ++ gap ++ parameters) rest
    have split := (List.prefix_iff_eq_append.mp (List.takeWhile_prefix
      (fun glyph : Glyph => decide (glyph.shown ≠ '{' ∧ glyph.shown ≠ ';' ∧ glyph.shown ≠ '\x7d'))
      (l := rest))).symm
    dsimp only [Option.map_some, bind, Except.bind]
    rw [width_sub_one_add_one closed, ← List.append_assoc, openBrace]
    generalize rest.takeWhile (fun glyph : Glyph => decide (glyph.shown ≠ '{' ∧ glyph.shown ≠ ';' ∧
      glyph.shown ≠ '\x7d')) = result at split ⊢
    generalize rest.drop result.length = more at split ⊢
    rw [split, ← List.append_assoc, any_getElem?_width (isAsciiClass_eq (c := '{') (by decide)),
      head?_any_eq]
    by_cases braced : more.head?.map (·.shown) = some '{'
    · rw [if_pos (decide_eq_true braced), if_pos braced,
        matchingClose_width (by decide) (by decide) braced]
      cases takeClosed? '{' '\x7d' 0 more with
      | none => rfl
      | some taken => simp only [Attempt.finding, bodyPlaces, List.append_assoc]; rfl
    · rw [if_neg (by simp [braced]), if_neg braced]
      rfl

theorem procedureFrom_width (lead name ahead gap list : List Glyph) :
    procedureFrom (Glyph.bytes (ahead ++ gap ++ list)) (Glyph.width (ahead ++ gap)) =
      .ok ((readBody lead name (gap ++ (takeBlanks list).1) (takeBlanks list).2).finding
        (bodyPlaces ahead)) := by
  have split := takeBlanks_append_eq list
  have scans : scanWhile isAsciiBlank (Glyph.bytes (ahead ++ gap ++ list))
      (Glyph.width (ahead ++ gap)) = Glyph.width (ahead ++ (gap ++ (takeBlanks list).1)) := by
    rw [scanWhile_width isAsciiClass_isAsciiBlank, List.append_assoc ahead]
    rfl
  have whole : ahead ++ gap ++ list =
      ahead ++ (gap ++ (takeBlanks list).1) ++ (takeBlanks list).2 := by
    conv_lhs => rw [← split]
    simp only [List.append_assoc]
  rw [procedureFrom, scans, whole]
  rw [any_getElem?_width (isAsciiClass_eq (c := '(') (by decide)), head?_any_eq]
  by_cases opens : (takeBlanks list).2.head?.map (·.shown) = some '('
  · rw [if_pos (decide_eq_true opens), procedureBody_width opens lead name]
  · rw [if_neg (by simp [opens]), readBody, if_neg opens]
    rfl

theorem isPrefixOf?_shownText (phrase : Text) (list : List Glyph) :
    phrase.isPrefixOf? (Glyph.shownText list) =
      (takePhrase? phrase list).map fun (_, rest) => Glyph.shownText rest := by
  induction phrase generalizing list with
  | nil => rfl
  | cons c phrase ih =>
    cases list with
    | nil => rfl
    | cons glyph list =>
      rw [takePhrase?, Glyph.shownText, List.map_cons, List.isPrefixOf?]
      by_cases here : glyph.shown = c
      · have same : (c == glyph.shown) = true := beq_iff_eq.mpr here.symm
        rw [if_pos same, if_pos here, Option.map_map]
        exact ih list
      · have other : ¬(c == glyph.shown) = true := fun same => here (beq_iff_eq.mp same).symm
        rw [if_neg other, if_neg here]
        rfl

/-- What makes a declaration visible is looked for in the same way from the end. -/
theorem visibleFrom_width (before list : List Glyph) :
    visibleFrom (Glyph.shownText (before ++ list)) (Glyph.width before) =
      .ok (Glyph.width (takeVisibility before.reverse).1.reverse) := by
  have part : slice (Glyph.shownText (before ++ list)) 0 (Glyph.width before) =
      .ok (Glyph.shownText before) := by
    rw [Glyph.shownText, List.map_append]
    exact slice_append [] (Glyph.shownText before) (Glyph.shownText list)
  have kept : (Glyph.shownText before).dropEndWhile (fun c => c = ' ' ∨ c = '\t') =
      (Glyph.shownText (before.reverse.dropWhile fun glyph =>
        glyph.shown = ' ' ∨ glyph.shown = '\t')).reverse := by
    rw [Text.dropEndWhile_eq_rdropWhile, List.rdropWhile, Glyph.shownText, Glyph.shownText,
      ← List.map_reverse, List.dropWhile_map]
    rfl
  have pub (text : Text) : ("pub" : Text).isSuffixOf? text.reverse =
      (("bup" : Text).isPrefixOf? text).map List.reverse := by
    rw [List.isSuffixOf?, List.reverse_reverse]
    rfl
  rw [visibleFrom, part]
  dsimp only [bind, Except.bind]
  rw [kept, pub, isPrefixOf?_shownText, takeVisibility]
  cases takePhrase? "bup" (before.reverse.dropWhile fun glyph =>
      glyph.shown = ' ' ∨ glyph.shown = '\t') with
  | none => simp [pure, Except.pure]
  | some taken =>
    obtain ⟨word, rest⟩ := taken
    have last : (Glyph.shownText rest).reverse.getLast?.any isIdentifierChar =
        rest.head?.any fun glyph => isIdentifierChar glyph.shown := by
      rw [List.getLast?_reverse, Glyph.shownText, List.head?_map, Option.any_map]
    dsimp only [Option.map_some]
    rw [last, apply_ite (fun taken : List Glyph × List Glyph => Glyph.width taken.1.reverse),
      List.reverse_reverse, Glyph.width, Glyph.width, Glyph.shownText, Glyph.shownText,
      Glyph.shownText, List.map_reverse]
    rfl

theorem width_of_shown {taken : List Glyph} {word : Text} (shown : Glyph.shownText taken = word)
    (before : List Glyph) :
    Glyph.width before + word.byteLength = Glyph.width (before ++ taken) := by
  rw [Glyph.width_append, ← shown]
  rfl

theorem isKeywordAt_width {keyword : Text} (ascii : IsAscii keyword) (before list : List Glyph) :
    isKeywordAt (Glyph.bytes (before ++ list)) keyword (Glyph.width before) =
      .ok (!endsInWord before && (takePhrase? keyword list).any fun (_, rest) =>
        rest.head?.any fun glyph => isAsciiBlank glyph.shown) := by
  rw [isKeywordAt, startsWord_width ascii]
  cases taking : takePhrase? keyword list with
  | none => simp [bind, Except.bind, pure, Except.pure]
  | some taken =>
    obtain ⟨word, rest⟩ := taken
    obtain ⟨rfl, shown⟩ := takePhrase?_eq_some_iff.mp taking
    rw [width_of_shown shown, ← List.append_assoc, any_getElem?_width isAsciiClass_isAsciiBlank]
    rfl

theorem isNameAt_width {name : Text} (ascii : IsAscii name) (before list : List Glyph) :
    isNameAt (Glyph.bytes (before ++ list)) name (Glyph.width before) =
      .ok (!endsInWord before && (takePhrase? name list).any fun (_, rest) => endsWord rest) := by
  rw [isNameAt, startsWord_width ascii]
  cases taking : takePhrase? name list with
  | none => simp [bind, Except.bind, pure, Except.pure]
  | some taken =>
    obtain ⟨word, rest⟩ := taken
    obtain ⟨rfl, shown⟩ := takePhrase?_eq_some_iff.mp taking
    rw [width_of_shown shown, ← List.append_assoc,
      any_getElem?_width isAsciiClass_isAsciiIdentifierChar]
    rfl

end

end Notebook.Source
