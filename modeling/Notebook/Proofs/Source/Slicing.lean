import Notebook.Proofs.Source.ByteScan
import Notebook.Proofs.Source.Splicing

/-! # Slicing an entry point out of its source

Ahead of code an offset in the masked text is an offset in the source, so a declaration is read off
the bytes with the offsets of its parts in the source. With that the search over bytes finds what
the search over glyphs finds, whatever the source is, and the source is cut by the offsets.
-/

namespace Notebook.Source

/-! ## Offsets of a declaration -/

/-- An entry point by its offsets. -/
def EntryPoint.range (entry : EntryPoint) : EntryRange :=
  ⟨entry.span, entry.nameSpan, entry.returns⟩

section

variable {form : EntryForm} {lexicon : Lexicon} {source : Text} {before list after : List Glyph}
  {declaration : Declaration}

/-- The glyphs show as many bytes as the characters they stand for have. -/
def Glyph.IsAligned (list : List Glyph) : Prop :=
  (Glyph.sourceText list).byteLength = Glyph.width list

theorem isAligned_of_getLast? {c : Char} (split : glyphs lexicon source = before ++ list ++ after)
    (last : list.getLast?.map (·.shown) = some c) (visible : c ≠ ' ') :
    Glyph.IsAligned (before ++ list) := by
  refine byteLength_sourceText split ?_
  obtain ⟨glyph, isLast, shown⟩ := Option.map_eq_some_iff.mp last
  obtain ⟨start, rfl⟩ := List.getLast?_eq_some_iff.mp isLast
  rw [← List.append_assoc, List.append_assoc _ [glyph]] at split
  exact (startsChar_of_shown split (shown ▸ visible)).2

theorem isAligned_of_head? {c : Char} (split : glyphs lexicon source = before ++ (list ++ after))
    (first : list.head?.map (·.shown) = some c) (visible : c ≠ ' ') : Glyph.IsAligned before := by
  refine byteLength_sourceText split ?_
  obtain ⟨glyph, isFirst, shown⟩ := Option.map_eq_some_iff.mp first
  obtain ⟨rest, rfl⟩ := List.head?_eq_some_iff.mp isFirst
  exact (startsChar_of_shown split (shown ▸ visible)).1

/-- Glyphs that show an identifier start and end with code. -/
theorem exists_ends {taken : List Glyph} {word : Text} (shown : Glyph.shownText taken = word)
    (isName : word ≠ [] ∧ ∀ c ∈ word, isAsciiIdentifierChar c = true) :
    (∃ c, c ≠ ' ' ∧ taken.head?.map (·.shown) = some c) ∧
      ∃ c, c ≠ ' ' ∧ taken.getLast?.map (·.shown) = some c := by
  obtain ⟨filled, chars⟩ := isName
  rw [← List.head?_map, ← List.getLast?_map, show taken.map Glyph.shown = word from shown]
  constructor
  · obtain ⟨c, rest, isFirst⟩ := List.exists_cons_of_ne_nil filled
    exact ⟨c, ne_space_of_isChar (chars c (isFirst ▸ List.mem_cons_self ..)), by rw [isFirst]; rfl⟩
  · obtain ⟨rest, c, isLast⟩ := (List.eq_nil_or_concat word).resolve_left filled
    exact ⟨c, ne_space_of_isChar (chars c (by simp [isLast])), by simp [isLast]⟩

/-- A declaration starts with code. -/
theorem exists_start (named : form.IsNamed) (read : declaration.IsRead form) :
    ∃ c, c ≠ ' ' ∧ declaration.glyphs.head?.map (·.shown) = some c := by
  obtain ⟨c, visible, first⟩ := (exists_ends read.name named.name).1
  have leads := read.lead
  rw [Declaration.glyphs]
  simp only [List.append_assoc]
  cases form with
  | constant name =>
    rw [show declaration.lead = [] from leads, List.nil_append, List.head?_append]
    obtain ⟨glyph, isFirst, shown⟩ := Option.map_eq_some_iff.mp first
    exact ⟨c, visible, by rw [isFirst]; exact congrArg some shown⟩
  | function keyword name =>
    obtain ⟨word, gap, lead, isWord, _⟩ := leads
    obtain ⟨d, visible, first⟩ := (exists_ends isWord named.opening).1
    obtain ⟨glyph, isFirst, shown⟩ := Option.map_eq_some_iff.mp first
    refine ⟨d, visible, ?_⟩
    rw [lead, List.append_assoc, List.head?_append, isFirst]
    exact congrArg some shown

/-- The offsets of an entry point are those of its glyphs. -/
theorem range_entryOf (named : form.IsNamed)
    (split : glyphs lexicon source = before ++ (declaration.glyphs ++ declaration.after))
    (read : declaration.IsRead form) :
    (entryOf form before.reverse declaration).range =
      ⟨(Glyph.width (form.visibility before.reverse).1.reverse,
        Glyph.width (before ++ declaration.glyphs)),
        (Glyph.width (before ++ declaration.lead),
          Glyph.width (before ++ declaration.lead ++ declaration.name)),
        Text.trim (Glyph.sourceText declaration.result)⟩ := by
  obtain ⟨whole, isVisibility⟩ := visibility_spec form before.reverse
  rw [List.reverse_reverse] at whole
  rw [entryOf_eq]
  generalize (form.visibility before.reverse).1.reverse = ahead at whole ⊢
  generalize (form.visibility before.reverse).2 = visibility at whole isVisibility ⊢
  subst whole
  obtain ⟨⟨c, cVisible, first⟩, d, dVisible, last⟩ := exists_ends read.name named.name
  have start : Glyph.IsAligned ahead := by
    cases visibility with
    | nil =>
      obtain ⟨c, visible, first⟩ := exists_start named read
      rw [List.append_nil] at split
      exact isAligned_of_head? split first visible
    | cons glyph visibility =>
      rw [List.append_assoc] at split
      refine isAligned_of_head? split (c := 'p') ?_ (by decide)
      exact congrArg some (isVisibility.starts glyph rfl)
  have cut : glyphs lexicon source = ahead ++ visibility ++ declaration.lead ++ declaration.name ++
      (declaration.parameters ++ declaration.result ++ declaration.body ++ declaration.after) := by
    rw [split, Declaration.glyphs]
    simp only [List.append_assoc]
  have nameEnd := isAligned_of_getLast? cut last dVisible
  have name : Glyph.IsAligned (ahead ++ visibility ++ declaration.lead) := by
    rw [List.append_assoc _ declaration.name] at cut
    exact isAligned_of_head? cut first cVisible
  have stop : Glyph.IsAligned (ahead ++ visibility ++ declaration.glyphs) := by
    have ends : glyphs lexicon source = ahead ++ visibility ++ (declaration.lead ++
        declaration.name ++ declaration.parameters ++ declaration.result) ++ declaration.body ++
        declaration.after := by
      rw [split, Declaration.glyphs]
      simp only [List.append_assoc]
    have stop := isAligned_of_getLast? ends read.body (by decide)
    rwa [List.append_assoc] at stop
  simp only [Glyph.IsAligned, Glyph.sourceText_append, Utf8.byteLength_append, Declaration.glyphs]
    at start name nameEnd stop
  simp only [EntryPoint.range, EntryPoint.span, EntryPoint.nameSpan, Utf8.byteLength_append,
    Glyph.sourceText_append, Declaration.glyphs, EntryRange.mk.injEq, Prod.mk.injEq, and_true]
  refine ⟨⟨start, ?_⟩, ?_, ?_⟩
  · omega
  · omega
  · omega

/-- The result of a declaration is cut out of the source by the places of its brackets, and the
declaration ends behind the last one. -/
theorem slice_bodyPlaces
    (split : glyphs lexicon source = before ++ (declaration.glyphs ++ declaration.after))
    (read : declaration.IsRead form) :
    slice source
        ((bodyPlaces (before ++ declaration.lead ++ declaration.name) declaration).1 + 1)
        (bodyPlaces (before ++ declaration.lead ++ declaration.name) declaration).2.1 =
      .ok (Glyph.sourceText declaration.result) ∧
    (bodyPlaces (before ++ declaration.lead ++ declaration.name) declaration).2.2 + 1 =
      Glyph.width (before ++ declaration.glyphs) := by
  have cut : glyphs lexicon source = before ++ declaration.lead ++ declaration.name ++
      declaration.parameters ++ (declaration.result ++ declaration.body ++ declaration.after) := by
    rw [split, Declaration.glyphs]
    simp only [List.append_assoc]
  have start := isAligned_of_getLast? cut read.result.1 (by decide)
  rw [List.append_assoc declaration.result, ← List.append_assoc _ declaration.result] at cut
  have stop := isAligned_of_head? cut read.result.2 (by decide)
  have text := congrArg Glyph.sourceText cut
  rw [sourceText_glyphs, Glyph.sourceText_append, Glyph.sourceText_append] at text
  constructor
  · have filled := List.append_ne_nil_of_right_ne_nil (before ++ declaration.lead ++
      declaration.name) read.parameters.1
    rw [bodyPlaces, Nat.sub_add_cancel (Glyph.width_pos filled), ← start, ← stop, text,
      Glyph.sourceText_append _ declaration.result]
    exact slice_append ..
  · have filled := List.append_ne_nil_of_right_ne_nil (before ++ declaration.lead ++
      declaration.name ++ declaration.parameters ++ declaration.result) read.body_ne_nil
    rw [bodyPlaces, Nat.sub_add_cancel (Glyph.width_pos filled), Declaration.glyphs]
    simp only [List.append_assoc]

theorem signatureAt_width {keyword name : Text} {word : List Glyph}
    (named : (EntryForm.function keyword name).IsNamed)
    (split : glyphs lexicon source = before ++ (word ++ after))
    (taking : takePhrase? keyword (word ++ after) = some (word, after))
    (blank : (after.head?.any fun glyph => isAsciiBlank glyph.shown) = true) :
    signatureAt source (Glyph.shownText (before ++ (word ++ after))) keyword name
        (Glyph.width before) =
      .ok ((readDeclaration (.function keyword name) (word ++ after)).finding fun declaration =>
        (entryOf (.function keyword name) before.reverse declaration).range) := by
  have ascii : IsAscii name := fun c member => toNat_lt_of_isChar (named.name.2 c member)
  have gap := takeBlanks_append_eq after
  have nameStart : scanWhile isAsciiBlank (Utf8.encode (Glyph.shownText (before ++ (word ++ after))))
      (Glyph.width before + keyword.byteLength) =
        Glyph.width (before ++ (word ++ (takeBlanks after).1)) := by
    have scans := scanWhile_width isAsciiClass_isAsciiBlank (before ++ word) after
    rwa [← width_of_shown (takePhrase?_eq_some_iff.mp taking).2, List.append_assoc,
      List.append_assoc] at scans
  have bytes : Utf8.encode (Glyph.shownText (before ++ (word ++ after))) =
      Glyph.bytes (before ++ (word ++ (takeBlanks after).1) ++ (takeBlanks after).2) := by
    conv_lhs => rw [← gap]
    simp only [List.append_assoc]
    rfl
  rw [signatureAt]
  dsimp only [bind, Except.bind]
  rw [nameStart, bytes, bytesFrom_width]
  dsimp only
  rw [isPrefixOf_bytes ascii]
  cases second : takePhrase? name (takeBlanks after).2 with
  | none =>
    have absent : readDeclaration (.function keyword name) (word ++ after) = .absent := by
      rw [readDeclaration, taking]
      simp [second]
    rw [absent]
    rfl
  | some taken =>
    obtain ⟨label, more⟩ := taken
    obtain ⟨rest, isLabel⟩ := takePhrase?_eq_some_iff.mp second
    rw [rest, width_of_shown isLabel, ← List.append_assoc,
      any_getElem?_width isAsciiClass_isAsciiIdentifierChar]
    change (if endsWord more = true then _ else _) = _
    cases ends : endsWord more with
    | false =>
      have absent : readDeclaration (.function keyword name) (word ++ after) = .absent := by
        rw [readDeclaration, taking]
        simp [second, ends]
      rw [absent]
      rfl
    | true =>
      have reads : readDeclaration (.function keyword name) (word ++ after) =
          readBody (word ++ (takeBlanks after).1) label (takeBlanks more).1 (takeBlanks more).2 :=
        readDeclaration_function_eq taking blank second ends
      have procedure := procedureFrom_width (word ++ (takeBlanks after).1) label
        (before ++ (word ++ (takeBlanks after).1) ++ label) [] more
      rw [List.append_nil, List.nil_append, ← reads] at procedure
      rw [if_pos rfl, procedure]
      cases found : readDeclaration (.function keyword name) (word ++ after) with
      | unbalanced => rfl
      | absent => rfl
      | found declaration =>
        obtain ⟨whole, read⟩ := readDeclaration_eq_found found
        obtain ⟨_, _, _, _, _, _, _, _, isLead, isName, _⟩ :=
          readBody_eq_found_iff.mp (reads.symm.trans found)
        obtain ⟨result, stop⟩ := slice_bodyPlaces (whole ▸ split) read
        have visible := visibleFrom_width before (word ++ after)
        have range := range_entryOf named (whole ▸ split) read
        dsimp only [Attempt.finding]
        rw [range, ← isLead, ← isName, visible]
        dsimp only
        rw [result, stop]
        rfl

theorem constantAt_width {name : Text} {word : List Glyph}
    (named : (EntryForm.constant name).IsNamed)
    (split : glyphs lexicon source = before ++ (word ++ after))
    (taking : takePhrase? name (word ++ after) = some (word, after))
    (ends : endsWord after = true) :
    constantAt source (Glyph.shownText (before ++ (word ++ after))) name (Glyph.width before) =
      .ok ((readDeclaration (.constant name) (word ++ after)).finding fun declaration =>
        (entryOf (.constant name) before.reverse declaration).range) := by
  have ascii : IsAscii "::" := by
    intro c member
    obtain rfl : c = ':' := by simpa using member
    decide
  have gap := takeBlanks_append_eq after
  have nameEnd := width_of_shown (takePhrase?_eq_some_iff.mp taking).2 before
  have binding : scanWhile isAsciiBlank (Utf8.encode (Glyph.shownText (before ++ (word ++ after))))
      (Glyph.width (before ++ word)) = Glyph.width (before ++ word ++ (takeBlanks after).1) := by
    rw [← List.append_assoc]
    exact scanWhile_width isAsciiClass_isAsciiBlank (before ++ word) after
  have bytes : Utf8.encode (Glyph.shownText (before ++ (word ++ after))) =
      Glyph.bytes (before ++ word ++ (takeBlanks after).1 ++ (takeBlanks after).2) := by
    conv_lhs => rw [← gap]
    simp only [List.append_assoc]
    rfl
  rw [constantAt]
  dsimp only [bind, Except.bind]
  rw [nameEnd, binding, bytes, bytesFrom_width]
  dsimp only
  rw [isPrefixOf_bytes ascii]
  change (if (takePhrase? [':', ':'] (takeBlanks after).2).isSome = true then _ else _) = _
  cases second : takePhrase? [':', ':'] (takeBlanks after).2 with
  | none =>
    have absent : readDeclaration (.constant name) (word ++ after) = .absent := by
      rw [readDeclaration, taking]
      simp [second]
    rw [absent]
    rfl
  | some taken =>
    obtain ⟨colons, more⟩ := taken
    obtain ⟨rest, areColons⟩ := takePhrase?_eq_some_iff.mp second
    have reads : readDeclaration (.constant name) (word ++ after) =
        readBody [] word ((takeBlanks after).1 ++ colons ++ (takeBlanks more).1)
          (takeBlanks more).2 := by
      rw [readDeclaration, taking]
      simp [ends, second]
    have procedure := procedureFrom_width [] word (before ++ word) ((takeBlanks after).1 ++ colons)
      more
    rw [← reads, ← List.append_assoc (before ++ word), ← width_of_shown areColons,
      show Text.byteLength [':', ':'] = 2 from rfl] at procedure
    rw [Option.isSome_some, if_pos rfl, rest, ← List.append_assoc, procedure]
    cases found : readDeclaration (.constant name) (word ++ after) with
    | unbalanced => rfl
    | absent => rfl
    | found declaration =>
      obtain ⟨whole, read⟩ := readDeclaration_eq_found found
      obtain ⟨_, _, _, _, _, _, _, _, isLead, isName, _⟩ :=
        readBody_eq_found_iff.mp (reads.symm.trans found)
      obtain ⟨result, stop⟩ := slice_bodyPlaces (whole ▸ split) read
      have range := range_entryOf named (whole ▸ split) read
      dsimp only [Attempt.finding]
      rw [range, ← isName]
      rw [isLead, List.append_nil] at result stop ⊢
      rw [result, stop, EntryForm.visibility, List.reverse_reverse]
      rfl

/-- At the offset of a glyph a declaration is read as it is from the glyphs. -/
theorem declarationAt_width (named : form.IsNamed)
    (split : glyphs lexicon source = before ++ list) :
    declarationAt form source (Glyph.shownText (before ++ list)) (Glyph.width before) =
      .ok ((if endsInWord before then .absent else readDeclaration form list).finding
        fun declaration => (entryOf form before.reverse declaration).range) := by
  cases form with
  | function keyword name =>
    have ascii : IsAscii keyword := fun c member => toNat_lt_of_isChar (named.opening.2 c member)
    change isKeywordAt (Glyph.bytes (before ++ list)) keyword (Glyph.width before) >>= _ = _
    rw [isKeywordAt_width ascii]
    cases taking : takePhrase? keyword list with
    | none =>
      have absent : readDeclaration (.function keyword name) list = .absent := by
        rw [readDeclaration, taking]
      rw [absent, ite_self, Option.any_none, Bool.and_false]
      rfl
    | some taken =>
      obtain ⟨word, after⟩ := taken
      obtain ⟨rfl, _⟩ := takePhrase?_eq_some_iff.mp taking
      rw [Option.any_some]
      dsimp only
      cases endsInWord before with
      | true => rfl
      | false =>
        cases blank : after.head?.any fun glyph => isAsciiBlank glyph.shown with
        | false =>
          have absent : readDeclaration (.function keyword name) (word ++ after) = .absent := by
            rw [readDeclaration, taking]
            simp [blank]
          rw [absent]
          rfl
        | true => exact signatureAt_width named split taking blank
  | constant name =>
    have ascii : IsAscii name := fun c member => toNat_lt_of_isChar (named.name.2 c member)
    change isNameAt (Glyph.bytes (before ++ list)) name (Glyph.width before) >>= _ = _
    rw [isNameAt_width ascii]
    cases taking : takePhrase? name list with
    | none =>
      have absent : readDeclaration (.constant name) list = .absent := by
        rw [readDeclaration, taking]
      rw [absent, ite_self, Option.any_none, Bool.and_false]
      rfl
    | some taken =>
      obtain ⟨word, after⟩ := taken
      obtain ⟨rfl, _⟩ := takePhrase?_eq_some_iff.mp taking
      rw [Option.any_some]
      dsimp only
      cases endsInWord before with
      | true => rfl
      | false =>
        cases ends : endsWord after with
        | false =>
          have absent : readDeclaration (.constant name) (word ++ after) = .absent := by
            rw [readDeclaration, taking]
            simp [ends]
          rw [absent]
          rfl
        | true => exact constantAt_width named split taking ends

/-- Within a character beyond ASCII nothing is declared. -/
theorem declarationAt_of_beyond (named : form.IsNamed) (source : Text) {masked : Text}
    {offset : Nat} {byte : UInt8} (isByte : (Utf8.encode masked)[offset]? = some byte)
    (beyond : 128 ≤ byte.toNat) :
    declarationAt form source masked offset = .ok .absent := by
  have starts : startsWord (Utf8.encode masked) form.opening offset = .ok false := by
    obtain ⟨c, word, opening⟩ := List.exists_cons_of_ne_nil named.opening.1
    have bound := toNat_lt_of_isChar (named.opening.2 c (opening ▸ List.mem_cons_self ..))
    obtain ⟨inside, here⟩ := List.getElem?_eq_some_iff.mp isByte
    have other : (UInt8.ofNat c.toNat == byte) = false := by
      rw [beq_eq_false_iff_ne]
      rintro rfl
      rw [UInt8.toNat_ofNat', Nat.mod_eq_of_lt (by omega)] at beyond
      omega
    rw [startsWord, bytesFrom, if_pos inside.le, List.drop_eq_getElem_cons inside, here, opening,
      Utf8.encode_cons, encodeChar_of_ascii bound, List.singleton_append]
    change (if List.isPrefixOf (_ :: _) (_ :: _) = true then _ else _) = _
    rw [List.isPrefixOf_cons_cons, other]
    rfl
  cases form with
  | function keyword name =>
    have starts : startsWord (Utf8.encode masked) keyword offset = .ok false := starts
    rw [declarationAt, isKeywordAt, starts]
    rfl
  | constant name =>
    have starts : startsWord (Utf8.encode masked) name offset = .ok false := starts
    rw [declarationAt, isNameAt, starts]
    rfl

end

/-! ## The search -/

section

variable {form : EntryForm} {lexicon : Lexicon} {source : Text}

/-- Bytes beyond ASCII are passed. -/
theorem searchFrom_pass (source : Text) (named : form.IsNamed) (masked : Text)
    {ahead run rest : List UInt8} (bytes : Utf8.encode masked = ahead ++ run ++ rest)
    (beyond : ∀ byte ∈ run, 128 ≤ byte.toNat) (depth : Int) (found : List EntryRange) :
    searchFrom form source masked ahead.length depth found =
      searchFrom form source masked (ahead.length + run.length) depth found := by
  induction run generalizing ahead with
  | nil => rfl
  | cons byte run ih =>
    obtain ⟨here, others⟩ := List.forall_mem_cons.mp beyond
    have isByte : (Utf8.encode masked)[ahead.length]? = some byte := by
      rw [bytes]
      simp
    obtain ⟨inside, same⟩ := List.getElem?_eq_some_iff.mp isByte
    have noBracket {c : Char} (ascii : c.toNat < 128) : Char.ofUInt8 byte ≠ c := by
      rintro rfl
      rw [toNat_ofUInt8] at ascii
      omega
    have further : searchFrom form source masked ahead.length depth found =
        searchFrom form source masked (ahead.length + 1) depth found := by
      rw [searchFrom, dif_pos inside, same, declarationAt_of_beyond named source isByte here]
      dsimp only
      rw [if_neg (by simp [noBracket]), if_neg (by simp [noBracket])]
      exact ite_self _
    have behind := @ih (ahead ++ [byte]) (by simp [bytes]) others
    rw [List.length_append, List.length_singleton, Nat.add_assoc, Nat.add_comm 1] at behind
    rw [further, List.length_cons]
    exact behind

/-- A glyph beyond ASCII is passed. -/
theorem searchFrom_beyond (source : Text) (named : form.IsNamed) {glyph : Glyph}
    (beyond : 128 ≤ glyph.shown.toNat) (before rest : List Glyph) (depth : Int)
    (found : List EntryRange) :
    searchFrom form source (Glyph.shownText (before ++ glyph :: rest)) (Glyph.width before) depth
        found =
      searchFrom form source (Glyph.shownText (before ++ glyph :: rest))
        (Glyph.width (before ++ [glyph])) depth found := by
  have bytes : Utf8.encode (Glyph.shownText (before ++ glyph :: rest)) =
      Glyph.bytes before ++ String.utf8EncodeChar glyph.shown ++ Glyph.bytes rest := by
    have bytes := Glyph.bytes_append before (glyph :: rest)
    rwa [Glyph.bytes_cons, ← List.append_assoc] at bytes
  have each : ∀ byte ∈ String.utf8EncodeChar glyph.shown, 128 ≤ byte.toNat := by
    rcases Utf8.encodeChar_cases glyph.shown with ⟨bound, _⟩ | ⟨_, each⟩
    · omega
    · exact each
  have passed := searchFrom_pass source named _ bytes each depth found
  rwa [Glyph.length_bytes, String.length_utf8EncodeChar, ← Glyph.width_concat] at passed

/-- A step at a glyph of ASCII. -/
theorem searchFrom_ascii (form : EntryForm) (source : Text) {glyph : Glyph}
    (ascii : glyph.shown.toNat < 128) (before rest : List Glyph) (depth : Int)
    (found : List EntryRange) :
    searchFrom form source (Glyph.shownText (before ++ glyph :: rest)) (Glyph.width before) depth
        found =
      let goesOn (depth : Int) := searchFrom form source (Glyph.shownText (before ++ glyph :: rest))
        (Glyph.width (before ++ [glyph])) depth found
      if depthStep 0 glyph.shown = 0 ∧ depth = 0 then
        match declarationAt form source (Glyph.shownText (before ++ glyph :: rest))
            (Glyph.width before) with
        | .error fault => .error fault
        | .ok (.found entry) =>
          if Glyph.width before < entry.span.2 then
            searchFrom form source (Glyph.shownText (before ++ glyph :: rest)) entry.span.2 0
              (found ++ [entry])
          else .error .endless
        | .ok .unbalanced => .ok none
        | .ok .absent => goesOn 0
      else goesOn (depthStep depth glyph.shown) := by
  have encoded := encodeChar_of_ascii ascii
  have isByte : (Utf8.encode (Glyph.shownText (before ++ glyph :: rest)))[Glyph.width before]? =
      some (UInt8.ofNat glyph.shown.toNat) := by
    have bytes := Glyph.bytes_append before (glyph :: rest)
    rw [Glyph.bytes_cons, encoded] at bytes
    change (Glyph.bytes (before ++ glyph :: rest))[Glyph.width before]? = _
    rw [bytes, ← Glyph.length_bytes, List.getElem?_append_right (Nat.le_refl _), Nat.sub_self]
    rfl
  obtain ⟨inside, same⟩ := List.getElem?_eq_some_iff.mp isByte
  have width : Glyph.width (before ++ [glyph]) = Glyph.width before + 1 := by
    rw [Glyph.width_concat, ← String.length_utf8EncodeChar, encoded]
    rfl
  rw [searchFrom, dif_pos inside, same, ofUInt8_ofNat ascii, width]
  dsimp only
  by_cases opens : glyph.shown = '{' ∨ glyph.shown = '(' ∨ glyph.shown = '['
  · simp [depthStep, opens]
  by_cases closes : glyph.shown = '\x7d' ∨ glyph.shown = ')' ∨ glyph.shown = ']'
  · simp [depthStep, opens, closes]
  rw [if_neg opens, if_neg closes]
  by_cases level : depth = 0
  · subst level
    have looks : depthStep 0 glyph.shown = 0 ∧ (0 : Int) = 0 := by simp [depthStep, opens, closes]
    exact (if_pos rfl).trans (if_pos looks).symm
  · simp [depthStep, opens, closes, level]

theorem startsPlain_of_isNamed (named : form.IsNamed) : form.StartsPlain := by
  obtain ⟨c, word, opening⟩ := List.exists_cons_of_ne_nil named.opening.1
  have isChar := named.opening.2 c (opening ▸ List.mem_cons_self ..)
  have noBracket := isNoBracket_of_isChar isChar
  rw [isNoBracket, decide_eq_true_eq] at noBracket
  simp only [List.mem_cons, List.not_mem_nil, not_or] at noBracket
  exact ⟨c, by rw [opening]; rfl, by simp [depthStep, noBracket]⟩

/-- The search goes on behind a declaration, which is further on. -/
theorem stop_of_found {before list : List Glyph} {declaration : Declaration}
    (named : form.IsNamed) (split : glyphs lexicon source = before ++ list)
    (reads : readDeclaration form list = .found declaration) :
    (entryOf form before.reverse declaration).range.span.2 =
        Glyph.width (before ++ declaration.glyphs) ∧
      Glyph.width before < (entryOf form before.reverse declaration).range.span.2 := by
  obtain ⟨rfl, read⟩ := readDeclaration_eq_found reads
  have stop : (entryOf form before.reverse declaration).range.span.2 =
      Glyph.width (before ++ declaration.glyphs) := by
    rw [range_entryOf named split read]
  have positive := Glyph.width_pos read.glyphs_ne_nil
  refine ⟨stop, ?_⟩
  rw [stop, Glyph.width_append]
  omega

/-- From the offset of a glyph on the search finds what it finds among the glyphs, and no check
fails. The induction is on how many glyphs are left, as a declaration takes several of them. -/
theorem searchFrom_width (named : form.IsNamed) {before list : List Glyph}
    (split : glyphs lexicon source = before ++ list) (depth : Int) (found : List EntryRange) :
    searchFrom form source (Glyph.shownText (before ++ list)) (Glyph.width before) depth found =
      .ok ((declarations? form 0 before.reverse depth list).map fun entries =>
        found ++ entries.map EntryPoint.range) := by
  induction isLeft : list.length using Nat.strong_induction_on
    generalizing before list depth found with
  | _ left ih =>
    cases list with
    | nil =>
      rw [searchFrom, dif_neg]
      · simp [declarations?]
      · rw [List.append_nil]
        exact (Glyph.length_bytes before).le.not_gt
    | cons glyph rest =>
      have next (deeper : Int) := ih rest.length (by simp [← isLeft])
        (split.trans (List.append_cons before glyph rest)) deeper found rfl
      rw [← List.append_cons, List.reverse_append, List.reverse_singleton, List.singleton_append]
        at next
      obtain ⟨initial, starts, isPlain⟩ := startsPlain_of_isNamed named
      -- Where nothing is declared both searches go on behind the glyph.
      have goesOn (absent : depth = 0 → endsInWord before = false →
          readDeclaration form (glyph :: rest) = .absent) :
          searchFrom form source (Glyph.shownText (before ++ glyph :: rest))
            (Glyph.width (before ++ [glyph])) (depthStep depth glyph.shown) found =
          .ok ((declarations? form 0 before.reverse depth (glyph :: rest)).map fun entries =>
            found ++ entries.map EntryPoint.range) := by
        rw [declarations?_cons (by rwa [List.reverse_reverse]), next]
      by_cases ascii : glyph.shown.toNat < 128
      · rw [searchFrom_ascii form source ascii]
        dsimp only
        split_ifs with looks
        · obtain ⟨noBracket, rfl⟩ := looks
          rw [noBracket] at goesOn
          rw [declarationAt_width named split]
          cases apart : endsInWord before with
          | true => exact goesOn fun _ other => absurd (apart.symm.trans other) (by decide)
          | false =>
            have outside : endsInWord before.reverse.reverse = false := by
              rwa [List.reverse_reverse]
            cases reads : readDeclaration form (glyph :: rest) with
            | absent => exact goesOn fun _ _ => reads
            | unbalanced =>
              rw [declarations?_unbalanced noBracket outside reads]
              rfl
            | found declaration =>
              obtain ⟨stop, advances⟩ := stop_of_found named split reads
              obtain ⟨whole, read⟩ := readDeclaration_eq_found reads
              have cut : glyphs lexicon source =
                  before ++ declaration.glyphs ++ declaration.after := by
                rw [split, whole, List.append_assoc]
              have fewer : declaration.after.length < left := by
                have filled := List.length_pos_iff.mpr read.glyphs_ne_nil
                rw [← isLeft, whole, List.length_append]
                omega
              have further := ih declaration.after.length fewer cut 0
                (found ++ [(entryOf form before.reverse declaration).range]) rfl
              rw [← stop, List.append_assoc, ← whole, List.reverse_append] at further
              rw [declarations?_found (startsPlain_of_isNamed named) outside reads, Option.map_map]
              refine (if_pos advances).trans (further.trans (congrArg Except.ok ?_))
              refine congrArg (Option.map · _) (funext fun entries => ?_)
              rw [List.append_assoc]
              rfl
        · refine goesOn fun level _ => readDeclaration_of_initial starts ?_ rest
          rintro same
          exact looks ⟨same ▸ isPlain, level⟩
      · have other {c : Char} (bound : c.toNat < 128) : glyph.shown ≠ c := by
          rintro rfl
          exact ascii bound
        have noBracket : depthStep depth glyph.shown = depth := by
          simp [depthStep, other]
        obtain ⟨word, opening⟩ := List.head?_eq_some_iff.mp starts
        have isChar := named.opening.2 initial (opening ▸ List.mem_cons_self ..)
        have absent := readDeclaration_of_initial starts (other (toNat_lt_of_isChar isChar)) rest
        rw [searchFrom_beyond source named (Nat.le_of_not_lt ascii), ← goesOn fun _ _ => absent,
          noBracket]

/-- The search by offsets finds the entry point of a source, and no check fails. -/
theorem findEntry_eq (lexicon : Lexicon) (named : form.IsNamed) (source : Text) :
    findEntry lexicon form source =
      .ok ((entryPoint? lexicon form source).map EntryPoint.range) := by
  have split : glyphs lexicon source = [] ++ glyphs lexicon source := rfl
  have search : searchFrom form source (mask lexicon source) 0 0 [] =
      .ok ((declarations? form 0 [] 0 (glyphs lexicon source)).map (·.map EntryPoint.range)) :=
    searchFrom_width named split 0 []
  rw [findEntry, maskFrom_zero]
  change searchFrom form source (mask lexicon source) 0 0 [] >>= _ = _
  rw [search, entryPoint?]
  cases declarations? form 0 [] 0 (glyphs lexicon source) with
  | none => rfl
  | some entries =>
    cases entries with
    | nil => rfl
    | cons entry others => cases others <;> rfl

end

/-! ## The cuts -/

/-- The declaration as it stands in the source. -/
def EntryPoint.declared (entry : EntryPoint) : Text :=
  entry.lead ++ entry.name ++ entry.tail

/-- Puts another text in the place of a range. -/
def replaceRange (text : Text) (range : Nat × Nat) (replacement : Text) : Except Fault Text := do
  let before ← slice text 0 range.1
  let after ← slice text range.2 text.byteLength
  pure (before ++ replacement ++ after)

/-- Puts a text in at an offset. -/
def insertAt (text : Text) (offset : Nat) (part : Text) : Except Fault Text :=
  replaceRange text (offset, offset) part

/-- An entry point can be cut out of its source, and nothing is lost. -/
structure EntryPoint.IsCutOf (entry : EntryPoint) (source name newName : Text) : Prop where
  order : entry.span.1 ≤ entry.nameSpan.1 ∧ entry.nameSpan.1 < entry.nameSpan.2 ∧
    entry.nameSpan.2 ≤ entry.span.2 ∧ entry.span.2 ≤ source.byteLength
  /-- Each offset is that of a character or of the end. -/
  boundaries : ∀ offset ∈ [entry.span.1, entry.nameSpan.1, entry.nameSpan.2, entry.span.2],
    (cutAt? offset source).isSome = true
  name : slice source entry.nameSpan.1 entry.nameSpan.2 = .ok name
  declared : slice source entry.span.1 entry.span.2 = .ok entry.declared
  brace : entry.declared.getLast? = some '\x7d'
  splice : spliceEntry source entry.range newName =
    .ok ⟨entry.renamed newName, entry.remainder, entry.returns⟩
  /-- Of the declaration only the name is replaced. -/
  renamed : replaceRange entry.declared
    (entry.nameSpan.1 - entry.span.1, entry.nameSpan.2 - entry.span.1) newName =
      .ok (entry.renamed newName)
  /-- What is left is the source without the declaration. -/
  restored : insertAt entry.remainder entry.span.1 entry.declared = .ok source

theorem replaceRange_append (before part after replacement : Text) :
    replaceRange (before ++ part ++ after) (before.byteLength, (before ++ part : Text).byteLength)
      replacement = .ok (before ++ replacement ++ after) := by
  have first := slice_append [] before (part ++ after)
  have second := slice_append (before ++ part) after []
  rw [List.nil_append, ← List.append_assoc] at first
  rw [List.append_nil] at second
  rw [replaceRange]
  dsimp only
  rw [show slice (before ++ part ++ after) 0 before.byteLength = .ok before from first, second]
  rfl

theorem slice_prefix (text rest : Text) : slice (text ++ rest) 0 text.byteLength = .ok text :=
  slice_append [] text rest

theorem slice_suffix (text rest : Text) :
    slice (text ++ rest) text.byteLength (text ++ rest : Text).byteLength = .ok rest := by
  have part := slice_append text rest []
  rwa [List.append_nil] at part

theorem isSome_cutAt? (text rest : Text) :
    (cutAt? text.byteLength (text ++ rest)).isSome = true := by
  rw [cutAt?_eq_some_iff.mpr ⟨rfl, rfl⟩]
  rfl

namespace EntryPoint

/-- The parts of a source put together. -/
def whole (entry : EntryPoint) : Text :=
  entry.before ++ (entry.lead ++ (entry.name ++ (entry.tail ++ entry.after)))

variable (entry : EntryPoint)

theorem span_fst : entry.span.1 = entry.before.byteLength :=
  rfl

theorem span_snd : entry.span.2 = (entry.before ++ entry.declared : Text).byteLength :=
  (Utf8.byteLength_append ..).symm

theorem nameSpan_fst : entry.nameSpan.1 = (entry.before ++ entry.lead : Text).byteLength :=
  rfl

theorem nameSpan_snd :
    entry.nameSpan.2 = (entry.before ++ entry.lead ++ entry.name : Text).byteLength :=
  (Utf8.byteLength_append ..).symm

/-- The source is cut at the ends of the declaration, -/
theorem whole_eq_declared : entry.whole = entry.before ++ entry.declared ++ entry.after := by
  rw [whole, declared]
  simp only [List.append_assoc]

/-- and at those of the name. -/
theorem whole_eq_name :
    entry.whole = entry.before ++ entry.lead ++ entry.name ++ (entry.tail ++ entry.after) := by
  rw [whole]
  simp only [List.append_assoc]

theorem isSome_cutAt?_whole {offset : Nat}
    (isEnd : offset ∈ [entry.span.1, entry.nameSpan.1, entry.nameSpan.2, entry.span.2]) :
    (cutAt? offset entry.whole).isSome = true := by
  simp only [List.mem_cons, List.not_mem_nil, or_false] at isEnd
  rcases isEnd with rfl | rfl | rfl | rfl
  · rw [span_fst, whole_eq_declared, List.append_assoc]
    exact isSome_cutAt? ..
  · rw [nameSpan_fst, whole_eq_name, List.append_assoc _ entry.name]
    exact isSome_cutAt? ..
  · rw [nameSpan_snd, whole_eq_name]
    exact isSome_cutAt? ..
  · rw [span_snd, whole_eq_declared]
    exact isSome_cutAt? ..

theorem slice_span : slice entry.whole entry.span.1 entry.span.2 = .ok entry.declared := by
  rw [span_fst, span_snd, whole_eq_declared]
  exact slice_append ..

theorem slice_nameSpan :
    slice entry.whole entry.nameSpan.1 entry.nameSpan.2 = .ok entry.name := by
  rw [nameSpan_fst, nameSpan_snd, whole_eq_name]
  exact slice_append ..

/-- Cutting by offsets gives the parts. -/
theorem spliceEntry_range (newName : Text) :
    spliceEntry entry.whole entry.range newName =
      .ok ⟨entry.renamed newName, entry.remainder, entry.returns⟩ := by
  have lead : slice entry.whole entry.span.1 entry.nameSpan.1 = .ok entry.lead := by
    rw [span_fst, nameSpan_fst, whole_eq_name, List.append_assoc _ entry.name]
    exact slice_append ..
  have tail : slice entry.whole entry.nameSpan.2 entry.span.2 = .ok entry.tail := by
    have isName : entry.before ++ entry.declared =
        entry.before ++ entry.lead ++ entry.name ++ entry.tail := by
      rw [declared]
      simp only [List.append_assoc]
    rw [nameSpan_snd, span_snd, whole_eq_declared, isName]
    exact slice_append ..
  have before : slice entry.whole 0 entry.span.1 = .ok entry.before := by
    rw [span_fst, whole_eq_declared, List.append_assoc]
    exact slice_prefix ..
  have after : slice entry.whole entry.span.2 entry.whole.byteLength = .ok entry.after := by
    rw [span_snd, whole_eq_declared]
    exact slice_suffix ..
  rw [spliceEntry, range]
  dsimp only
  rw [lead, tail, before, after]
  rfl

theorem replaceRange_declared (newName : Text) :
    replaceRange entry.declared
        (entry.nameSpan.1 - entry.span.1, entry.nameSpan.2 - entry.span.1) newName =
      .ok (entry.renamed newName) := by
  have start : entry.nameSpan.1 - entry.span.1 = entry.lead.byteLength := by
    rw [nameSpan_fst, span_fst, Utf8.byteLength_append]
    omega
  have stop : entry.nameSpan.2 - entry.span.1 = (entry.lead ++ entry.name : Text).byteLength := by
    rw [nameSpan_snd, span_fst]
    simp only [Utf8.byteLength_append]
    omega
  rw [start, stop]
  exact replaceRange_append ..

theorem insertAt_remainder :
    insertAt entry.remainder entry.span.1 entry.declared = .ok entry.whole := by
  have cut := replaceRange_append entry.before [] entry.after entry.declared
  rw [List.append_nil] at cut
  rw [whole_eq_declared]
  exact cut

end EntryPoint

section

variable {form : EntryForm} {lexicon : Lexicon} {source : Text} {entry : EntryPoint}

theorem EntryParts.getLast?_tail (parts : EntryParts form (glyphs lexicon source) entry) :
    entry.tail.getLast? = some '\x7d' := by
  obtain ⟨brace, last, isBrace⟩ := Option.map_eq_some_iff.mp parts.tailEnds
  obtain ⟨inside, ends⟩ := List.getLast?_eq_some_iff.mp last
  have inSource : brace ∈ glyphs lexicon source := by
    rw [parts.whole, ends]
    simp
  have code := eq_code_of_shown inSource (by rw [isBrace]; decide)
  rw [isBrace] at code
  rw [← parts.tailText, ends, code, Glyph.sourceText_append]
  exact List.getLast?_concat

/-- An entry point that was found can be cut out. -/
theorem isCutOf (named : form.IsNamed) (found : entryPoint? lexicon form source = some entry)
    (newName : Text) : entry.IsCutOf source form.name newName := by
  obtain ⟨parts⟩ := exists_parts found
  have isName := (parts.name_eq named).2
  have brace := parts.getLast?_tail
  obtain rfl : source = entry.whole := parts.source_eq
  have filled : 0 < entry.name.byteLength := by
    obtain ⟨c, word, name⟩ := List.exists_cons_of_ne_nil named.name.1
    have size := c.utf8Size_pos
    rw [isName, name, Utf8.byteLength_cons]
    omega
  refine ⟨?_, fun offset => entry.isSome_cutAt?_whole, isName ▸ entry.slice_nameSpan,
    entry.slice_span, ?_, entry.spliceEntry_range newName, entry.replaceRange_declared newName,
    entry.insertAt_remainder⟩
  · rw [entry.span_fst, entry.nameSpan_fst, entry.nameSpan_snd, entry.span_snd,
      entry.whole_eq_declared, EntryPoint.declared]
    simp only [Utf8.byteLength_append]
    omega
  · rw [EntryPoint.declared, List.getLast?_append, brace]
    rfl

/-- The search by offsets stays within its texts, finds the entry point of a source, and gives
offsets by which it is cut out. -/
theorem findEntry_cuts (lexicon : Lexicon) (named : form.IsNamed) (source newName : Text) :
    findEntry lexicon form source =
        .ok ((entryPoint? lexicon form source).map EntryPoint.range) ∧
      ∀ entry, entryPoint? lexicon form source = some entry →
        entry.IsCutOf source form.name newName :=
  ⟨findEntry_eq lexicon named source, fun _ found => isCutOf named found newName⟩

/-- Characters of several bytes, in a comment and next to a bracket. -/
theorem findEntry_cuts_zig :
    (EntryForm.function "fn" "main").IsNamed ∧
      findEntry .zig (.function "fn" "main") "// é\npub fn main() !void {é}\n" =
        .ok (some ⟨(6, 30), (13, 17), "!void"⟩) ∧
      EntryPoint.IsCutOf ⟨"// é\n", "pub fn ", "main", "() !void {é}", "\n", "!void"⟩
        "// é\npub fn main() !void {é}\n" "main" "run" := by
  have named : (EntryForm.function "fn" "main").IsNamed :=
    ⟨⟨by decide, List.all_eq_true.mp rfl⟩, by decide, List.all_eq_true.mp rfl⟩
  have found : entryPoint? .zig (.function "fn" "main") "// é\npub fn main() !void {é}\n" =
      some ⟨"// é\n", "pub fn ", "main", "() !void {é}", "\n", "!void"⟩ := rfl
  have cuts := findEntry_cuts .zig named "// é\npub fn main() !void {é}\n" "run"
  rw [found] at cuts
  exact ⟨named, cuts.1, cuts.2 _ rfl⟩

end

end Notebook.Source
