import Mathlib.Data.List.Forall2
import Notebook.Proofs.Source.Cutting
import Notebook.Proofs.Text.Utf8

/-! # Masks

A mask has the bytes of its text, or blanks in their place, so an offset means the same in both.
What is left to see is code: of a comment or a literal no character stays that could open one, and
blanks in its place open none, so a mask is its own mask.
-/

namespace Notebook.Source

/-! ## Where code starts -/

/-- What comments and line literals open with. -/
def Lexicon.openings (lexicon : Lexicon) : List Text :=
  lexicon.lineComment :: (lexicon.lineString.toList ++ lexicon.blockComment.toList.map (·.1))

/-- Nothing opens with a blank, and comments open with several characters. -/
structure Lexicon.IsRegular (lexicon : Lexicon) : Prop where
  openings : ∀ opening ∈ lexicon.openings, 2 ≤ opening.length ∧ ' ' ∉ opening ∧ '\n' ∉ opening
  quotes : ' ' ∉ lexicon.quotes ∧ '\n' ∉ lexicon.quotes
  doubleQuote : '"' ∈ lexicon.quotes

theorem isRegular_of_mem {lexicon : Lexicon}
    (known : lexicon ∈ [Lexicon.rust, Lexicon.go, Lexicon.zig, Lexicon.jai]) :
    lexicon.IsRegular := by
  simp only [List.mem_cons, List.not_mem_nil, or_false] at known
  rcases known with rfl | rfl | rfl | rfl
  all_goals exact ⟨by decide, by decide, by decide⟩

/-- No comment and no literal opens at a character, given the one before and what follows. -/
structure Lexicon.StartsCode (lexicon : Lexicon) (previous : Option Char) (c : Char)
    (rest : Text) : Prop where
  openings : ∀ opening ∈ lexicon.openings, ¬opening <+: c :: rest
  raw : lexicon.rawStrings = true → c = 'r' → previous.any isIdentifierChar = false →
    Lexicon.rawLength? rest = none
  quote : c ∉ lexicon.quotes
  charLiteral : lexicon.charLiterals = true → c = '\'' → Lexicon.charLength? rest = none

section

variable {lexicon : Lexicon} {previous : Option Char} {c : Char} {rest : Text}

theorem two_le_lineLength {opening text : Text}
    (regular : 2 ≤ opening.length ∧ ' ' ∉ opening ∧ '\n' ∉ opening) (opens : opening <+: text) :
    2 ≤ Lexicon.lineLength text := by
  obtain ⟨body, rfl⟩ := opens
  have line : ∀ c ∈ opening, decide (c ≠ '\n') = true := by
    intro c member
    rw [decide_eq_true_eq]
    rintro rfl
    exact regular.2.2 member
  rw [Lexicon.lineLength, List.takeWhile_append_of_pos line, List.length_append]
  omega

theorem min_le_quotedLength (quote : Char) (escapes : Bool) (text : Text) :
    min 1 text.length ≤ Lexicon.quotedLength quote escapes text := by
  match text with
  | [] => exact Nat.zero_le _
  | [_] => exact Nat.le_refl _
  | c :: d :: rest =>
    rw [Lexicon.quotedLength]
    split_ifs <;> omega

theorem two_le_of_rawLength? {text : Text} {length : Nat}
    (reads : Lexicon.rawLength? text = some length) : 2 ≤ length := by
  simp only [Lexicon.rawLength?] at reads
  split at reads
  next => rw [← Option.some_inj.mp reads]; omega
  next => cases reads

theorem three_le_of_charLength? {text : Text} {length : Nat}
    (reads : Lexicon.charLength? text = some length) : 3 ≤ length := by
  rw [Lexicon.charLength?.eq_def] at reads
  split at reads
  next =>
    simp only at reads
    split at reads
    next => rw [← Option.some_inj.mp reads]; omega
    next => cases reads
  next =>
    split at reads
    next => rw [← Option.some_inj.mp reads]
    next => cases reads
  next => cases reads

theorem not_opens {text : Text} (line : ¬lexicon.lineComment <+: text)
    (string : ∀ opening ∈ lexicon.lineString, ¬opening <+: text)
    (block : ∀ marks ∈ lexicon.blockComment, ¬marks.1 <+: text) :
    ∀ opening ∈ lexicon.openings, ¬opening <+: text := by
  intro opening isOpening
  rcases List.mem_cons.mp isOpening with rfl | isOpening
  · exact line
  rcases List.mem_append.mp isOpening with isString | isBlock
  · exact string opening (Option.mem_toList.mp isString)
  · obtain ⟨marks, isMarks, rfl⟩ := List.mem_map.mp isBlock
    exact block marks (Option.mem_toList.mp isMarks)

/-- Code starts at a character, or a comment or a literal does, which then has several characters
unless the text ends. -/
theorem startsCode_or_le (regular : lexicon.IsRegular) (previous : Option Char) (c : Char)
    (rest : Text) :
    lexicon.StartsCode previous c rest ∧ lexicon.hiddenLength previous (c :: rest) = 0 ∨
      ¬lexicon.StartsCode previous c rest ∧
        min 2 (rest.length + 1) ≤ lexicon.hiddenLength previous (c :: rest) := by
  have notCode : ∀ opening ∈ lexicon.openings, opening <+: c :: rest →
      ¬lexicon.StartsCode previous c rest :=
    fun opening isOpening opens code => code.openings opening isOpening opens
  rw [Lexicon.hiddenLength]
  split
  next line =>
    have opens : ∃ opening ∈ lexicon.openings, opening <+: c :: rest := by
      rcases line with opens | opens
      · exact ⟨lexicon.lineComment, List.mem_cons_self .., List.isPrefixOf_iff_prefix.mp opens⟩
      · obtain ⟨opening, isOpening, opens⟩ := (Option.any_eq_true ..).mp opens
        refine ⟨opening, ?_, List.isPrefixOf_iff_prefix.mp opens⟩
        simp [Lexicon.openings, isOpening]
    obtain ⟨opening, isOpening, opens⟩ := opens
    have long := two_le_lineLength (regular.openings opening isOpening) opens
    exact .inr ⟨notCode opening isOpening opens, by omega⟩
  next notLine =>
    split
    next length block =>
      obtain ⟨⟨opening, closing⟩, isBlock, block⟩ := Option.bind_eq_some_iff.mp block
      obtain ⟨body, opens, rfl⟩ := Option.map_eq_some_iff.mp block
      have isOpening : opening ∈ lexicon.openings := by simp [Lexicon.openings, isBlock]
      have long := (regular.openings opening isOpening).1
      have opens : opening <+: c :: rest :=
        ⟨body, List.isPrefixOf?_eq_some_iff_append_eq.mp opens⟩
      exact .inr ⟨notCode opening isOpening opens, by omega⟩
    next notBlock =>
      split
      next length raw =>
        obtain ⟨⟨rawStrings, isRaw, apart⟩, raw⟩ := Option.ite_none_right_eq_some.mp raw
        have long := two_le_of_rawLength? raw
        refine .inr ⟨fun code => ?_, by omega⟩
        rw [code.raw rawStrings isRaw (Bool.eq_false_iff.mpr apart)] at raw
        cases raw
      next notRaw =>
        have code (noQuote : c ∉ lexicon.quotes) (noLiteral : lexicon.charLiterals = true →
            c = '\'' → Lexicon.charLength? rest = none) : lexicon.StartsCode previous c rest := by
          refine ⟨not_opens ?_ ?_ ?_, fun rawStrings isRaw apart => ?_, noQuote, noLiteral⟩
          · exact fun opens => notLine (.inl (List.isPrefixOf_iff_prefix.mpr opens))
          · exact fun opening isString opens => notLine (.inr ((Option.any_eq_true ..).mpr
              ⟨opening, isString, List.isPrefixOf_iff_prefix.mpr opens⟩))
          · rintro marks isMarks ⟨body, opens⟩
            rw [Option.mem_def.mp isMarks, Option.bind_some] at notBlock
            have opens := List.isPrefixOf?_eq_some_iff_append_eq.mpr opens
            rw [Option.map_eq_none_iff.mp notBlock] at opens
            cases opens
          · rwa [if_pos ⟨rawStrings, isRaw, Bool.eq_false_iff.mp apart⟩] at notRaw
        split_ifs with quote charLiteral
        · have long := min_le_quotedLength c (!(lexicon.rawBacktick && decide (c = '\x60'))) rest
          refine .inr ⟨fun code => code.quote (List.contains_iff_mem.mp quote), ?_⟩
          omega
        · rw [List.contains_iff_mem] at quote
          cases reads : Lexicon.charLength? rest with
          | none => exact .inl ⟨code quote fun _ _ => reads, rfl⟩
          | some length =>
            have long := three_le_of_charLength? reads
            refine .inr ⟨fun code => ?_, by simp only [Option.getD_some]; omega⟩
            rw [code.charLiteral charLiteral.1 charLiteral.2] at reads
            cases reads
        · rw [List.contains_iff_mem] at quote
          exact .inl ⟨code quote fun charLiterals isQuote =>
            absurd ⟨charLiterals, isQuote⟩ charLiteral, rfl⟩

theorem hiddenLength_eq_zero_iff (regular : lexicon.IsRegular) :
    lexicon.hiddenLength previous (c :: rest) = 0 ↔ lexicon.StartsCode previous c rest := by
  rcases startsCode_or_le regular previous c rest with ⟨code, none⟩ | ⟨noCode, long⟩
  · exact iff_of_true none code
  · exact iff_of_false (by omega) noCode

/-- Blanks are code. -/
theorem hiddenLength_blank (regular : lexicon.IsRegular) (blank : c = ' ' ∨ c = '\n') :
    lexicon.hiddenLength previous (c :: rest) = 0 := by
  refine (hiddenLength_eq_zero_iff regular).mpr ⟨?_, ?_, ?_, ?_⟩
  · intro opening isOpening opens
    obtain ⟨long, noSpace, noNewline⟩ := regular.openings opening isOpening
    cases opening with
    | nil => cases long
    | cons first opening =>
      obtain ⟨rfl, _⟩ := List.cons_prefix_cons.mp opens
      rcases blank with rfl | rfl
      · exact noSpace (List.mem_cons_self ..)
      · exact noNewline (List.mem_cons_self ..)
  · rintro _ rfl
    rcases blank with blank | blank <;> cases blank
  · rcases blank with rfl | rfl
    · exact regular.quotes.1
    · exact regular.quotes.2
  · rintro _ rfl
    rcases blank with blank | blank <;> cases blank

end

/-! ## What marks show -/

/-- What is shown of a hidden character: as many blanks as it has bytes. -/
def blanked (c : Char) : Text :=
  if c = '\n' then ['\n'] else List.replicate c.utf8Size ' '

/-- How marked characters are shown. -/
def shownMarks (marks : List (Char × Bool)) : Text :=
  Glyph.shownText (marks.flatMap glyphsOf)

theorem mask_eq_shownMarks (lexicon : Lexicon) (source : Text) :
    mask lexicon source = shownMarks (shade lexicon 0 none source) :=
  rfl

theorem eq_blank_of_mem_blanked {c d : Char} (member : d ∈ blanked c) : d = ' ' ∨ d = '\n' := by
  rw [blanked] at member
  split at member
  · exact .inr (List.mem_singleton.mp member)
  · exact .inl (List.eq_of_mem_replicate member)

theorem blanked_ne_nil (c : Char) : blanked c ≠ [] := by
  rw [blanked]
  split
  · exact List.cons_ne_nil _ _
  · rw [Ne, List.replicate_eq_nil_iff]
    exact c.utf8Size_pos.ne'

theorem shownMarks_append (marks others : List (Char × Bool)) :
    shownMarks (marks ++ others) = shownMarks marks ++ shownMarks others := by
  rw [shownMarks, List.flatMap_append, Glyph.shownText, List.map_append]
  rfl

theorem shownMarks_code (c : Char) (marks : List (Char × Bool)) :
    shownMarks ((c, true) :: marks) = c :: shownMarks marks :=
  rfl

theorem shownMarks_hidden (c : Char) (marks : List (Char × Bool)) :
    shownMarks ((c, false) :: marks) = blanked c ++ shownMarks marks := by
  rw [shownMarks, List.flatMap_cons, Glyph.shownText, List.map_append]
  congr 1
  by_cases newline : c = '\n'
  · rw [newline]
    rfl
  · obtain ⟨size, bytes⟩ := Nat.exists_eq_succ_of_ne_zero c.utf8Size_pos.ne'
    rw [glyphsOf_hidden newline, blanked, if_neg newline, bytes, List.map_cons, List.map_replicate,
      Nat.succ_sub_one, List.replicate_succ]

section

variable {c : Char} {marks : List (Char × Bool)}

/-- What is shown and is no blank is code. -/
theorem eq_code_of_shownMarks {text : Text} (visible : c ≠ ' ' ∧ c ≠ '\n')
    (shown : shownMarks marks = c :: text) :
    ∃ behind, marks = (c, true) :: behind ∧ shownMarks behind = text := by
  cases marks with
  | nil => cases shown
  | cons mark marks =>
    obtain ⟨d, isCode⟩ := mark
    cases isCode with
    | true =>
      rw [shownMarks_code] at shown
      obtain ⟨rfl, rfl⟩ := List.cons_eq_cons.mp shown
      exact ⟨marks, rfl, rfl⟩
    | false =>
      obtain ⟨first, blanks, isFirst⟩ := List.exists_cons_of_ne_nil (blanked_ne_nil d)
      rw [shownMarks_hidden, isFirst] at shown
      obtain ⟨rfl, _⟩ := List.cons_eq_cons.mp shown
      rcases eq_blank_of_mem_blanked (isFirst ▸ List.mem_cons_self ..) with blank | blank
      · exact absurd blank visible.1
      · exact absurd blank visible.2

/-- A phrase without blanks that is shown stands in the text. -/
theorem prefix_of_prefix_shownMarks {phrase : Text} (plain : ' ' ∉ phrase ∧ '\n' ∉ phrase)
    (shown : phrase <+: shownMarks marks) : phrase <+: marks.map (·.1) := by
  induction phrase generalizing marks with
  | nil => exact List.nil_prefix
  | cons c phrase ih =>
    obtain ⟨rest, shown⟩ := shown
    obtain ⟨noSpace, noNewline⟩ := plain
    rw [List.mem_cons, not_or] at noSpace noNewline
    obtain ⟨behind, rfl, same⟩ :=
      eq_code_of_shownMarks ⟨Ne.symm noSpace.1, Ne.symm noNewline.1⟩ shown.symm
    rw [List.map_cons, List.cons_prefix_cons]
    exact ⟨rfl, ih ⟨noSpace.2, noNewline.2⟩ ⟨rest, same.symm⟩⟩

/-- A character that is shown stands in the text, and not farther from its start. -/
theorem mem_take_of_mem_take_shownMarks (visible : c ≠ ' ' ∧ c ≠ '\n') {count : Nat}
    (shown : c ∈ (shownMarks marks).take count) : c ∈ (marks.map (·.1)).take count := by
  induction marks generalizing count with
  | nil => exact absurd shown (by simp [shownMarks, Glyph.shownText])
  | cons mark marks ih =>
    obtain ⟨d, isCode⟩ := mark
    cases count with
    | zero => cases shown
    | succ count =>
      rw [List.map_cons, List.take_succ_cons]
      cases isCode with
      | true =>
        rw [shownMarks_code, List.take_succ_cons] at shown
        rcases List.mem_cons.mp shown with rfl | shown
        · exact List.mem_cons_self ..
        · exact List.mem_cons_of_mem _ (ih shown)
      | false =>
        rw [shownMarks_hidden, List.take_append] at shown
        rcases List.mem_append.mp shown with blank | shown
        · rcases eq_blank_of_mem_blanked (List.mem_of_mem_take blank) with blank | blank
          · exact absurd blank visible.1
          · exact absurd blank visible.2
        · have filled := List.length_pos_iff.mpr (blanked_ne_nil d)
          exact List.mem_cons_of_mem _ (ih (List.take_subset_take_left _ (by omega) shown))

theorem mem_take_tail_of_mem_take_tail_shownMarks (visible : c ≠ ' ' ∧ c ≠ '\n') {count : Nat}
    (shown : c ∈ (shownMarks marks).tail.take count) :
    c ∈ (marks.map (·.1)).tail.take count := by
  cases marks with
  | nil => exact absurd shown (by simp [shownMarks, Glyph.shownText])
  | cons mark marks =>
    obtain ⟨d, isCode⟩ := mark
    cases isCode with
    | true => exact mem_take_of_mem_take_shownMarks visible shown
    | false =>
      obtain ⟨first, blanks, isFirst⟩ := List.exists_cons_of_ne_nil (blanked_ne_nil d)
      rw [shownMarks_hidden, isFirst, List.cons_append, List.tail_cons, List.take_append] at shown
      rcases List.mem_append.mp shown with blank | shown
      · have member : c ∈ blanked d := isFirst ▸ List.mem_cons_of_mem _ (List.mem_of_mem_take blank)
        rcases eq_blank_of_mem_blanked member with blank | blank
        · exact absurd blank visible.1
        · exact absurd blank visible.2
      · exact mem_take_of_mem_take_shownMarks visible
          (List.take_subset_take_left _ (Nat.sub_le ..) shown)

end

/-! ## Masks of masks -/

/-- All of the text is code. -/
def IsCode (lexicon : Lexicon) (previous : Option Char) (text : Text) : Prop :=
  shade lexicon 0 previous text = text.map fun c => (c, true)

section

variable {lexicon : Lexicon} {previous : Option Char} {c : Char} {text : Text}

theorem isCode_nil (lexicon : Lexicon) (previous : Option Char) : IsCode lexicon previous [] :=
  rfl

theorem isCode_cons (here : lexicon.hiddenLength previous (c :: text) = 0)
    (behind : IsCode lexicon (some c) text) : IsCode lexicon previous (c :: text) := by
  rw [IsCode, shade, here, behind]
  rfl

theorem IsCode.glyphs (code : IsCode lexicon none text) :
    glyphs lexicon text = text.map Glyph.code := by
  rw [glyphs_eq_flatMap, code, List.flatMap_map, List.map_eq_flatMap]
  rfl

theorem IsCode.mask (code : IsCode lexicon none text) : mask lexicon text = text := by
  rw [Source.mask, code.glyphs, Glyph.shownText, List.map_map]
  exact List.map_id _

theorem isCode_blanks (regular : lexicon.IsRegular) {blanks : Text}
    (blank : ∀ c ∈ blanks, c = ' ' ∨ c = '\n')
    (behind : ∀ previous, IsCode lexicon previous text) :
    ∀ previous, IsCode lexicon previous (blanks ++ text) := by
  induction blanks with
  | nil => exact behind
  | cons c blanks ih =>
    obtain ⟨here, others⟩ := List.forall_mem_cons.mp blank
    exact fun _ => isCode_cons (hiddenLength_blank regular here) (ih others _)

/-- A comment or a literal does not end with its first character. -/
theorem not_code_behind_opening (regular : lexicon.IsRegular) {d : Char}
    {marks : List (Char × Bool)}
    (shaded : shade lexicon 0 previous text = (c, false) :: (d, true) :: marks) : False := by
  have chars := map_fst_shade lexicon 0 previous text
  rw [shaded] at chars
  subst chars
  rw [List.map_cons, List.map_cons, shade] at shaded
  have long := startsCode_or_le regular previous c (d :: marks.map (·.1))
  split at shaded
  next => cases shaded
  next length hidden =>
    obtain ⟨_, behind⟩ := List.cons_eq_cons.mp shaded
    cases length with
    | zero =>
      rw [hidden, List.length_cons] at long
      omega
    | succ length => cases behind

theorem doubleQuote_mem_of_rawLength? {length : Nat}
    (reads : Lexicon.rawLength? text = some length) : '"' ∈ text := by
  simp only [Lexicon.rawLength?] at reads
  split at reads
  next body opens =>
    have suffix := List.dropWhile_suffix (fun c => decide (c = '#')) (l := text)
    rw [opens] at suffix
    exact suffix.subset (List.mem_cons_self ..)
  next => cases reads

/-- An escape is a literal if an apostrophe follows closely. -/
theorem charLength?_escape_eq_none_iff :
    Lexicon.charLength? ('\\' :: text) = none ↔ '\'' ∉ text.tail.take 9 := by
  rw [Lexicon.charLength?, List.drop_one]
  simp

/-- An apostrophe that opens no literal in a text opens none in its mask. -/
theorem charLength?_shownMarks (regular : lexicon.IsRegular)
    (none : Lexicon.charLength? text = none) :
    Lexicon.charLength? (shownMarks (shade lexicon 0 previous text)) = Option.none := by
  have chars := map_fst_shade lexicon 0 previous text
  generalize shaded : shade lexicon 0 previous text = marks at chars
  rw [Option.eq_none_iff_forall_not_mem]
  intro length reads
  rw [Option.mem_def, Lexicon.charLength?.eq_def] at reads
  split at reads
  next rest shown =>
    obtain ⟨behind, rfl, rfl⟩ := eq_code_of_shownMarks (by decide) shown
    subst chars
    refine charLength?_escape_eq_none_iff.mp none ?_
    apply mem_take_tail_of_mem_take_tail_shownMarks (by decide)
    rw [List.drop_one] at reads
    by_contra absent
    simp [absent] at reads
  next d rest noEscape shown =>
    cases marks with
    | nil => cases shown
    | cons mark marks =>
      obtain ⟨e, isCode⟩ := mark
      cases isCode with
      | true =>
        rw [shownMarks_code] at shown
        obtain ⟨rfl, next⟩ := List.cons_eq_cons.mp shown
        obtain ⟨behind, rfl, _⟩ := eq_code_of_shownMarks (by decide) next
        subst chars
        rw [List.map_cons, List.map_cons, Lexicon.charLength?] at none
        · rw [reads] at none
          cases none
        · exact noEscape
      | false =>
        obtain ⟨first, blanks, isFirst⟩ := List.exists_cons_of_ne_nil (blanked_ne_nil e)
        rw [shownMarks_hidden, isFirst] at shown
        obtain ⟨_, next⟩ := List.cons_eq_cons.mp shown
        cases blanks with
        | nil =>
          obtain ⟨behind, rfl, _⟩ := eq_code_of_shownMarks (by decide) next
          exact not_code_behind_opening regular shaded
        | cons blank blanks =>
          obtain ⟨rfl, _⟩ := List.cons_eq_cons.mp next
          have member : '\'' ∈ blanked e := by simp [isFirst]
          rcases eq_blank_of_mem_blanked member with blank | blank <;> cases blank
  next => cases reads

/-- A mask has no quotes. -/
theorem not_mem_shownMarks (regular : lexicon.IsRegular) {quote : Char}
    (isQuote : quote ∈ lexicon.quotes) (pending : Nat) (previous : Option Char) :
    quote ∉ shownMarks (shade lexicon pending previous text) := by
  have visible : ¬(quote = ' ' ∨ quote = '\n') := by
    rintro (rfl | rfl)
    · exact regular.quotes.1 isQuote
    · exact regular.quotes.2 isQuote
  have hidden (c : Char) {marks : List (Char × Bool)} (behind : quote ∉ shownMarks marks) :
      quote ∉ shownMarks ((c, false) :: marks) := by
    rw [shownMarks_hidden, List.mem_append, not_or]
    exact ⟨fun member => visible (eq_blank_of_mem_blanked member), behind⟩
  induction text generalizing pending previous with
  | nil => cases pending <;> exact List.not_mem_nil
  | cons c text ih =>
    cases pending with
    | succ pending => exact hidden c (ih pending (some c))
    | zero =>
      rw [shade]
      split
      next code =>
        have starts := (hiddenLength_eq_zero_iff regular).mp code
        rw [shownMarks_code, List.mem_cons, not_or]
        refine ⟨?_, ih 0 (some c)⟩
        rintro rfl
        exact starts.quote isQuote
      next length _ => exact hidden c (ih length (some c))

/-- What opens nothing in a text opens nothing in its mask. -/
theorem Lexicon.StartsCode.shown (regular : lexicon.IsRegular)
    (code : lexicon.StartsCode previous c text) (other : Option Char) :
    lexicon.StartsCode other c (shownMarks (shade lexicon 0 (some c) text)) where
  openings := by
    intro opening isOpening opens
    obtain ⟨_, noSpace, noNewline⟩ := regular.openings opening isOpening
    rw [← shownMarks_code] at opens
    have stands := prefix_of_prefix_shownMarks ⟨noSpace, noNewline⟩ opens
    rw [List.map_cons, map_fst_shade] at stands
    exact code.openings opening isOpening stands
  raw := by
    intro _ _ _
    rw [Option.eq_none_iff_forall_not_mem]
    intro length reads
    exact not_mem_shownMarks regular regular.doubleQuote 0 (some c)
      (doubleQuote_mem_of_rawLength? reads)
  quote := code.quote
  charLiteral := by
    intro charLiterals isApostrophe
    exact charLength?_shownMarks regular (code.charLiteral charLiterals isApostrophe)

/-- All that is shown is code. The induction is on the text, with what is still hidden of it; the
characters ahead of a place do not matter there. -/
theorem isCode_shownMarks (regular : lexicon.IsRegular) (pending : Nat)
    (previous other : Option Char) (text : Text) :
    IsCode lexicon other (shownMarks (shade lexicon pending previous text)) := by
  have hidden (c : Char) {marks : List (Char × Bool)}
      (behind : ∀ other, IsCode lexicon other (shownMarks marks)) (other : Option Char) :
      IsCode lexicon other (shownMarks ((c, false) :: marks)) := by
    rw [shownMarks_hidden]
    exact isCode_blanks regular (fun _ => eq_blank_of_mem_blanked) behind other
  induction text generalizing pending previous other with
  | nil => cases pending <;> exact isCode_nil lexicon other
  | cons c text ih =>
    cases pending with
    | succ pending => exact hidden c (ih pending (some c)) other
    | zero =>
      rw [shade]
      split
      next code =>
        have starts := (hiddenLength_eq_zero_iff regular).mp code
        refine isCode_cons ((hiddenLength_eq_zero_iff regular).mpr ?_) (ih 0 (some c) (some c))
        exact starts.shown regular other
      next length _ => exact hidden c (ih length (some c)) other

theorem mask_mask (regular : lexicon.IsRegular) (source : Text) :
    mask lexicon (mask lexicon source) = mask lexicon source :=
  (isCode_shownMarks regular 0 none none source).mask

end

/-! ## Bytes -/

/-- A byte of a mask beside the byte of the text in its place: the same, or a blank for one that
ends no line. -/
def Covers (shown byte : UInt8) : Prop :=
  shown = byte ∨ shown = ' '.toUInt8 ∧ byte ≠ '\n'.toUInt8

theorem covers_blanked (c : Char) :
    List.Forall₂ Covers (Utf8.encode (blanked c)) (String.utf8EncodeChar c) := by
  by_cases newline : c = '\n'
  · rw [newline]
    exact List.forall₂_same.mpr fun _ _ => .inl rfl
  · have other : ∀ byte ∈ String.utf8EncodeChar c, byte ≠ '\n'.toUInt8 := by
      intro byte member
      rintro rfl
      rcases Utf8.encodeChar_cases c with ⟨ascii, encoded⟩ | ⟨_, beyond⟩
      · rw [encoded, List.mem_singleton, ← UInt8.toNat_inj, UInt8.toNat_ofNat',
          Nat.mod_eq_of_lt (by omega)] at member
        exact newline (Char.toNat_inj.mp member.symm)
      · exact absurd (beyond _ member) (by decide)
    have blanks : Utf8.encode (blanked c) =
        List.replicate (String.utf8EncodeChar c).length ' '.toUInt8 := by
      rw [blanked, if_neg newline, String.length_utf8EncodeChar, Utf8.encode,
        List.flatMap_replicate]
      exact List.flatten_replicate_singleton
    rw [blanks]
    generalize String.utf8EncodeChar c = bytes at other
    induction bytes with
    | nil => exact .nil
    | cons byte bytes ih =>
      obtain ⟨here, others⟩ := List.forall_mem_cons.mp other
      exact .cons (.inr ⟨rfl, here⟩) (ih others)

theorem covers_shownMarks (marks : List (Char × Bool)) :
    List.Forall₂ Covers (Utf8.encode (shownMarks marks)) (Utf8.encode (marks.map (·.1))) := by
  induction marks with
  | nil => exact .nil
  | cons mark marks ih =>
    obtain ⟨c, isCode⟩ := mark
    cases isCode with
    | true => exact List.rel_append (List.forall₂_same.mpr fun _ _ => .inl rfl) ih
    | false =>
      rw [shownMarks_hidden, Utf8.encode_append]
      exact List.rel_append (covers_blanked c) ih

/-- What a mask is beside its text. -/
structure IsMaskOf (lexicon : Lexicon) (masked source : Text) : Prop where
  length : (Utf8.encode masked).length = (Utf8.encode source).length
  bytes : List.Forall₂ Covers (Utf8.encode masked) (Utf8.encode source)
  /-- A character stands at its place, or as many blanks as it has bytes. -/
  chars : ∀ before c after, source = before ++ c :: after →
    ∃ shownBefore shown shownAfter, masked = shownBefore ++ shown ++ shownAfter ∧
      (Utf8.encode shownBefore).length = (Utf8.encode before).length ∧
      (shown = [c] ∨ shown = List.replicate (String.utf8EncodeChar c).length ' ')
  doubleQuote : '"' ∉ masked
  backtick : lexicon = .go → '\x60' ∉ masked
  /-- Masked once more it stays as it is. -/
  settled : mask lexicon masked = masked

/-- A mask keeps every offset of its text, and is its own mask. -/
theorem mask_isMaskOf {lexicon : Lexicon}
    (known : lexicon ∈ [Lexicon.rust, Lexicon.go, Lexicon.zig, Lexicon.jai]) (source : Text) :
    IsMaskOf lexicon (mask lexicon source) source := by
  have regular := isRegular_of_mem known
  have chars := map_fst_shade lexicon 0 none source
  have covered := covers_shownMarks (shade lexicon 0 none source)
  rw [chars] at covered
  refine ⟨covered.length_eq, covered, ?_, ?_, ?_, mask_mask regular source⟩
  · intro before c after split
    rw [split] at chars
    obtain ⟨ahead, more, marks, isBefore, isBehind⟩ := List.map_eq_append_iff.mp chars
    obtain ⟨⟨d, isCode⟩, behind, rfl, same, _⟩ := List.map_eq_cons_iff.mp isBehind
    obtain rfl : d = c := same
    have length := (covers_shownMarks ahead).length_eq
    rw [isBefore] at length
    refine ⟨shownMarks ahead, shownMarks [(d, isCode)], shownMarks behind, ?_, length, ?_⟩
    · rw [mask_eq_shownMarks, split, marks, ← shownMarks_append, ← shownMarks_append,
        List.append_assoc]
      rfl
    · cases isCode with
      | true => exact .inl rfl
      | false =>
        have shown : shownMarks [(d, false)] = blanked d :=
          (shownMarks_hidden d []).trans (List.append_nil _)
        rw [shown, blanked, String.length_utf8EncodeChar]
        split
        next newline => exact .inl (congrArg (fun c => [c]) newline.symm)
        next => exact .inr rfl
  · exact not_mem_shownMarks regular regular.doubleQuote 0 none
  · rintro rfl
    exact not_mem_shownMarks regular (by decide) 0 none

/-- An apostrophe that opens no literal, as the next one is too far away, and a comment that is not
closed. -/
theorem mask_isMaskOf_rust :
    Lexicon.rust ∈ [Lexicon.rust, Lexicon.go, Lexicon.zig, Lexicon.jai] ∧
      IsMaskOf .rust "f(    , '\\   , é)  \n " "f('é', '\\\"\x7d\", é)/*\n'" := by
  have masked : mask .rust "f('é', '\\\"\x7d\", é)/*\n'" = "f(    , '\\   , é)  \n " := rfl
  have known : Lexicon.rust ∈ [Lexicon.rust, Lexicon.go, Lexicon.zig, Lexicon.jai] := by decide
  rw [← masked]
  exact ⟨known, mask_isMaskOf known _⟩

end Notebook.Source
