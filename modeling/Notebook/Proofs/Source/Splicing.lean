import Notebook.Proofs.Source.Cutting
import Notebook.Proofs.Source.Routing
import Notebook.Proofs.Source.Search

/-! # Taking an entry point out of its cell

An entry point is cut out of the glyphs of its cell, and its parts are put together again as texts.
Where no comment and no literal goes over a cut, the parts are read as they were in the cell. Then
what is left of a closed and nested cell is closed and nested, and so is the declaration under
another name; and under another name it declares no entry point.
-/

namespace Notebook.Source

/-! ## Parts of an entry point -/

/-- The keyword and the name are identifiers of ASCII. -/
structure EntryForm.IsNamed (form : EntryForm) : Prop where
  opening : form.opening ≠ [] ∧ ∀ c ∈ form.opening, isAsciiIdentifierChar c = true
  name : form.name ≠ [] ∧ ∀ c ∈ form.name, isAsciiIdentifierChar c = true

/-- How an entry point is declared can be told from words. -/
structure EntryForm.IsPlain (form : EntryForm) : Prop where
  opening : IsWord form.opening
  name : IsWord form.name
  /-- It does not start like the word that makes it visible. -/
  visibility : ∀ c ∈ form.opening.head?, c ∉ ['p', 'u', 'b', ' ', '\t']

/-- What makes a declaration visible, with the blanks after it. -/
structure IsVisibility (list : List Glyph) : Prop where
  starts : ∀ glyph ∈ list.head?, glyph.shown = 'p'
  chars : ∀ glyph ∈ list, glyph.shown ∈ ['p', 'u', 'b', ' ', '\t']

theorem takeVisibility_spec (before : List Glyph) :
    (takeVisibility before).1.reverse ++ (takeVisibility before).2 = before.reverse ∧
      IsVisibility (takeVisibility before).2 := by
  have none : IsVisibility [] := ⟨nofun, nofun⟩
  rw [takeVisibility]
  split
  next word rest taking =>
    split
    · exact ⟨List.append_nil _, none⟩
    · obtain ⟨split, shown⟩ := takePhrase?_eq_some_iff.mp taking
      have shown : word.map Glyph.shown = ['b', 'u', 'p'] := shown
      obtain ⟨b, word, rfl, isB, shown⟩ := List.map_eq_cons_iff.mp shown
      obtain ⟨u, word, rfl, isU, shown⟩ := List.map_eq_cons_iff.mp shown
      obtain ⟨p, word, rfl, isP, shown⟩ := List.map_eq_cons_iff.mp shown
      obtain rfl := List.map_eq_nil_iff.mp shown
      have whole := List.takeWhile_append_dropWhile (p := fun glyph : Glyph =>
        decide (glyph.shown = ' ' ∨ glyph.shown = '\t')) (l := before)
      rw [split] at whole
      constructor
      · conv_rhs => rw [← whole]
        simp only [List.reverse_append, List.append_assoc]
      · rw [List.reverse_append]
        refine ⟨fun glyph member => Option.some_inj.mp member ▸ isP, ?_⟩
        intro glyph member
        rw [List.mem_append, List.mem_reverse, List.mem_reverse] at member
        rcases member with isWord | isGap
        · simp only [List.mem_cons, List.not_mem_nil, or_false] at isWord
          rcases isWord with rfl | rfl | rfl
          · simp [isB]
          · simp [isU]
          · simp [isP]
        · have blank := List.mem_takeWhile_imp (p := fun glyph : Glyph =>
            decide (glyph.shown = ' ' ∨ glyph.shown = '\t')) isGap
          rcases of_decide_eq_true blank with blank | blank
          · simp [blank]
          · simp [blank]
  next => exact ⟨List.append_nil _, none⟩

theorem visibility_spec (form : EntryForm) (before : List Glyph) :
    (form.visibility before).1.reverse ++ (form.visibility before).2 = before.reverse ∧
      IsVisibility (form.visibility before).2 := by
  cases form with
  | function keyword name => exact takeVisibility_spec before
  | constant name => exact ⟨List.append_nil _, nofun, nofun⟩

/-- The glyphs of a source with an entry point, cut into its parts. -/
structure EntryParts (form : EntryForm) (list : List Glyph) (entry : EntryPoint) where
  before : List Glyph
  visibility : List Glyph
  keyword : List Glyph
  name : List Glyph
  tail : List Glyph
  after : List Glyph
  whole : list = before ++ (visibility ++ keyword ++ (name ++ (tail ++ after)))
  level : depthOf (before ++ visibility) = 0
  isVisibility : IsVisibility visibility
  leads : form.Leads keyword
  isName : Glyph.shownText name = form.name
  tailStarts : tail ≠ [] ∧ endsWord tail = true
  tailEnds : tail.getLast?.map (·.shown) = some '\x7d'
  beforeText : Glyph.sourceText before = entry.before
  leadText : Glyph.sourceText (visibility ++ keyword) = entry.lead
  nameText : Glyph.sourceText name = entry.name
  tailText : Glyph.sourceText tail = entry.tail
  afterText : Glyph.sourceText after = entry.after

theorem exists_parts {form : EntryForm} {lexicon : Lexicon} {source : Text} {entry : EntryPoint}
    (found : entryPoint? lexicon form source = some entry) :
    Nonempty (EntryParts form (glyphs lexicon source) entry) := by
  obtain ⟨passed, declaration, whole, level, reads, _, same⟩ :=
    exists_of_declarations? (declarations?_of_entryPoint? found)
  obtain ⟨_, read⟩ := readDeclaration_eq_found reads
  have filled := List.append_ne_nil_of_left_ne_nil read.parameters.1
    (declaration.result ++ declaration.body)
  have tailStarts : declaration.parameters ++ declaration.result ++ declaration.body ≠ [] ∧
      endsWord (declaration.parameters ++ declaration.result ++ declaration.body) = true := by
    rw [List.append_assoc]
    exact ⟨filled, (endsWord_append read.parameters.1 _).trans read.parameters.2⟩
  have tailEnds : (declaration.parameters ++ declaration.result ++ declaration.body).getLast?.map
      (·.shown) = some '\x7d' := by
    obtain ⟨brace, last, isBrace⟩ := Option.map_eq_some_iff.mp read.body
    rw [List.getLast?_append, last]
    exact congrArg some isBrace
  rw [Int.zero_add] at level
  rw [List.append_nil] at same
  rw [entryOf_eq] at same
  obtain ⟨split, isVisibility⟩ := visibility_spec form passed.reverse
  rw [List.reverse_reverse] at split
  generalize (form.visibility passed.reverse).1.reverse = before at same split
  generalize (form.visibility passed.reverse).2 = visibility at same split isVisibility
  subst same split
  refine ⟨⟨before, visibility, declaration.lead, declaration.name, _, declaration.after, ?_, level,
    isVisibility, read.lead, read.name, tailStarts, tailEnds, rfl, rfl, rfl, rfl, rfl⟩⟩
  rw [whole, Declaration.glyphs]
  simp only [List.append_assoc]

/-! ## Parts that are read as they were -/

/-- No comment and no literal goes over an end of the declaration or up to its name, and behind the
name its brackets are properly nested. -/
structure IsDetachable (lexicon : Lexicon) (entry : EntryPoint) : Prop where
  before : Sealed lexicon entry.before
  lead : Sealed lexicon (entry.before ++ entry.lead)
  through : Sealed lexicon (entry.before ++ entry.lead ++ (entry.name ++ entry.tail))
  nested : IsNested (mask lexicon entry.tail)

theorem isAsciiBlank_of_isChar {c : Char} (isChar : isAsciiIdentifierChar c = true) :
    isAsciiBlank c = false := by
  rw [Bool.eq_false_iff]
  intro blank
  simp only [isAsciiBlank, Bool.or_eq_true, beq_iff_eq] at blank
  rcases blank with (((rfl | rfl) | rfl) | rfl) | rfl <;> cases isChar

theorem ne_space_of_isChar {c : Char} (isChar : isAsciiIdentifierChar c = true) : c ≠ ' ' := by
  rintro rfl
  cases isChar

theorem IsWord.isChar {word : Text} (isWord : IsWord word) {c : Char} (member : c ∈ word) :
    isAsciiIdentifierChar c = true :=
  (Bool.and_eq_true_iff.mp (List.all_eq_true.mp isWord.chars c member)).1

theorem EntryForm.IsPlain.isNamed {form : EntryForm} (plain : form.IsPlain) : form.IsNamed :=
  ⟨⟨plain.opening.filled, fun _ => plain.opening.isChar⟩,
    plain.name.filled, fun _ => plain.name.isChar⟩

section

variable {form : EntryForm} {lexicon : Lexicon} {source : Text} {entry : EntryPoint}
  (parts : EntryParts form (glyphs lexicon source) entry)

include parts

theorem EntryParts.source_eq :
    source = entry.before ++ (entry.lead ++ (entry.name ++ (entry.tail ++ entry.after))) := by
  rw [← sourceText_glyphs lexicon source, parts.whole, ← parts.beforeText, ← parts.leadText,
    ← parts.nameText, ← parts.tailText, ← parts.afterText]
  simp only [Glyph.sourceText, List.filterMap_append]

/-- The name is code. -/
theorem EntryParts.name_eq (named : form.IsNamed) :
    parts.name = form.name.map Glyph.code ∧ entry.name = form.name := by
  have each : ∀ glyph ∈ parts.name, glyph = Glyph.code glyph.shown := by
    intro glyph member
    have inSource : glyph ∈ glyphs lexicon source := by
      rw [parts.whole]
      simp [member]
    apply eq_code_of_shown inSource
    apply ne_space_of_isChar
    apply named.name.2
    rw [← parts.isName]
    exact List.mem_map_of_mem member
  have code : parts.name = form.name.map Glyph.code := by
    rw [← parts.isName, Glyph.shownText, List.map_map]
    conv_lhs => rw [← List.map_id parts.name]
    exact List.map_congr_left fun glyph member => each glyph member
  refine ⟨code, ?_⟩
  rw [← parts.nameText, code, Glyph.sourceText, List.filterMap_map]
  exact List.filterMap_some ..

/-- The declaration and its name start with a letter. -/
theorem EntryParts.exists_letter (plain : form.IsPlain) (rest : List Glyph) :
    (∃ glyph others, parts.name ++ rest = glyph :: others ∧
        isAsciiIdentifierChar glyph.shown = true) ∧
      ∃ glyph others, parts.visibility ++ parts.keyword ++ (parts.name ++ rest) = glyph :: others ∧
        isAsciiIdentifierChar glyph.shown = true := by
  have named : ∃ glyph others, parts.name ++ rest = glyph :: others ∧
      isAsciiIdentifierChar glyph.shown = true := by
    obtain ⟨c, name, isName⟩ := List.exists_cons_of_ne_nil plain.name.filled
    rw [(parts.name_eq plain.isNamed).1, isName]
    exact ⟨Glyph.code c, _, rfl, plain.name.isChar (isName ▸ List.mem_cons_self ..)⟩
  refine ⟨named, ?_⟩
  cases visible : parts.visibility with
  | cons glyph others =>
    have isFirst := parts.isVisibility.starts glyph (by rw [visible]; rfl)
    exact ⟨glyph, _, rfl, by rw [isFirst]; rfl⟩
  | nil =>
    have leads := parts.leads
    have opening := plain.opening
    cases form with
    | constant name =>
      rw [show parts.keyword = [] from leads]
      exact named
    | function keyword name =>
      obtain ⟨word, gap, split, isWord, _⟩ := leads
      have opening : IsWord keyword := opening
      cases word with
      | nil => exact absurd isWord.symm opening.filled
      | cons glyph word =>
        rw [split]
        refine ⟨glyph, _, rfl, opening.isChar ?_⟩
        rw [← isWord]
        exact List.mem_cons_self ..

/-- The parts are the glyphs of their texts. -/
theorem EntryParts.eq_glyphs (plain : form.IsPlain) (detachable : IsDetachable lexicon entry) :
    parts.before = glyphs lexicon entry.before ∧
      parts.visibility ++ parts.keyword = glyphs lexicon entry.lead ∧
      parts.name ++ parts.tail = glyphs lexicon (entry.name ++ entry.tail) ∧
      parts.after = glyphs lexicon entry.after := by
  have whole := parts.whole
  obtain ⟨⟨first, others, isFirst, firstLetter⟩, start, more, isStart, startLetter⟩ :=
    parts.exists_letter plain (parts.tail ++ parts.after)
  have ahead : parts.before = glyphs lexicon entry.before := by
    have sealedBefore : Sealed lexicon (Glyph.sourceText parts.before) :=
      parts.beforeText ▸ detachable.before
    have cut := whole
    rw [isStart] at cut
    have starts := (startsChar_of_shown cut (ne_space_of_isChar startLetter)).1
    exact parts.beforeText ▸ (sealedBefore.cut cut starts).1
  have leadText : Glyph.sourceText (parts.before ++ (parts.visibility ++ parts.keyword)) =
      entry.before ++ entry.lead := by
    rw [← parts.beforeText, ← parts.leadText]
    exact List.filterMap_append
  have lead : parts.before ++ (parts.visibility ++ parts.keyword) =
      glyphs lexicon (entry.before ++ entry.lead) := by
    have cut := whole
    rw [isFirst, ← List.append_assoc] at cut
    have sealedLead : Sealed lexicon (Glyph.sourceText _) := leadText.symm ▸ detachable.lead
    have starts := (startsChar_of_shown cut (ne_space_of_isChar firstLetter)).1
    exact leadText ▸ (sealedLead.cut cut starts).1
  have throughText : Glyph.sourceText (parts.before ++ (parts.visibility ++ parts.keyword) ++
      (parts.name ++ parts.tail)) = entry.before ++ entry.lead ++ (entry.name ++ entry.tail) := by
    rw [← leadText, ← parts.nameText, ← parts.tailText]
    simp only [Glyph.sourceText, List.filterMap_append]
  have behind : StartsChar parts.after := by
    obtain ⟨brace, last, isBrace⟩ := Option.map_eq_some_iff.mp parts.tailEnds
    obtain ⟨inside, ends⟩ := List.getLast?_eq_some_iff.mp last
    have cut : glyphs lexicon source =
        (parts.before ++ (parts.visibility ++ parts.keyword ++ (parts.name ++ inside))) ++
          brace :: parts.after := by
      refine whole.trans ?_
      rw [ends]
      simp only [List.append_assoc, List.singleton_append]
    exact (startsChar_of_shown cut (by rw [isBrace]; decide)).2
  have through : glyphs lexicon source = (parts.before ++ (parts.visibility ++ parts.keyword) ++
      (parts.name ++ parts.tail)) ++ parts.after := by
    refine whole.trans ?_
    simp only [List.append_assoc]
  have sealedThrough : Sealed lexicon (Glyph.sourceText _) := throughText.symm ▸ detachable.through
  obtain ⟨declared, after⟩ := sealedThrough.cut through behind
  rw [throughText, detachable.lead.glyphs_append, ← lead] at declared
  rw [parts.afterText] at after
  rw [detachable.before.glyphs_append, ahead] at lead
  exact ⟨ahead, List.append_cancel_left lead, List.append_cancel_left declared, after⟩

/-- The tail cannot be taken for a raw literal. -/
theorem EntryParts.head?_tail (plain : form.IsPlain) (reads : lexicon.ReadsWords)
    (detachable : IsDetachable lexicon entry) :
    entry.tail ≠ [] ∧ entry.tail.head? ≠ some 'r' := by
  obtain ⟨_, _, declared, _⟩ := parts.eq_glyphs plain detachable
  obtain ⟨code, named⟩ := parts.name_eq plain.isNamed
  rw [code, named] at declared
  constructor
  · intro none
    have word := glyphs_word_append reads plain.name (show ([] : Text).head? ≠ some 'r' from nofun)
    rw [none, word] at declared
    exact parts.tailStarts.1 (List.append_cancel_left declared)
  · intro starts
    obtain ⟨more, tail⟩ := List.head?_eq_some_iff.mp starts
    obtain ⟨before, last, name⟩ :=
      (List.eq_nil_or_concat form.name).resolve_left plain.name.filled
    have isChar : isIdentifierChar last = true :=
      isIdentifierChar_of_ascii (plain.name.isChar (by simp [name]))
    have noRaw : lexicon.hiddenLength (some last) ('r' :: more) = 0 :=
      reads 'r' (some last) more rfl fun _ => isChar
    have word : ∃ others, glyphs lexicon (form.name ++ 'r' :: more) =
        form.name.map Glyph.code ++ Glyph.code 'r' :: others := by
      have ends : form.name.getLast?.or none = some last := by
        rw [name, List.concat_eq_append, List.getLast?_concat, Option.some_or]
      rw [glyphs_eq_flatMap, shade_word reads plain.name.chars, ends, shade, noRaw,
        List.flatMap_append, List.flatMap_map, List.map_eq_flatMap]
      exact ⟨_, rfl⟩
    obtain ⟨others, word⟩ := word
    rw [tail, word] at declared
    have ends := parts.tailStarts.2
    rw [List.append_cancel_left declared] at ends
    cases ends

/-- Behind any word the tail is read as in the cell. -/
theorem EntryParts.glyphs_word_tail (plain : form.IsPlain) (reads : lexicon.ReadsWords)
    (detachable : IsDetachable lexicon entry) {word : Text} (isWord : IsWord word) (rest : Text) :
    glyphs lexicon (word ++ (entry.tail ++ rest)) =
      word.map Glyph.code ++ (glyphs lexicon entry.tail ++ glyphs lexicon rest) := by
  obtain ⟨filled, noRaw⟩ := parts.head?_tail plain reads detachable
  have any : ∀ {word : Text}, IsWord word → ∀ rest, glyphs lexicon (word ++ (entry.tail ++ rest)) =
      word.map Glyph.code ++ glyphs lexicon (entry.tail ++ rest) := by
    intro word isWord rest
    apply glyphs_word_append reads isWord
    rwa [List.head?_append_of_ne_nil _ filled]
  have named := (parts.name_eq plain.isNamed).2
  have declared : Sealed lexicon (entry.name ++ entry.tail) :=
    detachable.lead.of_append detachable.through
  have own := any plain.name []
  have both := declared.glyphs_append rest
  rw [List.append_nil] at own
  rw [named, own, List.append_assoc, any plain.name, List.append_assoc] at both
  rw [any isWord, List.append_cancel_left both]

theorem EntryParts.tail_eq (plain : form.IsPlain) (reads : lexicon.ReadsWords)
    (detachable : IsDetachable lexicon entry) : parts.tail = glyphs lexicon entry.tail := by
  obtain ⟨_, _, declared, _⟩ := parts.eq_glyphs plain detachable
  obtain ⟨code, named⟩ := parts.name_eq plain.isNamed
  have own := parts.glyphs_word_tail plain reads detachable plain.name []
  rw [List.append_nil] at own
  rw [code, named, own] at declared
  rw [List.append_cancel_left declared]
  exact List.append_nil _

theorem EntryParts.glyphs_renamed (plain : form.IsPlain) (reads : lexicon.ReadsWords)
    (detachable : IsDetachable lexicon entry) {word : Text} (isWord : IsWord word) (rest : Text) :
    glyphs lexicon (entry.renamed word ++ rest) = glyphs lexicon entry.lead ++
      (word.map Glyph.code ++ (glyphs lexicon entry.tail ++ glyphs lexicon rest)) := by
  have lead : Sealed lexicon entry.lead := detachable.before.of_append detachable.lead
  rw [EntryPoint.renamed, List.append_assoc, List.append_assoc, lead.glyphs_append,
    parts.glyphs_word_tail plain reads detachable isWord]

end

/-! ## Brackets of the parts -/

theorem isNoBracket_of_isChar {c : Char} (isChar : isAsciiIdentifierChar c = true) :
    isNoBracket c = true := by
  rw [isNoBracket, decide_eq_true_eq]
  intro bracket
  simp only [List.mem_cons, List.not_mem_nil, or_false] at bracket
  rcases bracket with rfl | rfl | rfl | rfl | rfl | rfl <;> cases isChar

theorem isNoBracket_of_isAsciiBlank {c : Char} (blank : isAsciiBlank c = true) :
    isNoBracket c = true :=
  isNoBracket_of_isBlank (isBlank_of_isAsciiBlank blank)

theorem isNested_word {word : Text} (isWord : IsWord word) : IsNested word :=
  opened?_of_noBracket (fun _ member => isNoBracket_of_isChar (isWord.isChar member)) []

theorem IsVisibility.isNested {list : List Glyph} (visibility : IsVisibility list) :
    IsNested (Glyph.shownText list) := by
  apply opened?_of_noBracket
  intro c shown
  obtain ⟨glyph, member, rfl⟩ := List.mem_map.mp shown
  have table : ∀ c ∈ ['p', 'u', 'b', ' ', '\t'], isNoBracket c = true :=
    List.all_eq_true.mp rfl
  exact table _ (visibility.chars glyph member)

theorem isNested_of_leads {form : EntryForm} {keyword : List Glyph} (plain : form.IsPlain)
    (leads : form.Leads keyword) : IsNested (Glyph.shownText keyword) := by
  cases form with
  | constant name =>
    rw [show keyword = [] from leads]
    exact isNested_nil
  | function keyword name =>
    obtain ⟨word, gap, rfl, isWord, _, blank⟩ := leads
    rw [Glyph.shownText, List.map_append]
    apply IsNested.append
    · have same : word.map Glyph.shown = keyword := isWord
      rw [same]
      exact isNested_word plain.opening
    · apply opened?_of_noBracket
      intro c shown
      obtain ⟨glyph, member, rfl⟩ := List.mem_map.mp shown
      exact isNoBracket_of_isAsciiBlank (blank glyph member)

section

variable {form : EntryForm} {lexicon : Lexicon} {source : Text} {entry : EntryPoint}

/-- Each part of an entry point in a properly nested cell is properly nested. -/
theorem EntryParts.isNested (parts : EntryParts form (glyphs lexicon source) entry)
    (plain : form.IsPlain) (reads : lexicon.ReadsWords) (detachable : IsDetachable lexicon entry)
    (nested : IsNested (mask lexicon source)) :
    IsNested (mask lexicon entry.before) ∧ IsNested (mask lexicon entry.lead) ∧
      IsNested (mask lexicon entry.after) := by
  obtain ⟨before, lead, _, after⟩ := parts.eq_glyphs plain detachable
  have whole : mask lexicon source = Glyph.shownText parts.before ++
      (Glyph.shownText (parts.visibility ++ parts.keyword) ++ (Glyph.shownText parts.name ++
        (Glyph.shownText parts.tail ++ Glyph.shownText parts.after))) := by
    refine (congrArg Glyph.shownText parts.whole).trans ?_
    simp only [Glyph.shownText, List.map_append]
  have leadNested : IsNested (Glyph.shownText (parts.visibility ++ parts.keyword)) := by
    rw [Glyph.shownText, List.map_append]
    exact parts.isVisibility.isNested.append (isNested_of_leads plain parts.leads)
  have nameNested : IsNested (Glyph.shownText parts.name) := parts.isName ▸ isNested_word plain.name
  have tailNested : IsNested (Glyph.shownText parts.tail) := by
    rw [parts.tail_eq plain reads detachable]
    exact detachable.nested
  rw [whole] at nested
  have beforeNested : IsNested (Glyph.shownText parts.before) := by
    obtain ⟨inside, opens, _⟩ := Option.bind_eq_some_iff.mp ((opened?_append ..).symm.trans nested)
    have level := parts.level
    rw [depthOf_append, depthOf_eq_zero parts.isVisibility.isNested, Int.add_zero,
      show depthOf parts.before = inside.length from foldl_depthStep opens] at level
    obtain rfl := List.length_eq_zero_iff.mp (Int.natCast_eq_zero.mp level)
    exact opens
  refine ⟨?_, ?_, ?_⟩
  · rwa [before] at beforeNested
  · rwa [lead] at leadNested
  · have afterNested := tailNested.of_append (nameNested.of_append (leadNested.of_append
      (beforeNested.of_append nested)))
    rwa [after] at afterNested

/-- What is left of a cell is closed and properly nested. -/
theorem EntryParts.remainder (parts : EntryParts form (glyphs lexicon source) entry)
    (plain : form.IsPlain) (reads : lexicon.ReadsWords) (detachable : IsDetachable lexicon entry)
    (closed : Closed lexicon source) (nested : IsNested (mask lexicon source)) :
    Closed lexicon entry.after ∧ Closed lexicon entry.remainder ∧
      IsNested (mask lexicon entry.remainder) := by
  obtain ⟨beforeNested, _, afterNested⟩ := parts.isNested plain reads detachable nested
  have after : Closed lexicon entry.after := by
    intro rest
    have whole := closed rest
    rw [parts.source_eq] at whole
    have split : entry.before ++ (entry.lead ++ (entry.name ++ (entry.tail ++ entry.after))) =
        entry.before ++ entry.lead ++ (entry.name ++ entry.tail) ++ entry.after := by
      simp only [List.append_assoc]
    rw [split, List.append_assoc _ entry.after, detachable.through, detachable.through] at whole
    exact List.append_cancel_left (whole.trans (List.append_assoc ..))
  refine ⟨after, ?_, ?_⟩
  · intro rest
    rw [EntryPoint.remainder, List.append_assoc, detachable.before, after, detachable.before,
      List.append_assoc]
  · rw [EntryPoint.remainder, detachable.before]
    exact beforeNested.append afterNested

/-- The declaration under another name is sound. -/
theorem EntryParts.sound_renamed (parts : EntryParts form (glyphs lexicon source) entry)
    (plain : form.IsPlain) (reads : lexicon.ReadsWords) (detachable : IsDetachable lexicon entry)
    (nested : IsNested (mask lexicon source)) {word : Text} (isWord : IsWord word) :
    Sound lexicon (entry.renamed word) := by
  obtain ⟨_, leadNested, _⟩ := parts.isNested plain reads detachable nested
  have own := parts.glyphs_renamed plain reads detachable isWord []
  rw [List.append_nil, show glyphs lexicon [] = [] from rfl, List.append_nil] at own
  constructor
  · apply sealed_of_glyphs
    intro rest
    rw [parts.glyphs_renamed plain reads detachable isWord, own]
    simp only [List.append_assoc]
  · rw [mask, own, Glyph.shownText, List.map_append, List.map_append, List.map_map]
    refine leadNested.append (IsNested.append ?_ detachable.nested)
    rw [show Glyph.shown ∘ Glyph.code = id from rfl, List.map_id]
    exact isNested_word isWord

end

/-! ## Other names -/

/-- The word is not taken for the name of an entry point, and does not start like the keyword. -/
structure IsFresh (form : EntryForm) (word : Text) : Prop where
  isWord : IsWord word
  name : ∀ rest, takePhrase? form.name (word.map Glyph.code ++ rest) = none
  keyword : ∀ keyword name, form = .function keyword name → word.head? ≠ keyword.head?

theorem avoids_of_word {initial : Char} {list rest : List Glyph}
    (word : ∀ glyph ∈ list, isAsciiIdentifierChar glyph.shown = true) :
    avoids initial true (list ++ rest) = avoids initial true rest := by
  induction list with
  | nil => rfl
  | cons glyph list ih =>
    obtain ⟨here, behind⟩ := List.forall_mem_cons.mp word
    rw [List.cons_append, avoids, here, ih behind]
    rfl

theorem avoids_of_blank {initial : Char} {list rest : List Glyph} {inWord : Bool}
    (isChar : isAsciiIdentifierChar initial = true) (filled : list ≠ [])
    (blank : ∀ glyph ∈ list, isAsciiBlank glyph.shown = true) :
    avoids initial inWord (list ++ rest) = avoids initial false rest := by
  have apart : ∀ glyph : Glyph, isAsciiBlank glyph.shown = true →
      glyph.shown ≠ initial ∧ isAsciiIdentifierChar glyph.shown = false := by
    intro glyph blank
    constructor
    · rintro rfl
      rw [isAsciiBlank_of_isChar isChar] at blank
      cases blank
    · rw [Bool.eq_false_iff]
      intro isChar
      rw [isAsciiBlank_of_isChar isChar] at blank
      cases blank
  induction list generalizing inWord with
  | nil => exact absurd rfl filled
  | cons glyph list ih =>
    obtain ⟨here, behind⟩ := List.forall_mem_cons.mp blank
    obtain ⟨other, noChar⟩ := apart glyph here
    rw [List.cons_append, avoids, noChar]
    rcases eq_or_ne list [] with rfl | more
    · simp [other]
    · rw [ih more behind]
      simp [other]

section

variable {form : EntryForm} {word : Text} {lexicon : Lexicon} {source : Text} {entry : EntryPoint}

/-- Ahead of another name what leads to a declaration leads to none. -/
theorem undeclaring_of_leads {keyword : List Glyph} (plain : form.IsPlain)
    (leads : form.Leads keyword) (fresh : IsFresh form word) :
    Undeclaring form (keyword ++ word.map Glyph.code) := by
  have nested : IsNested (Glyph.shownText (keyword ++ word.map Glyph.code)) := by
    rw [Glyph.shownText, List.map_append, List.map_map]
    apply (isNested_of_leads plain leads).append
    rw [show Glyph.shown ∘ Glyph.code = id from rfl, List.map_id]
    exact isNested_word fresh.isWord
  refine ⟨depthOf_eq_zero nested, ?_⟩
  have chars : ∀ glyph ∈ word.map Glyph.code, isAsciiIdentifierChar glyph.shown = true := by
    intro glyph member
    obtain ⟨c, isChar, rfl⟩ := List.mem_map.mp member
    exact fresh.isWord.isChar isChar
  obtain ⟨initial, phrase, opening⟩ := List.exists_cons_of_ne_nil plain.opening.filled
  have starts : form.opening.head? = some initial := by rw [opening]; rfl
  have isChar := plain.opening.isChar (opening ▸ List.mem_cons_self .. : initial ∈ form.opening)
  obtain ⟨first, others, isFirst⟩ := List.exists_cons_of_ne_nil fresh.isWord.filled
  cases form with
  | constant name =>
    obtain rfl : keyword = [] := leads
    rw [isFirst, List.map_cons, List.forall_mem_cons] at chars
    rw [List.nil_append, isFirst, List.map_cons]
    apply noneStarts_cons_of_avoids starts
    · intro rest
      apply readDeclaration_of_opening
      have none := fresh.name rest
      rwa [isFirst] at none
    · rw [chars.1, ← List.append_nil (List.map Glyph.code others)]
      exact avoids_of_word chars.2
  | function keyword name =>
    obtain ⟨mark, gap, rfl, isMark, filled, blank⟩ := leads
    have isMark : mark.map Glyph.shown = initial :: phrase := isMark.trans opening
    obtain ⟨head, tail, rfl, isHead, isTail⟩ := List.map_eq_cons_iff.mp isMark
    rw [List.cons_append, List.cons_append, List.append_assoc]
    apply noneStarts_cons_of_avoids starts
    · intro rest
      have taking : takePhrase? keyword (head :: (tail ++ (gap ++ word.map Glyph.code) ++ rest)) =
          some (head :: tail, gap ++ (word.map Glyph.code ++ rest)) := by
        refine takePhrase?_eq_some_iff.mpr ⟨?_, isMark.trans opening.symm⟩
        simp only [List.append_assoc, List.cons_append]
      have blanks : takeBlanks (gap ++ (word.map Glyph.code ++ rest)) =
          (gap, word.map Glyph.code ++ rest) := by
        rw [isFirst]
        refine takeBlanks_of_blank blank (isAsciiBlank_of_isChar ?_) _
        exact fresh.isWord.isChar (isFirst ▸ List.mem_cons_self ..)
      have none : takePhrase? name (word.map Glyph.code ++ rest) = none := fresh.name rest
      rw [readDeclaration, taking]
      simp only [blanks, none]
      split <;> rfl
    · have inMark : isAsciiIdentifierChar head.shown = true := isHead.symm ▸ isChar
      have inTail : ∀ glyph ∈ tail, isAsciiIdentifierChar glyph.shown = true := by
        intro glyph member
        apply plain.opening.isChar
        rw [opening, ← isTail]
        exact List.mem_cons_of_mem _ (List.mem_map_of_mem member)
      rw [inMark, avoids_of_word inTail, avoids_of_blank isChar filled blank, isFirst,
        List.map_cons]
      rw [isFirst, List.map_cons, List.forall_mem_cons] at chars
      have other : first ≠ initial := by
        rintro rfl
        have differs := fresh.keyword keyword name rfl
        rw [isFirst, show keyword = first :: phrase from opening] at differs
        exact differs rfl
      rw [avoids, chars.1, ← List.append_nil (List.map Glyph.code others), avoids_of_word chars.2]
      simp [Glyph.code, other, avoids]

/-- The glyphs that make a declaration visible are part of none. -/
theorem IsVisibility.undeclaring {list : List Glyph} (visibility : IsVisibility list)
    (plain : form.IsPlain) : Undeclaring form list := by
  refine ⟨depthOf_eq_zero visibility.isNested, ?_⟩
  obtain ⟨initial, phrase, opening⟩ := List.exists_cons_of_ne_nil plain.opening.filled
  have starts : form.opening.head? = some initial := by rw [opening]; rfl
  intro before glyph after rest split _ _
  refine readDeclaration_of_initial starts ?_ _
  rintro rfl
  exact plain.visibility _ starts (visibility.chars glyph (split ▸ by simp))

/-- Under another name the declaration declares no entry point. -/
theorem EntryParts.undeclaring_renamed (parts : EntryParts form (glyphs lexicon source) entry)
    (plain : form.IsPlain) (reads : lexicon.ReadsWords) (detachable : IsDetachable lexicon entry)
    (fresh : IsFresh form word) (tail : Undeclaring form (glyphs lexicon entry.tail)) :
    Undeclaring form (glyphs lexicon (entry.renamed word)) := by
  have own := parts.glyphs_renamed plain reads detachable fresh.isWord []
  obtain ⟨_, lead, _⟩ := parts.eq_glyphs plain detachable
  rw [List.append_nil, show glyphs lexicon [] = [] from rfl, List.append_nil, ← lead,
    List.append_assoc, ← List.append_assoc parts.keyword] at own
  rw [own]
  exact (parts.isVisibility.undeclaring plain).append
    ((undeclaring_of_leads plain parts.leads fresh).append tail)

end

end Notebook.Source
