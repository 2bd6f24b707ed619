import Notebook.Proofs.Source.Declaration

/-! # Where declarations start

The search for entry points goes through a source from left to right. What it has passed matters to
it only by the bracket depth and by the last character, so a text in which no declaration starts,
whatever follows it, is passed as if it were not there. Inside brackets nothing is looked for.
-/

namespace Notebook.Source

/-! ## Depth of glyphs -/

/-- The bracket depth behind glyphs. -/
def depthOf (list : List Glyph) : Int :=
  (Glyph.shownText list).foldl depthStep 0

theorem depthStep_eq_add (depth : Int) (c : Char) : depthStep depth c = depth + depthStep 0 c := by
  simp only [depthStep]
  split_ifs <;> omega

theorem foldl_depthStep_eq_add (text : Text) (depth : Int) :
    text.foldl depthStep depth = depth + text.foldl depthStep 0 := by
  induction text generalizing depth with
  | nil => exact (Int.add_zero depth).symm
  | cons c rest ih =>
    rw [List.foldl_cons, List.foldl_cons, ih, depthStep_eq_add, ih (depthStep 0 c), Int.add_assoc]

theorem depthOf_append (list rest : List Glyph) :
    depthOf (list ++ rest) = depthOf list + depthOf rest := by
  rw [depthOf, Glyph.shownText, List.map_append, List.foldl_append, foldl_depthStep_eq_add]
  rfl

theorem depthOf_concat (list : List Glyph) (glyph : Glyph) :
    depthOf (list ++ [glyph]) = depthStep (depthOf list) glyph.shown := by
  rw [depthOf_append, depthStep_eq_add]
  rfl

/-- Properly nested glyphs end at the depth they start from, and do not fall below it. -/
theorem depthOf_nonneg {list before after : List Glyph}
    (nested : IsNested (Glyph.shownText list)) (split : list = before ++ after) :
    0 ≤ depthOf before := by
  rw [split, Glyph.shownText, List.map_append, IsNested, opened?_append,
    Option.bind_eq_some_iff] at nested
  obtain ⟨inside, reads, _⟩ := nested
  have depth : depthOf before = inside.length := foldl_depthStep reads
  rw [depth]
  exact Int.natCast_nonneg _

theorem depthOf_eq_zero {list : List Glyph} (nested : IsNested (Glyph.shownText list)) :
    depthOf list = 0 :=
  foldl_depthStep nested

/-! ## Places where no declaration starts -/

/-- The glyphs end within a word. -/
def endsInWord (list : List Glyph) : Bool :=
  list.getLast?.any fun glyph => isAsciiIdentifierChar glyph.shown

/-- No declaration starts in the glyphs, whatever follows them, if the depth ahead of them is as
given. -/
def NoneStarts (form : EntryForm) (depth : Int) (list : List Glyph) : Prop :=
  ∀ before glyph after rest, list = before ++ glyph :: after → depth + depthOf before = 0 →
    endsInWord before = false → readDeclaration form (glyph :: (after ++ rest)) = .absent

/-- The glyphs declare no entry point and leave no declaration open. -/
structure Undeclaring (form : EntryForm) (list : List Glyph) : Prop where
  level : depthOf list = 0
  absent : NoneStarts form 0 list

section

variable {form : EntryForm} {list rest : List Glyph} {depth : Int}

theorem noneStarts_nil (form : EntryForm) (depth : Int) : NoneStarts form depth [] :=
  fun _ _ _ _ split =>
    absurd split.symm (List.append_ne_nil_of_right_ne_nil _ (List.cons_ne_nil _ _))

theorem endsInWord_append {before : List Glyph} (filled : rest ≠ []) :
    endsInWord (before ++ rest) = endsInWord rest := by
  rw [endsInWord, List.getLast?_append_of_ne_nil _ filled, endsInWord]

theorem NoneStarts.append (first : NoneStarts form depth list)
    (second : NoneStarts form (depth + depthOf list) rest) :
    NoneStarts form depth (list ++ rest) := by
  intro before glyph after behind split level apart
  rcases List.append_eq_append_iff.mp split with ⟨start, rfl, inside⟩ | ⟨more, rfl, inside⟩
  · rw [depthOf_append, ← Int.add_assoc] at level
    refine second start glyph after behind inside level ?_
    rcases eq_or_ne start [] with rfl | filled
    · rfl
    · rwa [endsInWord_append filled] at apart
  · cases more with
    | nil =>
      rw [List.append_nil] at second
      exact second [] glyph after behind inside.symm ((Int.add_zero _).trans level) rfl
    | cons head more =>
      obtain ⟨rfl, rfl⟩ := List.cons_eq_cons.mp inside
      change readDeclaration form (glyph :: ((more ++ rest) ++ behind)) = .absent
      rw [List.append_assoc]
      exact first before glyph more (rest ++ behind) rfl level apart

theorem NoneStarts.of_append (whole : NoneStarts form depth (list ++ rest))
    (apart : endsInWord list = false) : NoneStarts form (depth + depthOf list) rest := by
  intro before glyph after behind split level start
  refine whole (list ++ before) glyph after behind (by rw [split, List.append_assoc]) ?_ ?_
  · rwa [depthOf_append, ← Int.add_assoc]
  · rcases eq_or_ne before [] with rfl | filled
    · rwa [List.append_nil]
    · rwa [endsInWord_append filled]

/-- Inside brackets nothing is looked for. -/
theorem noneStarts_of_isNested (nested : IsNested (Glyph.shownText list)) (deep : 0 < depth) :
    NoneStarts form depth list := by
  intro before glyph after _ split level
  have bound := depthOf_nonneg nested split
  omega

theorem undeclaring_nil (form : EntryForm) : Undeclaring form [] :=
  ⟨rfl, noneStarts_nil form 0⟩

theorem Undeclaring.append (first : Undeclaring form list) (second : Undeclaring form rest) :
    Undeclaring form (list ++ rest) where
  level := by rw [depthOf_append, first.level, second.level, Int.add_zero]
  absent := first.absent.append (by rw [first.level]; exact second.absent)

/-- What is behind glyphs without declarations has none if the whole has none. -/
theorem Undeclaring.of_append (first : Undeclaring form list) (apart : endsInWord list = false)
    (whole : Undeclaring form (list ++ rest)) : Undeclaring form rest where
  level := by
    have level := whole.level
    rwa [depthOf_append, first.level, Int.zero_add] at level
  absent := by
    have absent := whole.absent.of_append apart
    rwa [first.level] at absent

end

/-! ## Attempts that fail at once -/

/-- What a declaration starts with. -/
def EntryForm.opening : EntryForm → Text
  | .function keyword _ => keyword
  | .constant name => name

theorem readDeclaration_of_opening {form : EntryForm} {list : List Glyph}
    (other : takePhrase? form.opening list = none) : readDeclaration form list = .absent := by
  cases form with
  | function keyword name =>
    have other : takePhrase? keyword list = none := other
    rw [readDeclaration, other]
  | constant name =>
    have other : takePhrase? name list = none := other
    rw [readDeclaration, other]

theorem readDeclaration_of_initial {form : EntryForm} {initial : Char} {glyph : Glyph}
    (starts : form.opening.head? = some initial) (other : glyph.shown ≠ initial)
    (rest : List Glyph) : readDeclaration form (glyph :: rest) = .absent := by
  apply readDeclaration_of_opening
  obtain ⟨phrase, opening⟩ := List.head?_eq_some_iff.mp starts
  rw [opening, takePhrase?, if_neg other]

/-- No word of the glyphs starts with a character. -/
def avoids (initial : Char) : (inWord : Bool) → List Glyph → Bool
  | _, [] => true
  | inWord, glyph :: rest =>
    (inWord || glyph.shown ≠ initial) &&
      avoids initial (isAsciiIdentifierChar glyph.shown) rest

theorem ne_of_avoids {initial : Char} {inWord : Bool} {before after : List Glyph} {glyph : Glyph}
    (avoid : avoids initial inWord (before ++ glyph :: after) = true)
    (apart : (before.getLast?.elim inWord fun glyph => isAsciiIdentifierChar glyph.shown) = false) :
    glyph.shown ≠ initial := by
  induction before generalizing inWord with
  | nil =>
    have apart : inWord = false := apart
    simpa [avoids, apart] using (Bool.and_eq_true_iff.mp avoid).1
  | cons head rest ih =>
    refine ih (Bool.and_eq_true_iff.mp avoid).2 ?_
    cases rest with
    | nil => exact apart
    | cons next rest =>
      rw [List.getLast?_cons_cons] at apart
      rw [List.getLast?_eq_some_getLast (List.cons_ne_nil next rest)] at apart ⊢
      exact apart

theorem noneStarts_of_avoids {form : EntryForm} {initial : Char} {list : List Glyph}
    (starts : form.opening.head? = some initial) (avoid : avoids initial false list = true)
    (depth : Int) : NoneStarts form depth list := by
  intro before glyph after rest split _ apart
  subst split
  refine readDeclaration_of_initial starts (ne_of_avoids avoid ?_) _
  rw [← apart, endsInWord]
  cases before.getLast? <;> rfl

/-- Only at its start could a declaration start. -/
theorem noneStarts_cons_of_avoids {form : EntryForm} {initial : Char} {head : Glyph}
    {list : List Glyph} (starts : form.opening.head? = some initial)
    (absent : ∀ rest, readDeclaration form (head :: (list ++ rest)) = .absent)
    (avoid : avoids initial (isAsciiIdentifierChar head.shown) list = true) (depth : Int) :
    NoneStarts form depth (head :: list) := by
  intro before glyph after rest split _ apart
  cases before with
  | nil =>
    obtain ⟨rfl, rfl⟩ := List.cons_eq_cons.mp split
    exact absent rest
  | cons first before =>
    obtain ⟨rfl, rfl⟩ := List.cons_eq_cons.mp split
    refine readDeclaration_of_initial starts (ne_of_avoids avoid ?_) _
    cases before with
    | nil => exact apart
    | cons next before =>
      rw [endsInWord, List.getLast?_cons_cons] at apart
      rw [List.getLast?_eq_some_getLast (List.cons_ne_nil next before)] at apart ⊢
      exact apart

theorem undeclaring_of_avoids {form : EntryForm} {initial : Char} {list : List Glyph}
    (starts : form.opening.head? = some initial) (avoid : avoids initial false list = true)
    (level : depthOf list = 0) : Undeclaring form list :=
  ⟨level, noneStarts_of_avoids starts avoid 0⟩

/-! ## The search -/

section

variable {form : EntryForm} {before list rest : List Glyph} {glyph : Glyph} {depth : Int}

/-- The search goes on behind a glyph where no declaration starts. -/
theorem declarations?_cons
    (absent : depth = 0 → endsInWord before.reverse = false →
      readDeclaration form (glyph :: rest) = .absent) :
    declarations? form 0 before depth (glyph :: rest) =
      declarations? form 0 (glyph :: before) (depthStep depth glyph.shown) rest := by
  rw [declarations?, depthStep]
  split_ifs with opens closes looks
  · rfl
  · rfl
  · obtain ⟨level, apart⟩ := looks
    rw [absent level (by simpa [endsInWord] using apart)]
  · rfl

/-- The search passes glyphs in which no declaration starts, with the others behind them. -/
theorem declarations?_pass
    (none : ∀ done glyph todo, list = done ++ glyph :: todo → depth + depthOf done = 0 →
      endsInWord done = false → readDeclaration form (glyph :: (todo ++ rest)) = .absent)
    (before : List Glyph) :
    declarations? form 0 before depth (list ++ rest) =
      declarations? form 0 (list.reverse ++ before) (depth + depthOf list) rest := by
  -- The induction is on what is still to be passed; what was passed is kept beside it.
  suffices passed : ∀ todo done, list = done ++ todo →
      declarations? form 0 (done.reverse ++ before) (depth + depthOf done) (todo ++ rest) =
        declarations? form 0 (list.reverse ++ before) (depth + depthOf list) rest by
    have start := passed list [] rfl
    rwa [show depthOf [] = 0 from rfl, Int.add_zero] at start
  intro todo
  induction todo with
  | nil =>
    intro done split
    rw [split, List.append_nil, List.nil_append]
  | cons glyph todo ih =>
    intro done split
    rw [← ih (done ++ [glyph]) (by rw [split, List.append_assoc]; rfl), List.cons_append,
      declarations?_cons, depthOf_concat, List.reverse_concat, List.cons_append]
    · rw [depthStep_eq_add, Int.add_assoc, ← depthStep_eq_add]
    · intro level apart
      refine none done glyph todo split level ?_
      rw [List.reverse_append, List.reverse_reverse] at apart
      rcases eq_or_ne done [] with rfl | filled
      · rfl
      · rwa [endsInWord_append filled] at apart

theorem NoneStarts.declarations? (none : NoneStarts form depth list) (before rest : List Glyph) :
    declarations? form 0 before depth (list ++ rest) =
      declarations? form 0 (list.reverse ++ before) (depth + depthOf list) rest :=
  declarations?_pass (fun done glyph todo => none done glyph todo rest) before

theorem Undeclaring.declarations? (none : Undeclaring form list) (before rest : List Glyph) :
    declarations? form 0 before 0 (list ++ rest) =
      declarations? form 0 (list.reverse ++ before) 0 rest := by
  rw [none.absent.declarations? before rest, none.level, Int.add_zero]

theorem declarations?_skip (form : EntryForm) (before list rest : List Glyph) (depth : Int) :
    declarations? form list.length before depth (list ++ rest) =
      declarations? form 0 (list.reverse ++ before) depth rest := by
  induction list generalizing before with
  | nil => rfl
  | cons glyph list ih =>
    rw [List.length_cons, List.cons_append, Source.declarations?, ih, List.reverse_cons,
      List.append_assoc]
    rfl

/-- What a declaration starts with is not a bracket. -/
def EntryForm.StartsPlain (form : EntryForm) : Prop :=
  ∃ initial, form.opening.head? = some initial ∧ depthStep 0 initial = 0

theorem noBracket_of_depthStep {c : Char} (plain : depthStep 0 c = 0) :
    ¬(c = '{' ∨ c = '(' ∨ c = '[') ∧ ¬(c = '\x7d' ∨ c = ')' ∨ c = ']') := by
  constructor
  · rintro (rfl | rfl | rfl) <;> exact absurd plain (by decide)
  · rintro (rfl | rfl | rfl) <;> exact absurd plain (by decide)

theorem shown_of_found {initial : Char} {declaration : Declaration}
    (starts : form.opening.head? = some initial)
    (reads : readDeclaration form list = .found declaration) :
    ∃ glyph rest, list = glyph :: rest ∧ glyph.shown = initial := by
  obtain ⟨phrase, opening⟩ := List.head?_eq_some_iff.mp starts
  cases taking : takePhrase? form.opening list with
  | none =>
    rw [readDeclaration_of_opening taking] at reads
    cases reads
  | some taken =>
    obtain ⟨taken, rest⟩ := taken
    obtain ⟨rfl, shown⟩ := takePhrase?_eq_some_iff.mp taking
    rw [opening] at shown
    cases taken with
    | nil => cases shown
    | cons glyph taken => exact ⟨glyph, taken ++ rest, rfl, List.head_eq_of_cons_eq shown⟩

/-- A declaration that is found is passed as a whole. -/
theorem declarations?_found {declaration : Declaration} (plain : form.StartsPlain)
    (apart : endsInWord before.reverse = false)
    (reads : readDeclaration form list = .found declaration) :
    declarations? form 0 before 0 list =
      (declarations? form 0 (declaration.glyphs.reverse ++ before) 0 declaration.after).map
        (entryOf form before declaration :: ·) := by
  obtain ⟨initial, starts, isPlain⟩ := plain
  obtain ⟨glyph, rest, rfl, isInitial⟩ := shown_of_found starts reads
  obtain ⟨split, read⟩ := readDeclaration_eq_found reads
  have noBracket := noBracket_of_depthStep (isInitial ▸ isPlain)
  obtain ⟨head, others, parts⟩ := List.exists_cons_of_ne_nil read.glyphs_ne_nil
  have length : declaration.length - 1 = others.length := by
    rw [← declaration.length_glyphs, parts, List.length_cons, Nat.add_sub_cancel]
  rw [parts] at split
  obtain ⟨rfl, rest⟩ := List.cons_eq_cons.mp split
  rw [declarations?, if_neg noBracket.1, if_neg noBracket.2,
    if_pos ⟨rfl, by simpa [endsInWord] using apart⟩, reads]
  dsimp only
  rw [length, rest, parts, List.reverse_cons, List.append_assoc]
  exact congrArg _ (declarations?_skip form (glyph :: before) others declaration.after 0)

/-- A declaration that is left open ends the search. -/
theorem declarations?_unbalanced (plain : depthStep 0 glyph.shown = 0)
    (apart : endsInWord before.reverse = false)
    (reads : readDeclaration form (glyph :: rest) = .unbalanced) :
    declarations? form 0 before 0 (glyph :: rest) = none := by
  obtain ⟨noOpening, noClosing⟩ := noBracket_of_depthStep plain
  rw [declarations?, if_neg noOpening, if_neg noClosing,
    if_pos ⟨rfl, by simpa [endsInWord] using apart⟩, reads]

/-- A declaration with none behind it is the last one. -/
theorem declarations?_last {declaration : Declaration} (plain : form.StartsPlain)
    (apart : endsInWord before.reverse = false)
    (reads : readDeclaration form list = .found declaration)
    (behind : Undeclaring form declaration.after) :
    declarations? form 0 before 0 list = some [entryOf form before declaration] := by
  have none := behind.declarations? (declaration.glyphs.reverse ++ before) []
  rw [List.append_nil] at none
  rw [declarations?_found plain apart reads, none]
  rfl

theorem declarations?_of_entryPoint? {lexicon : Lexicon} {source : Text} {entry : EntryPoint}
    (found : entryPoint? lexicon form source = some entry) :
    declarations? form 0 [] 0 (glyphs lexicon source) = some [entry] := by
  rw [entryPoint?] at found
  split at found
  next entry finds => rw [finds, Option.some_inj.mp found]
  next => cases found

/-- A step of the search finds a declaration, or goes on behind the glyph. -/
theorem declarations?_cases {entries : List EntryPoint}
    (finds : declarations? form 0 before depth (glyph :: rest) = some entries) :
    (∃ declaration more, depth = 0 ∧ endsInWord before.reverse = false ∧
      readDeclaration form (glyph :: rest) = .found declaration ∧
      entries = entryOf form before declaration :: more) ∨
    declarations? form 0 (glyph :: before) (depthStep depth glyph.shown) rest = some entries := by
  rw [declarations?] at finds
  rw [depthStep]
  split_ifs at finds ⊢ with opens closes looks
  · exact .inr finds
  · exact .inr finds
  · split at finds
    next declaration reads =>
      obtain ⟨more, _, same⟩ := Option.map_eq_some_iff.mp finds
      exact .inl ⟨declaration, more, looks.1, by simpa [endsInWord] using looks.2, reads, same.symm⟩
    next => cases finds
    next => exact .inr finds
  · exact .inr finds

/-- The first declaration that is found starts behind glyphs at depth zero. -/
theorem exists_of_declarations? {entry : EntryPoint} {entries : List EntryPoint}
    (finds : declarations? form 0 before depth list = some (entry :: entries)) :
    ∃ passed declaration, list = passed ++ (declaration.glyphs ++ declaration.after) ∧
      depth + depthOf passed = 0 ∧
      readDeclaration form (declaration.glyphs ++ declaration.after) = .found declaration ∧
      endsInWord (before.reverse ++ passed) = false ∧
      entry = entryOf form (passed.reverse ++ before) declaration := by
  induction list generalizing before depth with
  | nil => cases finds
  | cons glyph rest ih =>
    rcases declarations?_cases finds with ⟨declaration, more, level, apart, reads, same⟩ | further
    · obtain ⟨rfl, rfl⟩ := List.cons_eq_cons.mp same
      obtain ⟨split, _⟩ := readDeclaration_eq_found reads
      refine ⟨[], declaration, split, (Int.add_zero depth).trans level, split ▸ reads, ?_, rfl⟩
      rwa [List.append_nil]
    · obtain ⟨passed, declaration, rfl, level, reads, apart, same⟩ := ih further
      refine ⟨glyph :: passed, declaration, rfl, ?_, reads, ?_, ?_⟩
      · rw [← List.singleton_append, depthOf_append, ← Int.add_assoc]
        rwa [depthStep_eq_add] at level
      · rwa [List.reverse_cons, List.append_assoc] at apart
      · rwa [List.reverse_cons, List.append_assoc]

theorem takeVisibility_length_le (before : List Glyph) :
    (Glyph.sourceText (takeVisibility before).1.reverse).length ≤
      (Glyph.sourceText before.reverse).length := by
  have suffix : (takeVisibility before).1 <:+ before := by
    rw [takeVisibility]
    split
    next word rest taking =>
      split
      · exact List.suffix_refl _
      · refine List.IsSuffix.trans ?_ (List.dropWhile_suffix (fun glyph : Glyph =>
          decide (glyph.shown = ' ' ∨ glyph.shown = '\t')))
        rw [(takePhrase?_eq_some_iff.mp taking).1]
        exact List.suffix_append _ _
    next => exact List.suffix_refl _
  exact ((List.reverse_prefix.mpr suffix).sublist.filterMap _).length_le

/-- Behind a line nothing is taken for a visibility, -/
theorem takeVisibility_of_ends {before : List Glyph}
    (ends : ∀ glyph ∈ before.head?, glyph.shown = '\n') : takeVisibility before = (before, []) := by
  cases before with
  | nil => rfl
  | cons glyph before =>
    have newline : glyph.shown = '\n' := ends glyph rfl
    simp [takeVisibility, takePhrase?, newline]

/-- and one that stands there is taken as a whole. -/
theorem takeVisibility_pub {before : List Glyph}
    (ends : ∀ glyph ∈ before.head?, glyph.shown = '\n') :
    takeVisibility ((("pub " : Text).map Glyph.code).reverse ++ before) =
      (before, ("pub " : Text).map Glyph.code) := by
  have apart : (before.head?.any fun glyph => isIdentifierChar glyph.shown) = false := by
    rw [Option.any_eq_false]
    intro glyph member
    rw [ends glyph member]
    decide
  change (if (before.head?.any fun glyph => isIdentifierChar glyph.shown) = true then _ else _) = _
  rw [apart]
  rfl

/-- The glyphs ahead of a declaration, in reverse, and those that make it visible. -/
def EntryForm.visibility (form : EntryForm) (before : List Glyph) : List Glyph × List Glyph :=
  match form with
  | .function _ _ => takeVisibility before
  | .constant _ => (before, [])

theorem entryOf_eq (form : EntryForm) (before : List Glyph) (declaration : Declaration) :
    entryOf form before declaration =
      ⟨Glyph.sourceText (form.visibility before).1.reverse,
        Glyph.sourceText ((form.visibility before).2 ++ declaration.lead),
        Glyph.sourceText declaration.name,
        Glyph.sourceText (declaration.parameters ++ declaration.result ++ declaration.body),
        Glyph.sourceText declaration.after, Text.trim (Glyph.sourceText declaration.result)⟩ := by
  cases form <;> rfl

theorem entryOf_function {keyword name : Text} {before ahead visibility : List Glyph}
    (taken : takeVisibility before = (ahead, visibility)) (declaration : Declaration) :
    entryOf (.function keyword name) before declaration =
      ⟨Glyph.sourceText ahead.reverse, Glyph.sourceText (visibility ++ declaration.lead),
        Glyph.sourceText declaration.name,
        Glyph.sourceText (declaration.parameters ++ declaration.result ++ declaration.body),
        Glyph.sourceText declaration.after, Text.trim (Glyph.sourceText declaration.result)⟩ := by
  rw [entryOf_eq, EntryForm.visibility, taken]

theorem length_before_entryOf_le (form : EntryForm) (before : List Glyph)
    (declaration : Declaration) :
    (entryOf form before declaration).before.length ≤ (Glyph.sourceText before.reverse).length := by
  cases form with
  | function keyword name => exact takeVisibility_length_le before
  | constant name => exact Nat.le_refl _

/-- Where a declaration can be read, the search finds it, or another one ahead of it. -/
theorem length_before_le {passed todo : List Glyph} {declaration : Declaration}
    {entries : List EntryPoint} (plain : form.StartsPlain) (level : depth + depthOf passed = 0)
    (apart : endsInWord (before.reverse ++ passed) = false)
    (reads : readDeclaration form todo = .found declaration)
    (finds : declarations? form 0 before depth (passed ++ todo) = some entries) :
    ∃ entry others, entries = entry :: others ∧
      entry.before.length ≤ (Glyph.sourceText (before.reverse ++ passed)).length := by
  induction passed generalizing before depth with
  | nil =>
    obtain rfl : depth = 0 := (Int.add_zero depth).symm.trans level
    rw [List.append_nil] at apart ⊢
    rw [List.nil_append, declarations?_found plain apart reads] at finds
    obtain ⟨others, _, same⟩ := Option.map_eq_some_iff.mp finds
    exact ⟨_, others, same.symm, length_before_entryOf_le form before declaration⟩
  | cons glyph passed ih =>
    rcases declarations?_cases finds with ⟨other, more, _, _, _, same⟩ | further
    · refine ⟨_, more, same, (length_before_entryOf_le form before other).trans ?_⟩
      exact ((List.prefix_append before.reverse _).sublist.filterMap _).length_le
    · have behind : (glyph :: before).reverse ++ passed = before.reverse ++ glyph :: passed := by
        rw [List.reverse_cons, List.append_assoc]
        rfl
      rw [← behind] at apart ⊢
      refine ih ?_ apart further
      rw [← List.singleton_append, depthOf_append, ← Int.add_assoc] at level
      rwa [depthStep_eq_add]

end

end Notebook.Source
