import Mathlib.Data.List.TakeWhile
import Notebook.Proofs.Source.Nesting
import Notebook.Source.EntryPoint

/-! # Declarations and their parts

A declaration that was read is cut into parts, which put together are the glyphs it was read from.
Reading stops at the brace that closes the body, so a declaration is the same whatever follows it;
and a body that is properly nested is read to its end.
-/

namespace Notebook.Source

/-! ## Readers of parts -/

section

variable {list taken rest gap : List Glyph}

theorem takePhrase?_eq_some_iff {phrase : Text} :
    takePhrase? phrase list = some (taken, rest) ↔
      list = taken ++ rest ∧ Glyph.shownText taken = phrase := by
  induction phrase generalizing list taken rest with
  | nil =>
    rw [takePhrase?, Option.some_inj, Prod.mk.injEq, Glyph.shownText, List.map_eq_nil_iff]
    constructor
    · rintro ⟨rfl, rfl⟩
      exact ⟨rfl, rfl⟩
    · rintro ⟨rfl, rfl⟩
      exact ⟨rfl, rfl⟩
  | cons c phrase ih =>
    cases list with
    | nil =>
      refine ⟨nofun, ?_⟩
      rintro ⟨split, shown⟩
      obtain ⟨rfl, _⟩ := List.append_eq_nil_iff.mp split.symm
      cases shown
    | cons glyph list =>
      simp only [takePhrase?, Option.ite_none_right_eq_some, Option.map_eq_some_iff, Prod.exists,
        Prod.mk.injEq, ih]
      constructor
      · rintro ⟨here, taken, _, ⟨rfl, shown⟩, rfl, rfl⟩
        refine ⟨rfl, ?_⟩
        rw [← here, ← shown]
        rfl
      · rintro ⟨split, shown⟩
        cases taken with
        | nil => cases shown
        | cons head taken =>
          obtain ⟨rfl, rfl⟩ := List.cons_eq_cons.mp split
          obtain ⟨here, shown⟩ := List.cons_eq_cons.mp shown
          exact ⟨here, taken, rest, ⟨rfl, shown⟩, rfl, rfl⟩

theorem takePhrase?_append {phrase : Text} (taking : takePhrase? phrase list = some (taken, rest))
    (behind : List Glyph) : takePhrase? phrase (list ++ behind) = some (taken, rest ++ behind) := by
  obtain ⟨rfl, shown⟩ := takePhrase?_eq_some_iff.mp taking
  exact takePhrase?_eq_some_iff.mpr ⟨List.append_assoc .., shown⟩

theorem takeBlanks_append_eq (list : List Glyph) :
    (takeBlanks list).1 ++ (takeBlanks list).2 = list :=
  List.takeWhile_append_dropWhile

theorem isAsciiBlank_of_mem_takeBlanks {glyph : Glyph} (member : glyph ∈ (takeBlanks list).1) :
    isAsciiBlank glyph.shown = true :=
  List.mem_takeWhile_imp (p := fun glyph : Glyph => isAsciiBlank glyph.shown) member

theorem takeBlanks_ne_nil
    (blank : (list.head?.any fun glyph => isAsciiBlank glyph.shown) = true) :
    (takeBlanks list).1 ≠ [] := by
  cases list with
  | nil => cases blank
  | cons glyph list =>
    rw [takeBlanks, List.takeWhile_cons_of_pos (by simpa using blank)]
    exact List.cons_ne_nil _ _

/-- Blanks are taken up to the first glyph that is none. -/
theorem takeBlanks_of_blank {visible : Glyph}
    (blank : ∀ glyph ∈ gap, isAsciiBlank glyph.shown = true)
    (isVisible : isAsciiBlank visible.shown = false) (rest : List Glyph) :
    takeBlanks (gap ++ visible :: rest) = (gap, visible :: rest) := by
  rw [takeBlanks, List.takeWhile_append_of_pos blank, List.dropWhile_append_of_pos blank,
    List.takeWhile_cons_of_neg (by simp [isVisible]), List.append_nil,
    List.dropWhile_cons_of_neg (by simp [isVisible])]

theorem takeBlanks_append {visible : Glyph} (taking : (takeBlanks list).2 = visible :: rest)
    (behind : List Glyph) :
    takeBlanks (list ++ behind) = ((takeBlanks list).1, visible :: rest ++ behind) := by
  have isVisible : isAsciiBlank visible.shown = false := by
    have stops := List.head?_dropWhile_not (fun glyph : Glyph => isAsciiBlank glyph.shown) list
    have taking : list.dropWhile (fun glyph : Glyph => isAsciiBlank glyph.shown) =
        visible :: rest :=
      taking
    rw [taking] at stops
    simpa using stops
  have split := takeBlanks_append_eq list
  rw [taking] at split
  conv_lhs => rw [← split, List.append_assoc]
  exact takeBlanks_of_blank (fun glyph => isAsciiBlank_of_mem_takeBlanks) isVisible _

end

/-! ## Closing brackets -/

section

variable {list taken rest : List Glyph} {opening closing : Char} {depth : Nat}

/-- How many brackets are open behind a character. -/
def closedDepth (opening closing : Char) (depth : Nat) (c : Char) : Nat :=
  if c = opening then depth + 1 else if c = closing then depth - 1 else depth

/-- A glyph is the bracket that closes the first one, or it is taken along. -/
theorem takeClosed?_cons (opening closing : Char) (depth : Nat) (glyph : Glyph)
    (list : List Glyph) :
    takeClosed? opening closing depth (glyph :: list) =
      if glyph.shown ≠ opening ∧ glyph.shown = closing ∧ depth ≤ 1 then some ([glyph], list)
      else
        (takeClosed? opening closing (closedDepth opening closing depth glyph.shown) list).map
          fun (taken, rest) => (glyph :: taken, rest) := by
  rw [takeClosed?, closedDepth]
  by_cases opens : glyph.shown = opening
  · simp [opens]
  · by_cases closes : glyph.shown = closing
    · simp [closes, show closing ≠ opening from closes ▸ opens]
    · simp [opens, closes]

theorem takeClosed?_eq_some (taking : takeClosed? opening closing depth list = some (taken, rest)) :
    list = taken ++ rest ∧ taken.getLast?.map (·.shown) = some closing := by
  induction list generalizing depth taken with
  | nil => cases taking
  | cons glyph list ih =>
    rw [takeClosed?_cons] at taking
    split_ifs at taking with ends
    · obtain ⟨rfl, rfl⟩ := Prod.mk.inj (Option.some_inj.mp taking)
      exact ⟨rfl, congrArg some ends.2.1⟩
    · obtain ⟨⟨inside, _⟩, further, same⟩ := Option.map_eq_some_iff.mp taking
      obtain ⟨rfl, rfl⟩ := Prod.mk.inj same
      obtain ⟨rfl, last⟩ := ih further
      refine ⟨rfl, ?_⟩
      cases inside with
      | nil => cases last
      | cons next inside => rwa [List.getLast?_cons_cons]

theorem takeClosed?_ne_nil (taking : takeClosed? opening closing depth list = some (taken, rest)) :
    taken ≠ [] := by
  rintro rfl
  cases (takeClosed?_eq_some taking).2

theorem takeClosed?_append (taking : takeClosed? opening closing depth list = some (taken, rest))
    (behind : List Glyph) :
    takeClosed? opening closing depth (list ++ behind) = some (taken, rest ++ behind) := by
  induction list generalizing depth taken with
  | nil => cases taking
  | cons glyph list ih =>
    rw [List.cons_append]
    rw [takeClosed?_cons] at taking ⊢
    split_ifs at taking ⊢ with ends
    · obtain ⟨rfl, rfl⟩ := Prod.mk.inj (Option.some_inj.mp taking)
      rfl
    · obtain ⟨⟨inside, _⟩, further, same⟩ := Option.map_eq_some_iff.mp taking
      obtain ⟨rfl, rfl⟩ := Prod.mk.inj same
      rw [ih further]
      rfl

/-- A step within brackets of which some are still open. The depth counts those of one kind. -/
theorem closedDepth_of_step (pair : (opening, closing) ∈ bracketPairs) {opened inside : List Char}
    {c : Char} (stepped : bracketStep? opened c = some inside) (deep : 0 < depth) :
    closedDepth opening closing (depth + opened.count opening) c = depth + inside.count opening ∧
      ¬(c ≠ opening ∧ c = closing ∧ depth + opened.count opening ≤ 1) := by
  simp only [bracketPairs, List.mem_cons, Prod.mk.injEq, List.not_mem_nil, or_false] at pair
  obtain ⟨opens, rfl⟩ | ⟨_, _, innermost, rfl, fits⟩ | ⟨notOpening, notClosing, rfl⟩ :=
    bracketStep?_cases stepped
  · rcases pair with ⟨rfl, rfl⟩ | ⟨rfl, rfl⟩ | ⟨rfl, rfl⟩
    all_goals rcases opens with rfl | rfl | rfl <;> simp [closedDepth, Nat.add_assoc]
  · simp only [bracketPairs, List.mem_cons, Prod.mk.injEq, List.not_mem_nil, or_false] at fits
    rcases pair with ⟨rfl, rfl⟩ | ⟨rfl, rfl⟩ | ⟨rfl, rfl⟩
    all_goals rcases fits with ⟨rfl, rfl⟩ | ⟨rfl, rfl⟩ | ⟨rfl, rfl⟩
    all_goals simp [closedDepth]
    all_goals omega
  · rw [not_or, not_or] at notOpening notClosing
    rcases pair with ⟨rfl, rfl⟩ | ⟨rfl, rfl⟩ | ⟨rfl, rfl⟩
    all_goals simp [closedDepth, notOpening, notClosing]

/-- Looking for the bracket that closes the first one goes past what is properly nested. -/
theorem takeClosed?_nested (pair : (opening, closing) ∈ bracketPairs) {opened inside : List Char}
    (reads : opened? opened (Glyph.shownText list) = some inside) (deep : 0 < depth)
    (rest : List Glyph) :
    takeClosed? opening closing (depth + opened.count opening) (list ++ rest) =
      (takeClosed? opening closing (depth + inside.count opening) rest).map
        fun (taken, after) => (list ++ taken, after) := by
  induction list generalizing opened with
  | nil =>
    obtain rfl := Option.some_inj.mp reads
    simp
  | cons glyph list ih =>
    obtain ⟨next, stepped, further⟩ :=
      Option.bind_eq_some_iff.mp ((opened?_cons ..).symm.trans reads)
    obtain ⟨depth, goesOn⟩ := closedDepth_of_step pair stepped deep
    rw [List.cons_append, takeClosed?_cons, if_neg goesOn, depth, ih further, Option.map_map]
    rfl

/-- Brackets around what is properly nested are found. -/
theorem takeClosed?_brackets (pair : (opening, closing) ∈ bracketPairs) {first last : Glyph}
    (opens : first.shown = opening) (closes : last.shown = closing)
    (nested : IsNested (Glyph.shownText list)) (behind : List Glyph) :
    takeClosed? opening closing 0 (first :: (list ++ last :: behind)) =
      some (first :: (list ++ [last]), behind) := by
  have differ : closing ≠ opening := by
    simp only [bracketPairs, List.mem_cons, Prod.mk.injEq, List.not_mem_nil, or_false] at pair
    rcases pair with ⟨rfl, rfl⟩ | ⟨rfl, rfl⟩ | ⟨rfl, rfl⟩ <;> decide
  have inside := takeClosed?_nested pair nested Nat.one_pos (last :: behind)
  rw [List.count_nil, Nat.add_zero, takeClosed?_cons,
    if_pos ⟨closes ▸ differ, closes, Nat.le_refl 1⟩] at inside
  rw [takeClosed?_cons, if_neg (by simp [opens]), opens, closedDepth, if_pos rfl, Nat.zero_add,
    inside]
  rfl

end

/-! ## Parameters, result and body -/

namespace Declaration

/-- The glyphs of a declaration. -/
def glyphs (declaration : Declaration) : List Glyph :=
  declaration.lead ++ declaration.name ++ declaration.parameters ++ declaration.result ++
    declaration.body

/-- The declaration ahead of more glyphs. -/
def extended (declaration : Declaration) (behind : List Glyph) : Declaration :=
  { declaration with after := declaration.after ++ behind }

theorem length_glyphs (declaration : Declaration) :
    declaration.glyphs.length = declaration.length := by
  simp only [glyphs, length, List.length_append]

end Declaration

/-- The glyph can stand between parameters and body. -/
def staysInResult (glyph : Glyph) : Bool :=
  glyph.shown ≠ '{' ∧ glyph.shown ≠ ';' ∧ glyph.shown ≠ '\x7d'

section

variable {lead name gap list behind : List Glyph} {declaration : Declaration}

/-- Parameters and body are closed by brackets, and the result reaches from the ones to the
other. -/
theorem readBody_eq_found_iff :
    readBody lead name gap list = .found declaration ↔
      ∃ parameters brace more, list.head?.map (·.shown) = some '(' ∧
        takeClosed? '(' ')' 0 list = some (parameters, declaration.result ++ brace :: more) ∧
        (∀ glyph ∈ declaration.result, staysInResult glyph = true) ∧ brace.shown = '{' ∧
        takeClosed? '{' '\x7d' 0 (brace :: more) = some (declaration.body, declaration.after) ∧
        declaration.lead = lead ∧ declaration.name = name ∧
        declaration.parameters = gap ++ parameters := by
  constructor
  · intro reads
    rw [readBody] at reads
    split_ifs at reads with opens
    split at reads
    next => cases reads
    next parameters rest closed =>
      simp only at reads
      split_ifs at reads with braced
      split at reads
      next => cases reads
      next body after closedBody =>
        cases reads
        obtain ⟨brace, first, isBrace⟩ := Option.map_eq_some_iff.mp braced
        obtain ⟨more, behind⟩ := List.head?_eq_some_iff.mp first
        rw [behind] at closedBody
        refine ⟨parameters, brace, more, opens, ?_, ?_, isBrace, closedBody, rfl, rfl, rfl⟩
        · rw [closed, ← behind]
          exact congrArg (fun rest => some (parameters, rest)) (List.prefix_iff_eq_append.mp
            (List.takeWhile_prefix _)).symm
        · exact fun glyph member => List.mem_takeWhile_imp (p := staysInResult) member
  · rintro ⟨parameters, brace, more, opens, closed, stays, isBrace, closedBody, rfl, rfl, same⟩
    have stops : staysInResult brace = false := by simp [staysInResult, isBrace]
    have result : (declaration.result ++ brace :: more).takeWhile (fun glyph =>
        glyph.shown ≠ '{' ∧ glyph.shown ≠ ';' ∧ glyph.shown ≠ '\x7d') = declaration.result := by
      change (declaration.result ++ brace :: more).takeWhile staysInResult = _
      rw [List.takeWhile_append_of_pos stays, List.takeWhile_cons_of_neg (by simp [stops]),
        List.append_nil]
    rw [readBody, if_pos opens, closed]
    simp only [result, List.drop_left, List.head?_cons, Option.map_some, isBrace, if_true,
      closedBody, ← same]

/-- The declaration is put together from what it was read from. -/
theorem append_of_readBody (reads : readBody lead name gap list = .found declaration) :
    lead ++ name ++ gap ++ list = declaration.glyphs ++ declaration.after := by
  obtain ⟨parameters, brace, more, _, closed, _, _, closedBody, rfl, rfl, same⟩ :=
    readBody_eq_found_iff.mp reads
  rw [(takeClosed?_eq_some closed).1, (takeClosed?_eq_some closedBody).1, Declaration.glyphs, same]
  simp only [List.append_assoc]

theorem readBody_append (reads : readBody lead name gap list = .found declaration)
    (behind : List Glyph) :
    readBody lead name gap (list ++ behind) = .found (declaration.extended behind) := by
  obtain ⟨parameters, brace, more, opens, closed, stays, isBrace, closedBody, leads, named, same⟩ :=
    readBody_eq_found_iff.mp reads
  refine readBody_eq_found_iff.mpr ⟨parameters, brace, more ++ behind, ?_, ?_, stays, isBrace,
    takeClosed?_append closedBody behind, leads, named, same⟩
  · cases list with
    | nil => cases opens
    | cons => exact opens
  · have longer := takeClosed?_append closed behind
    rwa [List.append_assoc] at longer

end

/-! ## Declarations -/

/-- The name that a language gives to its entry point. -/
def EntryForm.name : EntryForm → Text
  | .function _ name => name
  | .constant name => name

/-- What stands ahead of the name: a keyword and blanks, or nothing. -/
def EntryForm.Leads : EntryForm → List Glyph → Prop
  | .function keyword _, lead => ∃ word gap, lead = word ++ gap ∧ Glyph.shownText word = keyword ∧
      gap ≠ [] ∧ ∀ glyph ∈ gap, isAsciiBlank glyph.shown = true
  | .constant _, lead => lead = []

section

variable {form : EntryForm} {list behind : List Glyph} {declaration : Declaration}

/-- An attempt fails at once, or it comes to the parameters of a declaration with a keyword. -/
theorem readDeclaration_function_cases (keyword phrase : Text) (list : List Glyph) :
    readDeclaration (.function keyword phrase) list = .absent ∨
      ∃ word after name rest, takePhrase? keyword list = some (word, after) ∧
        (after.head?.any fun glyph => isAsciiBlank glyph.shown) = true ∧
        takePhrase? phrase (takeBlanks after).2 = some (name, rest) ∧ endsWord rest = true := by
  rw [readDeclaration]
  cases first : takePhrase? keyword list with
  | none => simp
  | some taken =>
    obtain ⟨word, after⟩ := taken
    cases blank : after.head?.any fun glyph => isAsciiBlank glyph.shown with
    | false => simp [blank]
    | true =>
      cases second : takePhrase? phrase (takeBlanks after).2 with
      | none => simp [second]
      | some taken =>
        obtain ⟨name, rest⟩ := taken
        cases ends : endsWord rest with
        | false => simp [second, ends]
        | true => exact .inr ⟨word, after, name, rest, rfl, blank, second, ends⟩

theorem readDeclaration_function_eq {keyword phrase : Text} {word after name rest : List Glyph}
    (first : takePhrase? keyword list = some (word, after))
    (blank : (after.head?.any fun glyph => isAsciiBlank glyph.shown) = true)
    (second : takePhrase? phrase (takeBlanks after).2 = some (name, rest))
    (ends : endsWord rest = true) :
    readDeclaration (.function keyword phrase) list =
      readBody (word ++ (takeBlanks after).1) name (takeBlanks rest).1 (takeBlanks rest).2 := by
  rw [readDeclaration, first]
  simp [blank, second, ends]

/-- A declaration with a keyword, and what is read on the way to its parameters. -/
theorem readDeclaration_function_eq_found_iff {keyword phrase : Text} :
    readDeclaration (.function keyword phrase) list = .found declaration ↔
      ∃ word after name rest, takePhrase? keyword list = some (word, after) ∧
        (after.head?.any fun glyph => isAsciiBlank glyph.shown) = true ∧
        takePhrase? phrase (takeBlanks after).2 = some (name, rest) ∧ endsWord rest = true ∧
        readBody (word ++ (takeBlanks after).1) name (takeBlanks rest).1 (takeBlanks rest).2 =
          .found declaration := by
  constructor
  · intro reads
    rcases readDeclaration_function_cases keyword phrase list with absent | attempt
    · rw [absent] at reads
      cases reads
    · obtain ⟨word, after, name, rest, first, blank, second, ends⟩ := attempt
      rw [readDeclaration_function_eq first blank second ends] at reads
      exact ⟨word, after, name, rest, first, blank, second, ends, reads⟩
  · rintro ⟨word, after, name, rest, first, blank, second, ends, body⟩
    rwa [readDeclaration_function_eq first blank second ends]

/-- A declaration that starts with its name. -/
theorem readDeclaration_constant_eq_found_iff {phrase : Text} :
    readDeclaration (.constant phrase) list = .found declaration ↔
      ∃ name rest colons after, takePhrase? phrase list = some (name, rest) ∧
        endsWord rest = true ∧ takePhrase? "::" (takeBlanks rest).2 = some (colons, after) ∧
        readBody [] name ((takeBlanks rest).1 ++ colons ++ (takeBlanks after).1)
          (takeBlanks after).2 = .found declaration := by
  rw [readDeclaration]
  cases first : takePhrase? phrase list with
  | none => simp
  | some taken =>
    obtain ⟨name, rest⟩ := taken
    cases ends : endsWord rest with
    | false => simp [ends]
    | true =>
      cases second : takePhrase? [':', ':'] (takeBlanks rest).2 with
      | none => simp [ends, second]
      | some taken =>
        obtain ⟨colons, after⟩ := taken
        simp [ends, second]

theorem readBody_ne_nil {lead name gap : List Glyph}
    (reads : readBody lead name gap list = .found declaration) : list ≠ [] := by
  obtain ⟨_, _, _, opens, _⟩ := readBody_eq_found_iff.mp reads
  rintro rfl
  cases opens

theorem endsWord_append (filled : list ≠ []) (behind : List Glyph) :
    endsWord (list ++ behind) = endsWord list := by
  rw [endsWord, endsWord, List.head?_append_of_ne_nil _ filled]

theorem takeBlanks_append_of_ne_nil (visible : (takeBlanks list).2 ≠ []) (behind : List Glyph) :
    takeBlanks (list ++ behind) = ((takeBlanks list).1, (takeBlanks list).2 ++ behind) := by
  obtain ⟨first, rest, taking⟩ := List.exists_cons_of_ne_nil visible
  rw [takeBlanks_append taking, taking]

theorem ne_nil_of_takeBlanks (visible : (takeBlanks list).2 ≠ []) : list ≠ [] := by
  rintro rfl
  exact visible rfl

theorem ne_nil_of_takePhrase? {phrase : Text} {taken rest : List Glyph}
    (taking : takePhrase? phrase list = some (taken, rest)) (filled : rest ≠ []) : list ≠ [] := by
  rw [(takePhrase?_eq_some_iff.mp taking).1]
  exact List.append_ne_nil_of_right_ne_nil _ filled

/-- A declaration that was read stays what it is whatever follows it. -/
theorem readDeclaration_append (reads : readDeclaration form list = .found declaration)
    (behind : List Glyph) :
    readDeclaration form (list ++ behind) = .found (declaration.extended behind) := by
  cases form with
  | function keyword phrase =>
    obtain ⟨word, after, name, rest, first, blank, second, ends, body⟩ :=
      readDeclaration_function_eq_found_iff.mp reads
    have restVisible := readBody_ne_nil body
    have restFilled := ne_nil_of_takeBlanks restVisible
    have afterVisible := ne_nil_of_takePhrase? second restFilled
    refine readDeclaration_function_eq_found_iff.mpr ⟨word, after ++ behind, name, rest ++ behind,
      takePhrase?_append first behind, ?_, ?_, ?_, ?_⟩
    · rwa [List.head?_append_of_ne_nil _ (ne_nil_of_takeBlanks afterVisible)]
    · rw [takeBlanks_append_of_ne_nil afterVisible]
      exact takePhrase?_append second behind
    · rwa [endsWord_append restFilled]
    · rw [takeBlanks_append_of_ne_nil afterVisible, takeBlanks_append_of_ne_nil restVisible]
      exact readBody_append body behind
  | constant phrase =>
    obtain ⟨name, rest, colons, after, first, ends, second, body⟩ :=
      readDeclaration_constant_eq_found_iff.mp reads
    have afterVisible := readBody_ne_nil body
    have afterFilled := ne_nil_of_takeBlanks afterVisible
    have restVisible := ne_nil_of_takePhrase? second afterFilled
    refine readDeclaration_constant_eq_found_iff.mpr ⟨name, rest ++ behind, colons,
      after ++ behind, takePhrase?_append first behind, ?_, ?_, ?_⟩
    · rwa [endsWord_append (ne_nil_of_takeBlanks restVisible)]
    · rw [takeBlanks_append_of_ne_nil restVisible]
      exact takePhrase?_append second behind
    · rw [takeBlanks_append_of_ne_nil restVisible, takeBlanks_append_of_ne_nil afterVisible]
      exact readBody_append body behind

end

/-! ## What was read -/

/-- The parts of a declaration are what they have to be. -/
structure Declaration.IsRead (form : EntryForm) (declaration : Declaration) : Prop where
  lead : form.Leads declaration.lead
  name : Glyph.shownText declaration.name = form.name
  /-- The name ends where the parameters start. -/
  parameters : declaration.parameters ≠ [] ∧ endsWord declaration.parameters = true
  /-- The result stands between a parenthesis and a brace. -/
  result : declaration.parameters.getLast?.map (·.shown) = some ')' ∧
    declaration.body.head?.map (·.shown) = some '{'
  /-- The body ends with a brace. -/
  body : declaration.body.getLast?.map (·.shown) = some '\x7d'

section

variable {form : EntryForm} {list : List Glyph} {declaration : Declaration}

theorem Declaration.IsRead.body_ne_nil (read : declaration.IsRead form) :
    declaration.body ≠ [] := by
  intro none
  have last := read.body
  rw [none] at last
  cases last

theorem Declaration.IsRead.glyphs_ne_nil (read : declaration.IsRead form) :
    declaration.glyphs ≠ [] :=
  List.append_ne_nil_of_right_ne_nil _ read.body_ne_nil

theorem isRead_of_readBody {lead name gap : List Glyph}
    (reads : readBody lead name gap list = .found declaration) (leads : form.Leads lead)
    (named : Glyph.shownText name = form.name) (ends : endsWord (gap ++ list) = true) :
    declaration.IsRead form := by
  obtain ⟨parameters, brace, more, opens, closed, _, isBrace, closedBody, rfl, rfl, same⟩ :=
    readBody_eq_found_iff.mp reads
  obtain ⟨split, last⟩ := takeClosed?_eq_some closed
  have filled : gap ++ parameters ≠ [] :=
    List.append_ne_nil_of_right_ne_nil _ (takeClosed?_ne_nil closed)
  obtain ⟨whole, closes⟩ := takeClosed?_eq_some closedBody
  refine ⟨leads, named, ⟨same ▸ filled, ?_⟩, ⟨?_, ?_⟩, closes⟩
  · rwa [split, ← List.append_assoc, endsWord_append filled, ← same] at ends
  · obtain ⟨paren, ending, isParen⟩ := Option.map_eq_some_iff.mp last
    rw [same, List.getLast?_append, ending]
    exact congrArg some isParen
  · cases body : declaration.body with
    | nil =>
      rw [body] at closes
      cases closes
    | cons first body =>
      rw [body] at whole
      obtain ⟨rfl, _⟩ := List.cons_eq_cons.mp whole
      exact congrArg some isBrace

/-- A declaration is put together from what it was read from. -/
theorem readDeclaration_eq_found (reads : readDeclaration form list = .found declaration) :
    list = declaration.glyphs ++ declaration.after ∧ declaration.IsRead form := by
  cases form with
  | function keyword phrase =>
    obtain ⟨word, after, name, rest, first, blank, second, ends, body⟩ :=
      readDeclaration_function_eq_found_iff.mp reads
    obtain ⟨rfl, isWord⟩ := takePhrase?_eq_some_iff.mp first
    obtain ⟨split, isName⟩ := takePhrase?_eq_some_iff.mp second
    constructor
    · rw [← append_of_readBody body, List.append_assoc, takeBlanks_append_eq, List.append_assoc,
        ← split, List.append_assoc, takeBlanks_append_eq]
    · refine isRead_of_readBody body ⟨word, _, rfl, isWord, takeBlanks_ne_nil blank, ?_⟩ isName ?_
      · exact fun glyph => isAsciiBlank_of_mem_takeBlanks
      · rwa [takeBlanks_append_eq]
  | constant phrase =>
    obtain ⟨name, rest, colons, after, first, ends, second, body⟩ :=
      readDeclaration_constant_eq_found_iff.mp reads
    obtain ⟨rfl, isName⟩ := takePhrase?_eq_some_iff.mp first
    obtain ⟨split, _⟩ := takePhrase?_eq_some_iff.mp second
    have rejoined : (takeBlanks rest).1 ++ colons ++ (takeBlanks after).1 ++ (takeBlanks after).2 =
        rest := by
      rw [List.append_assoc, takeBlanks_append_eq, List.append_assoc, ← split, takeBlanks_append_eq]
    constructor
    · rw [← append_of_readBody body, List.nil_append, List.append_assoc name, rejoined]
    · refine isRead_of_readBody body rfl isName ?_
      rwa [rejoined]

end

end Notebook.Source
