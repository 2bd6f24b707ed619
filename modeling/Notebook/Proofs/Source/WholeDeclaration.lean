import Notebook.Proofs.Source.Inert
import Notebook.Proofs.Source.Masking
import Notebook.Proofs.Text.Trim

/-! # Declarations as a whole

A text without quotes, slashes and backslashes is code from end to end, so the search for an entry
point reads the text itself. It takes the first brace behind the parameters for the start of the
body. A declaration between texts that do not have its name as a word is therefore found as a whole
if and only if no brace opens in its result; with a result such as `error{Foo}!void` it is cut
in two.
-/

namespace Notebook.Source

/-! ## Texts of code -/

/-- No comment and no literal opens with the character. -/
def isPlainChar (c : Char) : Bool :=
  c ∉ ['"', '\'', '\x60', '\\', '/']

section

variable {lexicon : Lexicon} {text : Text}

theorem isCode_of_plain (known : lexicon ∈ [Lexicon.rust, Lexicon.go, Lexicon.zig, Lexicon.jai])
    (plain : text.all isPlainChar = true) (previous : Option Char) :
    IsCode lexicon previous text := by
  have openings : ∀ opening ∈ lexicon.openings,
      (opening.head?.any fun c => !isPlainChar c) = true := by
    simp only [List.mem_cons, List.not_mem_nil, or_false] at known
    rcases known with rfl | rfl | rfl | rfl <;> decide
  have quotes : (lexicon.quotes.all fun c => !isPlainChar c) = true := by
    simp only [List.mem_cons, List.not_mem_nil, or_false] at known
    rcases known with rfl | rfl | rfl | rfl <;> rfl
  induction text generalizing previous with
  | nil => exact isCode_nil lexicon previous
  | cons c rest ih =>
    obtain ⟨here, behind⟩ := (Bool.and_eq_true ..).mp (List.all_cons.symm.trans plain)
    refine isCode_cons ((hiddenLength_eq_zero_iff (isRegular_of_mem known)).mpr ⟨?_, ?_, ?_, ?_⟩)
      (ih behind (some c))
    · intro opening isOpening opens
      have first := openings opening isOpening
      cases opening with
      | nil => cases first
      | cons d opening =>
        obtain ⟨rfl, _⟩ := List.cons_prefix_cons.mp opens
        simp [here] at first
    · intro _ _ _
      cases reads : Lexicon.rawLength? rest with
      | none => rfl
      | some length => cases List.all_eq_true.mp behind _ (doubleQuote_mem_of_rawLength? reads)
    · intro isQuote
      simpa [here] using List.all_eq_true.mp quotes c isQuote
    · rintro _ rfl
      cases here

end

/-! ## Words of a text -/

/-- The text has a word, with no character of an identifier next to it. -/
def HasWord (word text : Text) : Prop :=
  ∃ ahead behind : Text, text = ahead ++ (word ++ behind) ∧
    (ahead.getLast?.any isIdentifierChar) = false ∧ (behind.head?.any isIdentifierChar) = false

theorem not_hasWord {word text : Text} {c : Char} (member : c ∈ word) (absent : c ∉ text) :
    ¬HasWord word text := by
  rintro ⟨ahead, behind, rfl, _⟩
  exact absent (List.mem_append_right _ (List.mem_append_left _ member))

theorem not_isIdentifierChar_of_blank {c : Char} (blank : isAsciiBlank c = true) :
    isIdentifierChar c = false := by
  simp only [isAsciiBlank, Bool.or_eq_true, beq_iff_eq] at blank
  rcases blank with (((rfl | rfl) | rfl) | rfl) | rfl <;> decide

section

variable {keyword name : Text} {list : List Glyph}

/-- Glyphs with a character behind blanks start with a blank or with the character. -/
theorem any_head?_of_takeBlanks {c : Char}
    (behind : (takeBlanks list).2.head?.map (·.shown) = some c) :
    ((Glyph.shownText list).head?.any fun d => isAsciiBlank d || d = c) = true := by
  have whole := takeBlanks_append_eq list
  cases blanks : (takeBlanks list).1 with
  | nil =>
    rw [blanks, List.nil_append] at whole
    rw [whole] at behind
    rw [Glyph.shownText, List.head?_map, behind]
    simp
  | cons head others =>
    have isBlank := isAsciiBlank_of_mem_takeBlanks (blanks ▸ List.mem_cons_self ..)
    rw [← whole, blanks]
    simp [Glyph.shownText, isBlank]

/-- Where an attempt does not fail at once, the keyword is read, and the name behind blanks. -/
theorem exists_of_readDeclaration
    (starts : readDeclaration (.function keyword name) list ≠ .absent) :
    ∃ gap rest : Text, Glyph.shownText list = keyword ++ (gap ++ (name ++ rest)) ∧ gap ≠ [] ∧
      (∀ c ∈ gap, isAsciiBlank c = true) ∧
      (rest.head?.any fun c => isAsciiBlank c || c = '(') = true := by
  obtain ⟨word, after, label, rest, first, blank, second, ends⟩ :=
    (readDeclaration_function_cases keyword name list).resolve_left starts
  rw [readDeclaration_function_eq first blank second ends] at starts
  obtain ⟨rfl, isKeyword⟩ := takePhrase?_eq_some_iff.mp first
  obtain ⟨split, isName⟩ := takePhrase?_eq_some_iff.mp second
  refine ⟨Glyph.shownText (takeBlanks after).1, Glyph.shownText rest, ?_, ?_, ?_, ?_⟩
  · rw [← isKeyword, ← isName]
    conv_lhs => rw [← takeBlanks_append_eq after, split]
    simp only [Glyph.shownText, List.map_append]
  · exact fun none => takeBlanks_ne_nil blank (List.map_eq_nil_iff.mp none)
  · intro c shown
    obtain ⟨glyph, member, rfl⟩ := List.mem_map.mp shown
    exact isAsciiBlank_of_mem_takeBlanks member
  · have opens : (takeBlanks rest).2.head?.map (·.shown) = some '(' := by
      by_contra other
      exact starts (by rw [readBody, if_neg other])
    exact any_head?_of_takeBlanks opens

/-- In a keyword, blanks and a name, no line starts like the keyword again. -/
theorem isChain_heading {gap : Text} (named : (EntryForm.function keyword name).IsNamed)
    (differ : keyword.head? ≠ name.head?) (blank : ∀ c ∈ gap, isAsciiBlank c = true) :
    (keyword ++ (gap ++ name)).IsChain fun c next => c = '\n' → keyword.head? ≠ some next := by
  have word : ∀ {text : Text}, (∀ c ∈ text, isAsciiIdentifierChar c = true) →
      text.IsChain fun c next => c = '\n' → keyword.head? ≠ some next := by
    intro text chars
    refine (List.pairwise_of_forall_mem_list fun c member _ _ newline => ?_).isChain
    rw [newline] at member
    exact absurd (chars _ member) (by decide)
  have gapChain : gap.IsChain fun c next => c = '\n' → keyword.head? ≠ some next := by
    refine (List.pairwise_of_forall_mem_list ?_).isChain
    intro _ _ next member _ first
    have isChar : isAsciiIdentifierChar next = true :=
      named.opening.2 next (List.mem_of_mem_head? first)
    have isBlank := blank next member
    rw [isAsciiBlank_of_isChar isChar] at isBlank
    cases isBlank
  refine (word named.opening.2).append (gapChain.append (word named.name.2) ?_) ?_
  · intro _ _ next first _ same
    exact differ (same.trans first.symm)
  · intro c last _ _ newline
    have isChar : isAsciiIdentifierChar c = true :=
      named.opening.2 c (List.mem_of_getLast? last)
    rw [newline] at isChar
    cases isChar

/-- A heading that starts in a text ends in it, so the text has the name as a word. -/
theorem hasWord_of_heading {done todo behind gap rest : Text}
    (named : (EntryForm.function keyword name).IsNamed) (differ : keyword.head? ≠ name.head?)
    (split : todo ++ behind = keyword ++ (gap ++ (name ++ rest))) (filled : gap ≠ [])
    (blank : ∀ c ∈ gap, isAsciiBlank c = true)
    (ends : (rest.head?.any fun c => isAsciiBlank c || c = '(') = true)
    (apart : behind = [] ∨ todo.getLast? = some '\n' ∧ behind.head? = keyword.head?) :
    HasWord name (done ++ todo) := by
  obtain ⟨more, rfl, rest⟩ : ∃ more, todo = keyword ++ (gap ++ name) ++ more ∧
      rest = more ++ behind := by
    have heading : todo ++ behind = keyword ++ (gap ++ name) ++ rest := by
      rw [split]
      simp only [List.append_assoc]
    rcases List.append_eq_append_iff.mp heading with ⟨cut, whole, same⟩ | ⟨more, whole, same⟩
    · cases cut with
      | nil => exact ⟨[], by rw [whole, List.append_nil, List.append_nil], same.symm⟩
      | cons next cut =>
        have chain := isChain_heading named differ blank
        rw [whole, List.isChain_append] at chain
        rw [same] at apart
        rcases apart with none | ⟨newline, first⟩
        · cases none
        · exact absurd first.symm (chain.2.2 '\n' newline next rfl rfl)
    · exact ⟨more, whole, same⟩
  refine ⟨done ++ (keyword ++ gap), more, by simp only [List.append_assoc], ?_, ?_⟩
  · rw [← List.append_assoc, List.getLast?_append_of_ne_nil _ filled]
    rw [List.getLast?_eq_some_getLast filled, Option.any_some]
    exact not_isIdentifierChar_of_blank (blank _ (List.getLast_mem filled))
  · cases more with
    | nil => rfl
    | cons c more =>
      rw [rest] at ends
      rcases (Bool.or_eq_true ..).mp ends with isBlank | opens
      · exact not_isIdentifierChar_of_blank isBlank
      · rw [List.head?_cons, Option.any_some, of_decide_eq_true opens]
        decide

/-- In a text of code without the name as a word no declaration starts. -/
theorem readDeclaration_of_noWord {text : Text} {done todo rest : List Glyph} {glyph : Glyph}
    (named : (EntryForm.function keyword name).IsNamed) (differ : keyword.head? ≠ name.head?)
    (split : text.map Glyph.code = done ++ glyph :: todo) (noWord : ¬HasWord name text)
    (apart : rest = [] ∨ text.getLast? = some '\n' ∧
      (Glyph.shownText rest).head? = keyword.head?) :
    readDeclaration (.function keyword name) (glyph :: (todo ++ rest)) = .absent := by
  by_contra starts
  obtain ⟨gap, behind, shown, filled, blank, ends⟩ := exists_of_readDeclaration starts
  have parts : text = Glyph.shownText done ++ Glyph.shownText (glyph :: todo) := by
    rw [← shownText_code text, split, Glyph.shownText, List.map_append]
    rfl
  have whole : Glyph.shownText (glyph :: todo) ++ Glyph.shownText rest =
      keyword ++ (gap ++ (name ++ behind)) := by
    rw [← shown, Glyph.shownText, Glyph.shownText, ← List.map_append]
    rfl
  refine noWord (parts ▸ hasWord_of_heading named differ whole filled blank ends ?_)
  rcases apart with rfl | ⟨newline, first⟩
  · exact .inl rfl
  · have filled : Glyph.shownText (glyph :: todo) ≠ [] := List.cons_ne_nil _ _
    rw [parts, List.getLast?_append_of_ne_nil _ filled] at newline
    exact .inr ⟨newline, first⟩

end

/-! ## Brackets that close -/

/-- Where no brace opens, none closes. -/
theorem closingBrace_not_mem {opened inside : List Char} {text : Text}
    (reads : opened? opened text = some inside) (outside : '{' ∉ opened) (none : '{' ∉ text) :
    '\x7d' ∉ text := by
  induction text generalizing opened with
  | nil => exact List.not_mem_nil
  | cons c rest ih =>
    obtain ⟨here, behind⟩ := not_or.mp (mt List.mem_cons.mpr none)
    obtain ⟨next, stepped, reads⟩ := Option.bind_eq_some_iff.mp ((opened?_cons ..).symm.trans reads)
    have others : c ≠ '\x7d' ∧ '{' ∉ next := by
      obtain ⟨opens, rfl⟩ | ⟨_, _, innermost, rfl, fits⟩ | ⟨_, plain, rfl⟩ :=
        bracketStep?_cases stepped
      · refine ⟨?_, fun member => (List.mem_cons.mp member).elim here outside⟩
        rintro rfl
        exact absurd opens (by decide)
      · obtain ⟨notBrace, outside⟩ := not_or.mp (mt List.mem_cons.mpr outside)
        refine ⟨?_, outside⟩
        rintro rfl
        simp only [bracketPairs, List.mem_cons, Prod.mk.injEq, List.not_mem_nil, or_false] at fits
        rcases fits with ⟨rfl, _⟩ | ⟨_, same⟩ | ⟨_, same⟩
        · exact notBrace rfl
        · cases same
        · cases same
      · exact ⟨fun brace => plain (.inl brace), outside⟩
    intro member
    rcases List.mem_cons.mp member with same | member
    · exact others.1 same.symm
    · exact ih reads others.2 behind member

/-- A bracket that is closed in the end is closed behind what is properly nested. -/
theorem exists_closing {opening : Char} {opened inside : List Char} {text : Text}
    (reads : opened? (opening :: opened) text = some inside)
    (closed : inside.length ≤ opened.length) :
    ∃ body closing behind, text = body ++ closing :: behind ∧ IsNested body ∧
      (opening, closing) ∈ bracketPairs := by
  -- The induction is on what is still to be read; the brackets open within are kept beside it.
  suffices within : ∀ (todo done : Text) (inner : List Char), text = done ++ todo →
      opened? [] done = some inner → opened? (inner ++ opening :: opened) todo = some inside →
      ∃ body closing behind, text = body ++ closing :: behind ∧ IsNested body ∧
        (opening, closing) ∈ bracketPairs from within text [] [] rfl rfl reads
  intro todo
  induction todo with
  | nil =>
    intro done inner _ _ ends
    obtain rfl := Option.some_inj.mp ends
    rw [List.length_append, List.length_cons] at closed
    omega
  | cons c todo ih =>
    intro done inner split inDone further
    obtain ⟨next, stepped, further⟩ :=
      Option.bind_eq_some_iff.mp ((opened?_cons ..).symm.trans further)
    have more {deeper : List Char} (step : bracketStep? inner c = some deeper) :
        opened? [] (done ++ [c]) = some deeper := by
      rw [opened?_append, inDone, Option.bind_some, opened?_cons, step]
      rfl
    have split' : text = done ++ [c] ++ todo := by rw [split, List.append_assoc]; rfl
    obtain ⟨opens, rfl⟩ | ⟨notOpening, closes, innermost, same, fits⟩ | ⟨notOpening, plain, rfl⟩ :=
      bracketStep?_cases stepped
    · refine ih (done ++ [c]) (c :: inner) split' (more ?_) further
      rw [bracketStep?, if_pos opens]
    · cases inner with
      | nil =>
        obtain ⟨rfl, _⟩ := List.cons_eq_cons.mp same
        exact ⟨done, c, todo, split, inDone, fits⟩
      | cons first inner =>
        obtain ⟨rfl, rfl⟩ := List.cons_eq_cons.mp same
        refine ih (done ++ [c]) inner split' (more ?_) further
        rw [bracketStep?, if_neg notOpening, if_pos closes]
        exact if_pos fits
    · refine ih (done ++ [c]) inner split' (more ?_) further
      rw [bracketStep?, if_neg notOpening, if_neg plain]

/-! ## Sources with a declaration -/

/-- A source that declares `main`, cut at the brackets of the declaration. -/
structure MainSource where
  before : Text
  parameters : Text
  result : Text
  body : Text
  after : Text

namespace MainSource

/-- The declaration behind its name. -/
def tail (source : MainSource) : Text :=
  "(" ++ source.parameters ++ ")" ++ source.result ++ "\x7b" ++ source.body ++ "\x7d"

/-- The parts put together, with the keyword and the name. -/
def text (source : MainSource) (keyword : Text) : Text :=
  source.before ++ (keyword ++ " main" ++ source.tail ++ source.after)

/-- The whole declaration, from the keyword to the brace that closes the body. -/
def entry (source : MainSource) (keyword : Text) : EntryPoint :=
  ⟨source.before, keyword ++ " ", "main", source.tail, source.after, source.result.trim⟩

/-- The glyphs of the declaration, where all of it is code. -/
def declaration (source : MainSource) (keyword : Text) : Declaration where
  lead := (keyword ++ " ").map Glyph.code
  name := ("main" : Text).map Glyph.code
  parameters := ("(" ++ source.parameters ++ ")" : Text).map Glyph.code
  result := source.result.map Glyph.code
  body := ("\x7b" ++ source.body ++ "\x7d" : Text).map Glyph.code
  after := source.after.map Glyph.code

end MainSource

section

variable {source : MainSource} {keyword : Text}

/-- Brackets around a properly nested text of code are taken with it. -/
theorem takeClosed?_code {opening closing : Char} {text : Text}
    (pair : (opening, closing) ∈ bracketPairs) (nested : IsNested text) (behind : List Glyph) :
    takeClosed? opening closing 0
        (Glyph.code opening :: (text.map Glyph.code ++ Glyph.code closing :: behind)) =
      some ((opening :: text ++ [closing]).map Glyph.code, behind) := by
  rw [← shownText_code text] at nested
  rw [takeClosed?_brackets pair rfl rfl nested behind, List.map_append]
  rfl

theorem readDeclaration_main (keyword : Text) (parameters : IsNested source.parameters)
    (stays : ∀ c ∈ source.result, c ≠ '{' ∧ c ≠ ';' ∧ c ≠ '\x7d') (body : IsNested source.body) :
    readDeclaration (.function keyword "main")
        ((keyword ++ " main" ++ source.tail ++ source.after).map Glyph.code) =
      .found (source.declaration keyword) := by
  have split : (keyword ++ " main" ++ source.tail ++ source.after).map Glyph.code =
      keyword.map Glyph.code ++ (Glyph.code ' ' :: (("main" : Text).map Glyph.code ++
        (source.tail ++ source.after).map Glyph.code)) := by
    simp only [List.map_append, List.append_assoc]
    rfl
  have tail : (source.tail ++ source.after).map Glyph.code =
      Glyph.code '(' :: (source.parameters.map Glyph.code ++ Glyph.code ')' ::
        (source.result.map Glyph.code ++ Glyph.code '{' :: (source.body.map Glyph.code ++
          Glyph.code '\x7d' :: source.after.map Glyph.code))) := by
    simp only [MainSource.tail, List.map_append, List.append_assoc]
    rfl
  refine readDeclaration_function_eq_found_iff.mpr ⟨keyword.map Glyph.code, _,
    ("main" : Text).map Glyph.code, (source.tail ++ source.after).map Glyph.code,
    takePhrase?_eq_some_iff.mpr ⟨split, shownText_code keyword⟩, rfl, ?_, ?_, ?_⟩
  · exact takePhrase?_eq_some_iff.mpr ⟨rfl, rfl⟩
  · rw [tail]
    rfl
  · rw [tail]
    refine readBody_eq_found_iff.mpr ⟨(source.declaration keyword).parameters, Glyph.code '{',
      source.body.map Glyph.code ++ Glyph.code '\x7d' :: source.after.map Glyph.code, rfl, ?_, ?_,
      rfl, ?_, ?_, rfl, rfl⟩
    · exact takeClosed?_code (by decide) parameters _
    · intro glyph member
      obtain ⟨c, isResult, rfl⟩ := List.mem_map.mp member
      exact decide_eq_true (stays c isResult)
    · exact takeClosed?_code (by decide) body _
    · exact List.map_append

/-- The search takes the declaration, and goes on behind it. -/
theorem declarations?_main (starts : keyword.head? = some 'f')
    (named : (EntryForm.function keyword "main").IsNamed)
    (before : IsNested source.before)
    (ends : source.before = [] ∨ source.before.getLast? = some '\n')
    (noMain : ¬HasWord "main" source.before) (parameters : IsNested source.parameters)
    (stays : ∀ c ∈ source.result, c ≠ '{' ∧ c ≠ ';' ∧ c ≠ '\x7d') (body : IsNested source.body) :
    declarations? (.function keyword "main") 0 [] 0 ((source.text keyword).map Glyph.code) =
      (declarations? (.function keyword "main") 0
        ((source.declaration keyword).glyphs.reverse ++ (source.before.map Glyph.code).reverse) 0
          (source.after.map Glyph.code)).map (source.entry keyword :: ·) := by
  have reads := readDeclaration_main keyword parameters stays body
  have newline : ∀ c, source.before.getLast? = some c → c = '\n' := by
    intro c last
    rcases ends with none | ends
    · rw [none] at last
      cases last
    · exact Option.some_inj.mp (last.symm.trans ends)
  have level : depthOf (source.before.map Glyph.code) = 0 :=
    depthOf_eq_zero ((shownText_code source.before).symm ▸ before)
  have apart : endsInWord (source.before.map Glyph.code) = false :=
    endsInWord_of_ends ((shownText_code source.before).symm ▸ newline)
  have line : ∀ glyph ∈ (source.before.map Glyph.code).reverse.head?, glyph.shown = '\n' := by
    intro glyph last
    rw [List.head?_reverse, List.getLast?_map] at last
    obtain ⟨c, isLast, rfl⟩ := Option.map_eq_some_iff.mp last
    exact newline c isLast
  have entry : entryOf (.function keyword "main") (source.before.map Glyph.code).reverse
      (source.declaration keyword) = source.entry keyword := by
    rw [entryOf_function (takeVisibility_of_ends line)]
    simp only [MainSource.declaration, List.nil_append, List.reverse_reverse, ← List.map_append,
      sourceText_code]
    rw [MainSource.entry, MainSource.tail]
    simp only [List.append_assoc]
  have plain : (EntryForm.function keyword "main").StartsPlain := ⟨'f', starts, rfl⟩
  rw [MainSource.text, List.map_append, declarations?_pass, level, List.append_nil, Int.add_zero,
    declarations?_found plain (by rwa [List.reverse_reverse]) reads, entry]
  · rfl
  · intro done glyph todo split _ _
    refine readDeclaration_of_noWord named ?_ split noMain (.inr ⟨?_, ?_⟩)
    · rw [starts]
      decide
    · refine ends.resolve_left fun none => ?_
      rw [none] at split
      exact absurd split.symm (List.append_ne_nil_of_right_ne_nil _ (List.cons_ne_nil _ _))
    · rw [shownText_code, List.append_assoc, List.append_assoc, List.head?_append, starts]
      rfl

/-- The same source in other parts: the result ends at the first brace behind the parameters, and the
body where that brace is closed. -/
structure MainSource.IsRecutOf (cut source : MainSource) (keyword : Text) : Prop where
  text : cut.text keyword = source.text keyword
  before : cut.before = source.before
  parameters : cut.parameters = source.parameters
  result : '{' ∉ cut.result ∧ '\x7d' ∉ cut.result ∧ cut.result ⊆ source.result
  body : IsNested cut.body

theorem exists_cut (keyword : Text) (nested : IsNested source.result)
    (body : IsNested source.body) :
    ∃ cut : MainSource, cut.IsRecutOf source keyword ∧ ('{' ∉ source.result → cut = source) := by
  by_cases opens : '{' ∈ source.result
  · obtain ⟨ahead, rest, split, none⟩ := List.eq_append_cons_of_mem opens
    rw [split, IsNested, opened?_append, Option.bind_eq_some_iff] at nested
    obtain ⟨inside, before, behind⟩ := nested
    have behind : opened? ('{' :: inside) rest = some [] := behind
    obtain ⟨inner, closing, more, whole, isNested, fits⟩ :=
      exists_closing behind (Nat.zero_le _)
    obtain rfl : closing = '\x7d' := by simpa [bracketPairs] using fits
    have within : ahead ⊆ source.result := split ▸ List.subset_append_left ..
    refine ⟨⟨source.before, source.parameters, ahead, inner,
      more ++ "\x7b" ++ source.body ++ "\x7d" ++ source.after⟩, ⟨?_, rfl, rfl, ⟨none,
      closingBrace_not_mem before List.not_mem_nil none, within⟩, isNested⟩, absurd opens⟩
    simp only [MainSource.text, MainSource.tail, split, whole, List.append_assoc,
      List.cons_append]
    rfl
  · exact ⟨source, ⟨rfl, rfl, rfl, ⟨opens, closingBrace_not_mem nested List.not_mem_nil opens,
      List.Subset.refl _⟩, body⟩, fun _ => rfl⟩

end

/-! ## Finding the declaration -/

/-- Languages that declare `main` with a keyword. -/
def mainKeywords : List (Lexicon × Text) := [(.zig, "fn"), (.rust, "fn"), (.go, "func")]

namespace MainSource

/-- The parts that stand around the keyword, the name and the brackets. -/
def parts (source : MainSource) : List Text :=
  [source.before, source.parameters, source.result, source.body, source.after]

/-- The parts are code with brackets that are properly nested, the declaration is on lines of its
own, and nothing else has its name. -/
structure IsPlain (source : MainSource) : Prop where
  code : ∀ part ∈ source.parts, part.all isPlainChar = true
  nested : ∀ part ∈ source.parts, IsNested part
  result : ';' ∉ source.result
  before : source.before = [] ∨ source.before.getLast? = some '\n'
  after : source.after = [] ∨ source.after.head? = some '\n'
  named : ¬HasWord "main" source.before ∧ ¬HasWord "main" source.after

end MainSource

section

variable {lexicon : Lexicon} {keyword : Text} {source : MainSource}

theorem isNamed_of_mainKeywords (known : (lexicon, keyword) ∈ mainKeywords) :
    keyword.head? = some 'f' ∧ (EntryForm.function keyword "main").IsNamed := by
  simp only [mainKeywords, List.mem_cons, Prod.mk.injEq, List.not_mem_nil, or_false] at known
  rcases known with ⟨_, rfl⟩ | ⟨_, rfl⟩ | ⟨_, rfl⟩
  all_goals
    exact ⟨rfl, ⟨by decide, List.all_eq_true.mp rfl⟩, by decide, List.all_eq_true.mp rfl⟩

theorem glyphs_main (known : (lexicon, keyword) ∈ mainKeywords) (plain : source.IsPlain) :
    glyphs lexicon (source.text keyword) = (source.text keyword).map Glyph.code := by
  have isKnown : lexicon ∈ [Lexicon.rust, Lexicon.go, Lexicon.zig, Lexicon.jai] ∧
      keyword.all isPlainChar = true := by
    simp only [mainKeywords, List.mem_cons, Prod.mk.injEq, List.not_mem_nil, or_false] at known
    rcases known with ⟨rfl, rfl⟩ | ⟨rfl, rfl⟩ | ⟨rfl, rfl⟩
    all_goals exact ⟨by decide, rfl⟩
  have code := plain.code
  simp only [MainSource.parts, List.forall_mem_cons] at code
  obtain ⟨before, parameters, result, body, after, _⟩ := code
  refine (isCode_of_plain isKnown.1 ?_ none).glyphs
  simp only [MainSource.text, MainSource.tail, List.all_append, Bool.and_eq_true]
  exact ⟨before, ⟨⟨isKnown.2, rfl⟩, ⟨⟨⟨⟨⟨⟨rfl, parameters⟩, rfl⟩, result⟩, rfl⟩, body⟩, rfl⟩⟩,
    after⟩

/-- Behind the declaration nothing is found. -/
theorem declarations?_after (starts : keyword.head? = some 'f')
    (named : (EntryForm.function keyword "main").IsNamed) (noMain : ¬HasWord "main" source.after)
    (before : List Glyph) :
    declarations? (.function keyword "main") 0 before 0 (source.after.map Glyph.code) =
      some [] := by
  have differ : keyword.head? ≠ ("main" : Text).head? := by
    rw [starts]
    decide
  have passed : declarations? (.function keyword "main") 0 before 0
      (source.after.map Glyph.code ++ []) = _ :=
    declarations?_pass (fun done glyph todo split _ _ =>
      readDeclaration_of_noWord named differ split noMain (.inl rfl)) before
  rw [List.append_nil] at passed
  exact passed

/-- A declaration is found as a whole if and only if no brace opens in its result. Whatever is found
ends where the first brace behind the parameters is closed. -/
theorem entryPoint?_main_iff (known : (lexicon, keyword) ∈ mainKeywords)
    (plain : source.IsPlain) :
    (entryPoint? lexicon (.function keyword "main") (source.text keyword) =
        some (source.entry keyword) ↔ '{' ∉ source.result) ∧
      ∀ entry, entryPoint? lexicon (.function keyword "main") (source.text keyword) = some entry →
        ∃ cut : MainSource, cut.IsRecutOf source keyword ∧ entry = cut.entry keyword := by
  obtain ⟨starts, named⟩ := isNamed_of_mainKeywords known
  have nested := plain.nested
  simp only [MainSource.parts, List.forall_mem_cons] at nested
  obtain ⟨before, parameters, result, body, _⟩ := nested
  obtain ⟨cut, isCut, same⟩ := exists_cut keyword result body
  have stays : ∀ c ∈ cut.result, c ≠ '{' ∧ c ≠ ';' ∧ c ≠ '\x7d' := by
    obtain ⟨noOpening, noClosing, within⟩ := isCut.result
    refine fun c member => ⟨?_, ?_, ?_⟩
    · exact fun isOpening => noOpening (isOpening ▸ member)
    · exact fun isSemicolon => plain.result (isSemicolon ▸ within member)
    · exact fun isClosing => noClosing (isClosing ▸ member)
  have searched := declarations?_main starts named (isCut.before ▸ before)
    (isCut.before ▸ plain.before) (isCut.before ▸ plain.named.1) (isCut.parameters ▸ parameters)
    stays isCut.body
  rw [isCut.text, ← glyphs_main known plain] at searched
  have finds : ∀ entry, entryPoint? lexicon (.function keyword "main") (source.text keyword) =
      some entry → entry = cut.entry keyword := by
    intro entry found
    rw [declarations?_of_entryPoint? found] at searched
    obtain ⟨_, _, whole⟩ := Option.map_eq_some_iff.mp searched.symm
    exact (List.cons_eq_cons.mp whole).1.symm
  refine ⟨⟨fun found opens => ?_, fun none => ?_⟩,
    fun entry found => ⟨cut, isCut, finds entry found⟩⟩
  · have returns : source.result.trim = cut.result.trim :=
      congrArg EntryPoint.returns (finds _ found)
    have visible := Text.mem_trim (by decide) opens
    rw [returns] at visible
    exact isCut.result.1 ((Text.trim_sublist _).subset visible)
  · rw [same none, declarations?_after starts named plain.named.2] at searched
    rw [entryPoint?, searched]
    rfl

/-- Brackets in every part but the result. -/
theorem entryPoint?_main_iff_rust :
    (Lexicon.rust, ("fn" : Text)) ∈ mainKeywords ∧
      MainSource.IsPlain
        ⟨"struct S \x7ba: [u8; 2]\x7d\n", "(), x: [u8; 2]", " -> Vec<u8> ", "f(\x7b1\x7d)", "\n"⟩ ∧
      entryPoint? .rust (.function "fn" "main")
          "struct S \x7ba: [u8; 2]\x7d\nfn main((), x: [u8; 2]) -> Vec<u8> \x7bf(\x7b1\x7d)\x7d\n" =
        some ⟨"struct S \x7ba: [u8; 2]\x7d\n", "fn ", "main",
          "((), x: [u8; 2]) -> Vec<u8> \x7bf(\x7b1\x7d)\x7d", "\n", "-> Vec<u8>"⟩ := by
  have known : (Lexicon.rust, ("fn" : Text)) ∈ mainKeywords := by decide
  have plain : MainSource.IsPlain
      ⟨"struct S \x7ba: [u8; 2]\x7d\n", "(), x: [u8; 2]", " -> Vec<u8> ", "f(\x7b1\x7d)", "\n"⟩ := by
    refine ⟨by decide, by decide, by decide, .inr rfl, .inr rfl, ?_, ?_⟩
    · exact not_hasWord (c := 'm') (by decide) (by decide)
    · exact not_hasWord (c := 'm') (by decide) (by decide)
  exact ⟨known, plain, (entryPoint?_main_iff known plain).1.mpr (by decide)⟩

/-- With an error set in the result the set is taken for the body, and the rest of the declaration
is left behind. -/
theorem entryPoint?_main_errorSet :
    (Lexicon.zig, ("fn" : Text)) ∈ mainKeywords ∧
      MainSource.IsPlain ⟨"", "", " error\x7bFoo\x7d!void ", "\n", "\n"⟩ ∧
      MainSource.text ⟨"", "", " error\x7bFoo\x7d!void ", "\n", "\n"⟩ "fn" =
        "fn main() error\x7bFoo\x7d!void \x7b\n\x7d\n" ∧
      entryPoint? .zig (.function "fn" "main")
          "fn main() error\x7bFoo\x7d!void \x7b\n\x7d\n" =
        some ⟨"", "fn ", "main", "() error\x7bFoo\x7d", "!void \x7b\n\x7d\n", "error"⟩ ∧
      entryPoint? .zig (.function "fn" "main")
          "fn main() error\x7bFoo\x7d!void \x7b\n\x7d\n" ≠
        some (MainSource.entry ⟨"", "", " error\x7bFoo\x7d!void ", "\n", "\n"⟩ "fn") := by
  have found : entryPoint? .zig (.function "fn" "main")
      "fn main() error\x7bFoo\x7d!void \x7b\n\x7d\n" =
        some ⟨"", "fn ", "main", "() error\x7bFoo\x7d", "!void \x7b\n\x7d\n", "error"⟩ := rfl
  have plain : MainSource.IsPlain ⟨"", "", " error\x7bFoo\x7d!void ", "\n", "\n"⟩ := by
    refine ⟨by decide, by decide, by decide, .inl rfl, .inr rfl, ?_, ?_⟩
    · exact not_hasWord (c := 'm') (by decide) List.not_mem_nil
    · exact not_hasWord (c := 'm') (by decide) (by decide)
  exact ⟨by decide, plain, rfl, found, fun whole => absurd (found.symm.trans whole) (by decide)⟩

end

end Notebook.Source
