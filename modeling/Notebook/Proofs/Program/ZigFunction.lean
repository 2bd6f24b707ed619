import Mathlib.Data.List.Sublists
import Notebook.Program.Zig
import Notebook.Proofs.Source.TopLevel
import Notebook.Proofs.Text.Phrase

/-! # Functions of a Zig cell

A function starts a line where no bracket is open. Where it goes is decided from that line: to file
scope if the line ends with a brace, among the imports if there is an `@import` on it, and otherwise
among the statements. The lines behind it follow as long as a bracket is open, so a function stays
in one piece if each line break ahead of its body is within brackets.
-/

namespace Notebook.Zig

open Source

/-- What may stand in front of `fn`, in this order. -/
def modifierWords : List Text := ["pub", "export", "inline"]

/-- Words with a space behind each. -/
def spaced (modifiers : List Text) : Text :=
  modifiers.flatMap (· ++ [' '])

/-- A function at the top level: some modifiers, `fn`, a signature, and a body in braces. -/
structure FunctionIn (list : List Glyph) extends TopLevel list where
  modifiers : List Text
  /-- What stands between `fn` and the body. -/
  signature : Text
  /-- What stands between the braces. -/
  inside : Text
  ordered : modifiers.Sublist modifierWords
  shown : Glyph.shownText declared =
    spaced modifiers ++ ("fn " ++ signature) ++ '{' :: (inside ++ ['\x7d'])
  signatureNested : IsNested signature
  insideNested : IsNested inside

/-! ## Modifiers -/

theorem spaced_cases {modifiers : List Text} (ordered : modifiers.Sublist modifierWords) :
    spaced modifiers ∈ ([[], "pub ", "export ", "inline ", "pub export ", "pub inline ",
      "export inline ", "pub export inline "] : List Text) := by
  have table : ∀ modifiers ∈ modifierWords.sublists, spaced modifiers ∈ ([[], "pub ", "export ",
      "inline ", "pub export ", "pub inline ", "export inline ", "pub export inline "] :
        List Text) := by
    decide
  exact table modifiers (List.mem_sublists.mpr ordered)

/-- The classifier looks behind the modifiers. -/
theorem dropOne_spaced {modifiers : List Text} (ordered : modifiers.Sublist modifierWords)
    (rest : Text) :
    (((spaced modifiers ++ ("fn" ++ rest)).dropOne "pub ").dropOne "export ").dropOne "inline " =
      "fn" ++ rest := by
  have known := spaced_cases ordered
  simp only [List.mem_cons, List.not_mem_nil, or_false] at known
  rcases known with same | same | same | same | same | same | same | same
  all_goals
    rw [same]
    rfl

/-- The modifiers and `fn` are on one line, and the line starts with a letter. -/
theorem spaced_plain {modifiers : List Text} (ordered : modifiers.Sublist modifierWords) :
    (∀ c ∈ spaced modifiers ++ ("fn" : Text), c ≠ '\n' ∧ isNoBracket c = true) ∧
      ∃ c rest, spaced modifiers ++ ("fn" : Text) = c :: rest ∧ isBlank c = false := by
  have known := spaced_cases ordered
  simp only [List.mem_cons, List.not_mem_nil, or_false] at known
  have both : (spaced modifiers ++ ("fn" : Text)).all (fun c => c ≠ '\n' && isNoBracket c) = true ∧
      ∃ c rest, spaced modifiers ++ ("fn" : Text) = c :: rest ∧ isBlank c = false := by
    rcases known with same | same | same | same | same | same | same | same
    all_goals
      rw [same]
      exact ⟨rfl, _, _, rfl, rfl⟩
  refine ⟨fun c member => ?_, both.2⟩
  simpa using List.all_eq_true.mp both.1 c member

/-- Trimming a line that starts with modifiers and `fn` leaves them. -/
theorem trim_spaced {modifiers : List Text} (ordered : modifiers.Sublist modifierWords)
    {indent : Text} (blank : indent.isBlank = true) (rest : Text) :
    Text.trim (indent ++ (spaced modifiers ++ ("fn" ++ rest))) =
      spaced modifiers ++ ("fn" ++ rest.trimEnd) := by
  obtain ⟨_, c, word, isWord, visible⟩ := spaced_plain ordered
  have starts : Text.trimStart (spaced modifiers ++ ("fn" ++ rest)) =
      spaced modifiers ++ ("fn" ++ rest) := by
    rw [← List.append_assoc, isWord]
    exact List.dropWhile_cons_of_neg (by simp [visible])
  have ends := Text.trimEnd_append_of_visible (c := 'n') rfl (spaced modifiers ++ ['f']) rest
  rw [List.append_assoc, List.append_assoc] at ends
  rw [Text.trim, Text.trimStart_append blank, starts]
  exact ends

/-! ## The line that decides -/

theorem classify_function {modifiers : List Text} (ordered : modifiers.Sublist modifierWords)
    {rest : Text} (apart : ∀ c ∈ rest.head?, c = ' ') :
    let line := spaced modifiers ++ ("fn" ++ rest)
    (classify line ≠ .inner ↔ "@import" <:+: line ∨ line.getLast? = some '{') ∧
      (classify line = .imported ↔ "@import" <:+: line) := by
  intro line
  have declared : ((line.dropOne "pub ").dropOne "export ").dropOne "inline " = "fn" ++ rest :=
    dropOne_spaced ordered rest
  have noContainer : opensContainer ("fn" ++ rest) = false := rfl
  have isFunction : line.getLast? = some '{' → ("fn " : Text).isPrefixOf ("fn" ++ rest) = true := by
    intro ends
    cases rest with
    | nil =>
      have last : line.getLast? = some 'n' := by
        rw [List.getLast?_append]
        rfl
      rw [last] at ends
      cases ends
    | cons c rest =>
      rw [apart c rfl]
      rfl
  rw [← Text.hasPhrase_iff, classify]
  dsimp only
  rw [declared, noContainer]
  by_cases imports : line.hasPhrase "@import" = true
  · rw [if_pos imports]
    exact ⟨iff_of_true nofun (.inl imports), iff_of_true rfl imports⟩
  · rw [if_neg imports, if_neg Bool.false_ne_true]
    by_cases ends : line.getLast? = some '{'
    · rw [if_pos ⟨isFunction ends, ends⟩]
      exact ⟨iff_of_true nofun (.inr ends), iff_of_false nofun imports⟩
    · rw [if_neg fun both => ends both.2]
      exact ⟨iff_of_false (fun other => other rfl) (not_or.mpr ⟨imports, ends⟩),
        iff_of_false nofun imports⟩

namespace FunctionIn

variable {list : List Glyph} (function : FunctionIn list)

/-- What stands ahead of the body, masked. -/
def header : Text :=
  spaced function.modifiers ++ ("fn " ++ function.signature)

/-- Each line break ahead of the body is within brackets. -/
def IsWrapped : Prop :=
  ∀ before after, function.header = before ++ '\n' :: after → ¬IsNested before

/-! ## The first line -/

/-- The declaration starts with its modifiers and `fn`, and a space behind them. -/
theorem exists_start :
    ∃ start space rest, function.declared = start ++ space :: rest ∧
      Glyph.shownText start = spaced function.modifiers ++ ("fn" : Text) ∧ space.shown = ' ' ∧
      Glyph.shownText rest = function.signature ++ '{' :: (function.inside ++ ['\x7d']) := by
  have shown : function.declared.map Glyph.shown = (spaced function.modifiers ++ ("fn" : Text)) ++
      (' ' :: (function.signature ++ '{' :: (function.inside ++ ['\x7d']))) := by
    refine function.shown.trans ?_
    simp
  obtain ⟨start, more, split, isStart, isMore⟩ := List.map_eq_append_iff.mp shown
  obtain ⟨space, rest, rfl, isSpace, isRest⟩ := List.map_eq_cons_iff.mp isMore
  exact ⟨start, space, rest, split, isStart, isSpace, isRest⟩

/-- The first line, trimmed. -/
theorem leadLine_lines :
    ∃ rest : Text, (∀ c ∈ rest.head?, c = ' ') ∧
      leadLine function.lines = spaced function.modifiers ++ ("fn" ++ rest) := by
  obtain ⟨start, space, rest, split, isStart, isSpace, _⟩ := function.exists_start
  have onLine : ∀ glyph ∈ start ++ [space], glyph.shown ≠ '\n' := by
    intro glyph member
    rcases List.mem_append.mp member with member | member
    · exact ((spaced_plain function.ordered).1 _ (isStart ▸ List.mem_map_of_mem member)).1
    · rw [List.mem_singleton.mp member, isSpace]
      decide
  rw [List.append_cons] at split
  have first := function.exists_first split onLine
  generalize Glyph.shownText
    ((Glyph.lines (rest ++ (Glyph.lines function.later).headD [])).headD []) = behind at first
  have shown : Glyph.shownText (start ++ [space]) =
      (spaced function.modifiers ++ ("fn" : Text)) ++ [' '] := by
    rw [Glyph.shownText_append, isStart, ← isSpace]
    rfl
  rw [shown, List.append_assoc, List.append_assoc, List.singleton_append] at first
  refine ⟨Text.trimEnd (' ' :: behind), ?_, ?_⟩
  · intro c isFirst
    exact (Option.some_inj.mp (Text.mem_head?_of_trimEnd c isFirst)).symm
  · rw [leadLine, first, trim_spaced function.ordered function.isBlank_indent]

/-- Where the function goes is told by the end of its first line, unless there is an `@import` on
it. -/
theorem classify_leadLine :
    let line := leadLine function.lines
    (classify line ≠ .inner ↔ "@import" <:+: line ∨ line.getLast? = some '{') ∧
      (classify line = .imported ↔ "@import" <:+: line) := by
  obtain ⟨rest, apart, line⟩ := function.leadLine_lines
  rw [line]
  exact classify_function function.ordered apart

/-! ## Lines that stay together -/

theorem isNested_header : IsNested function.header := by
  have plain := (spaced_plain function.ordered).1
  have whole : function.header = (spaced function.modifiers ++ ("fn" : Text)) ++
      (' ' :: function.signature) := by
    simp [header]
  rw [whole]
  exact IsNested.append (opened?_of_noBracket (fun c member => (plain c member).2) [])
    function.signatureNested

/-- At each line break of a wrapped function a bracket is open. -/
theorem holdsTogether (wrapped : function.IsWrapped) : function.HoldsTogether := by
  intro before after breaks
  have shown : (function.header ++ '{' :: function.inside) ++ ['\x7d'] =
      before ++ '\n' :: after := by
    rw [← breaks, function.shown, header, List.append_assoc _ ('{' :: _)]
    rfl
  obtain ⟨more, shown, _⟩ := split_ahead (by decide) shown
  rcases List.append_eq_append_iff.mp shown with ⟨gap, ahead, behind⟩ | ⟨gap, ahead, behind⟩
  · -- The break is in the body.
    cases gap with
    | nil => cases List.head_eq_of_cons_eq behind
    | cons c gap =>
      rw [List.cons_append] at behind
      obtain ⟨rfl, within⟩ := List.cons_eq_cons.mp behind
      have insideNested := function.insideNested
      rw [within, IsNested, opened?_append, Option.bind_eq_some_iff] at insideNested
      obtain ⟨inner, gapReads, _⟩ := insideNested
      have reads : opened? [] before = some (inner ++ ['{']) := by
        rw [ahead, opened?_append, function.isNested_header, Option.bind_some, opened?_cons]
        exact opened?_below gapReads ['{']
      obtain ⟨innermost, opened, same⟩ := List.exists_cons_of_ne_nil
        (List.append_ne_nil_of_right_ne_nil inner (List.cons_ne_nil '{' []))
      exact ⟨innermost, opened, same ▸ reads⟩
  · -- The break is ahead of the body.
    cases gap with
    | nil => cases List.head_eq_of_cons_eq behind
    | cons c gap =>
      obtain ⟨rfl, _⟩ := List.cons_eq_cons.mp behind
      have headerNested := function.isNested_header
      rw [ahead, IsNested, opened?_append, Option.bind_eq_some_iff] at headerNested
      obtain ⟨opened, reads, _⟩ := headerNested
      cases opened with
      | nil => exact absurd reads (wrapped before gap ahead)
      | cons innermost opened => exact ⟨innermost, opened, reads⟩

end FunctionIn

section

variable {lexicon : Lexicon} {source : Text} (function : FunctionIn (glyphs lexicon source))

/-- A function starts with a letter and ends with its brace. -/
theorem FunctionIn.text_ends :
    (∃ c, function.text.head? = some c ∧ isBlank c = false) ∧
      function.text.getLast? = some '\x7d' := by
  have code : ∀ glyph ∈ function.declared, glyph.shown ≠ ' ' → glyph = Glyph.code glyph.shown :=
    fun glyph member => eq_code_of_shown
      (function.mem_glyphs (List.mem_append_right _ (List.mem_append_left _ member)))
  constructor
  · obtain ⟨start, space, rest, split, isStart, _⟩ := function.exists_start
    obtain ⟨_, c, word, isWord, visible⟩ := spaced_plain function.ordered
    rw [isWord] at isStart
    obtain ⟨first, more, rfl, isFirst, _⟩ := List.map_eq_cons_iff.mp isStart
    have apart : first.shown ≠ ' ' := by
      rw [isFirst]
      rintro rfl
      cases visible
    have same := code first (by rw [split]; simp) apart
    refine ⟨c, ?_, visible⟩
    rw [TopLevel.text, split, same, isFirst]
    rfl
  · have shown := function.shown
    rw [← List.cons_append, ← List.append_assoc] at shown
    obtain ⟨start, last, split, _, isLast⟩ := List.map_eq_append_iff.mp shown
    obtain ⟨brace, rfl, isBrace⟩ := List.map_eq_singleton_iff.mp isLast
    have same := code brace (by rw [split]; simp) (by rw [isBrace]; decide)
    rw [TopLevel.text, split, same, isBrace, Glyph.sourceText_append]
    exact List.getLast?_concat

end

end Notebook.Zig
