import Notebook.Proofs.Program.Markers
import Notebook.Proofs.Source.Inert

/-! # Entry points of programs

Cells may declare the entry point of a program themselves. What they declare is spliced out under a
name of its own, so that the program is left with one entry point, which it has been given. In Rust
this does not reach the cells that are kept at module scope.
-/

namespace Notebook.Program

open Source

section

variable {family : Family} {lexicon : Lexicon} {form : EntryForm}

/-! ## Names -/

theorem readsWords_of_lexicon? (hasLexicon : lexicon? family = some lexicon) :
    lexicon.ReadsWords := by
  cases family with
  | python | javascript | typescript | shell kind => contradiction
  | rust | go | zig | jai =>
    obtain rfl := Option.some_inj.mp hasLexicon
    exact readsWords_of_openers rfl (by decide) (by decide) rfl

theorem isPlain_of_entryForm? (hasForm : entryForm? family = some form) : form.IsPlain := by
  cases family with
  | python | javascript | typescript | shell kind => contradiction
  | rust | go | zig | jai =>
    obtain rfl := Option.some_inj.mp hasForm
    refine ⟨⟨by decide, by decide⟩, ⟨by decide, by decide⟩, ?_⟩
    rintro _ ⟨⟩
    decide

theorem all_ofNat (index : Nat) :
    (Text.ofNat index).all (fun c => isAsciiIdentifierChar c && c ≠ 'r') = true := by
  rw [List.all_eq_true]
  intro c member
  rw [Text.ofNat, Nat.toList_repr] at member
  have digit : c.isDigit = true := Nat.isDigit_of_mem_toDigits (by decide) (by decide) member
  have other : c ≠ 'r' := by
    rintro rfl
    cases digit
  simp [isAsciiIdentifierChar, Char.isAlphanum, digit, other]

theorem isWord_cellMain (hasLexicon : lexicon? family = some lexicon) (index : Nat) :
    IsWord (cellMain family index) := by
  have numbered : ∀ {name : Text}, name ≠ [] →
      name.all (fun c => isAsciiIdentifierChar c && c ≠ 'r') = true →
      IsWord (name ++ Text.ofNat index) := by
    intro name filled chars
    refine ⟨List.append_ne_nil_of_left_ne_nil filled _, ?_⟩
    rw [List.all_append, chars, all_ofNat]
    rfl
  cases family with
  | python | javascript | typescript | shell kind => contradiction
  | rust | go | zig | jai => exact numbered (by decide) (by decide)

theorem isFresh_cellMain {classify : Text → Placement} (hasLexicon : lexicon? family = some lexicon)
    (hasForm : entryForm? family = some form) (splits : classifier? family = some classify)
    (index : Nat) : IsFresh form (cellMain family index) := by
  refine ⟨isWord_cellMain hasLexicon index, ?_, ?_⟩
  · cases family with
    | rust | python | javascript | typescript | shell kind => contradiction
    | go | zig | jai =>
      obtain rfl := Option.some_inj.mp hasForm
      exact fun _ => rfl
  · cases family with
    | rust | python | javascript | typescript | shell kind => contradiction
    | go | zig =>
      obtain rfl := Option.some_inj.mp hasForm
      rintro _ _ ⟨⟩
      exact (by decide : some 'm' ≠ some 'f')
    | jai =>
      obtain rfl := Option.some_inj.mp hasForm
      exact nofun

/-! ## Calls -/

/-- A word between sound texts. -/
theorem sound_word {before word after : Text} (reads : lexicon.ReadsWords)
    (first : Sound lexicon before) (isWord : IsWord word) (second : Sound lexicon after)
    (plain : after.head? ≠ some 'r') (filled : after ≠ []) :
    Sound lexicon (before ++ (word ++ after)) := by
  have word_after : ∀ rest, glyphs lexicon (word ++ (after ++ rest)) =
      word.map Glyph.code ++ (glyphs lexicon after ++ glyphs lexicon rest) := by
    intro rest
    rw [glyphs_word_append reads isWord (by rwa [List.head?_append_of_ne_nil _ filled]),
      second.isSealed.glyphs_append]
  have own := word_after []
  rw [List.append_nil, show glyphs lexicon [] = [] from rfl, List.append_nil] at own
  refine first.append ⟨sealed_of_glyphs fun rest => ?_, ?_⟩
  · rw [List.append_assoc, word_after, own, List.append_assoc]
  · rw [mask, own, Glyph.shownText, List.map_append, List.map_map,
      show Glyph.shown ∘ Glyph.code = id from rfl, List.map_id]
    exact (isNested_word isWord).append second.isNested

theorem sound_call (hasLexicon : lexicon? family = some lexicon) (index : Nat) (returns : Text) :
    Sound lexicon (call family index returns) := by
  have reads := readsWords_of_lexicon? hasLexicon
  have isWord := isWord_cellMain hasLexicon index
  cases family with
  | python | javascript | typescript | shell kind => contradiction
  | rust =>
    obtain rfl := Option.some_inj.mp hasLexicon
    change Sound Lexicon.rust (Rust.cellCall index returns)
    rw [Rust.cellCall]
    split
    · rw [List.append_assoc]
      refine sound_word reads ⟨sealed_of_shade ' ' rfl fun _ => rfl, rfl⟩ isWord
        ⟨sealed_of_shade '\n' rfl fun _ => rfl, rfl⟩ (by decide) (by decide)
    · rw [List.append_assoc]
      refine sound_word reads ⟨sealed_of_shade ' ' rfl fun _ => rfl, rfl⟩ isWord
        ⟨sealed_of_shade '\n' rfl fun _ => rfl, rfl⟩ (by decide) (by decide)
  | go =>
    obtain rfl := Option.some_inj.mp hasLexicon
    have tab : Sound Lexicon.go ['\t'] := ⟨sealed_of_shade '\t' rfl fun _ => rfl, rfl⟩
    exact sound_word reads tab isWord
      ⟨sealed_of_shade '\n' rfl fun _ => rfl, rfl⟩ (by decide) (by decide)
  | zig =>
    obtain rfl := Option.some_inj.mp hasLexicon
    change Sound Lexicon.zig (Zig.cellCall index returns)
    rw [Zig.cellCall, List.append_assoc]
    split
    · exact sound_word reads ⟨sealed_of_shade ' ' rfl fun _ => rfl, rfl⟩ isWord
        ⟨sealed_of_shade '\n' rfl fun _ => rfl, rfl⟩ (by decide) (by decide)
    · exact sound_word reads ⟨sealed_of_shade ' ' rfl fun _ => rfl, rfl⟩ isWord
        ⟨sealed_of_shade '\n' rfl fun _ => rfl, rfl⟩ (by decide) (by decide)
  | jai =>
    obtain rfl := Option.some_inj.mp hasLexicon
    change Sound Lexicon.jai ("    " ++ cellMain .jai index ++ "();\n")
    rw [List.append_assoc]
    exact sound_word reads ⟨sealed_of_shade ' ' rfl fun _ => rfl, rfl⟩ isWord
      ⟨sealed_of_shade '\n' rfl fun _ => rfl, rfl⟩ (by decide) (by decide)

/-! ## Cells that can be spliced -/

/-- The entry point is the only one of its cell: neither beside it nor in its tail does another
declaration start, whatever follows. -/
structure IsLone (lexicon : Lexicon) (form : EntryForm) (entry : EntryPoint) : Prop where
  before : Undeclaring form (glyphs lexicon entry.before)
  tail : Undeclaring form (glyphs lexicon entry.tail)
  after : Undeclaring form (glyphs lexicon (entry.after ++ ['\n']))

/-- The cell is lexically closed, its brackets are properly nested, and if no entry point is found
in it, it declares none; an entry point that is spliced can be taken out of the cell. What stays
inside a block may declare what it likes. -/
structure IsFair (family : Family) (lexicon : Lexicon) (form : EntryForm)
    (planned : PlannedEntry) : Prop where
  closed : Closed lexicon planned.entry.content
  nested : IsNested (mask lexicon planned.entry.content)
  plain : entryPoint? lexicon form planned.entry.content = none →
    (family = .rust → planned.role = .global) →
      Undeclaring form (glyphs lexicon (planned.entry.content ++ ['\n']))
  detachable : ∀ entry, spliced? family planned.role planned.entry.content = some entry →
    IsDetachable lexicon entry
  lone : ∀ entry, spliced? family planned.role planned.entry.content = some entry →
    family ≠ .rust → IsLone lexicon form entry
  /-- Splitting tears no comment, no literal and no declaration apart. -/
  cuts : ∀ classify ∈ classifier? family,
    CutsInto (fun before => Sealed lexicon before ∧ Undeclaring form (glyphs lexicon before))
      lexicon classify (routedText family planned)
  /-- Imports are collected one by one, so each has to stand on its own. -/
  imports : ∀ text ∈ (contribution family planned).imports,
    Closed lexicon text ∧ IsNested (mask lexicon text) ∧
      (family ≠ .go → Undeclaring form (glyphs lexicon (text ++ ['\n'])))

theorem glyphs_newline (hasLexicon : lexicon? family = some lexicon) :
    glyphs lexicon ['\n'] = [Glyph.code '\n'] := by
  cases family with
  | python | javascript | typescript | shell kind => contradiction
  | rust | go | zig | jai =>
    obtain rfl := Option.some_inj.mp hasLexicon
    rfl

theorem mask_newline (hasLexicon : lexicon? family = some lexicon) (rest : Text) :
    mask lexicon ('\n' :: rest) = '\n' :: mask lexicon rest := by
  have newline := (sound_newline hasLexicon).isSealed rest
  rw [mask, mask, glyphs_newline hasLexicon] at newline
  exact newline

/-- Nothing hides a line behind a sound text. -/
theorem closed_of_sound {text : Text} (hasLexicon : lexicon? family = some lexicon)
    (sound : Sound lexicon text) : Closed lexicon text := by
  intro after
  rw [sound.isSealed, mask_newline hasLexicon]

theorem undeclaring_newline (hasLexicon : lexicon? family = some lexicon)
    (hasForm : entryForm? family = some form) : Undeclaring form (glyphs lexicon ['\n']) := by
  cases family with
  | python | javascript | typescript | shell kind => contradiction
  | rust | go | zig | jai =>
    obtain rfl := Option.some_inj.mp hasLexicon
    obtain rfl := Option.some_inj.mp hasForm
    exact undeclaring_of_avoids rfl rfl rfl

/-- A family with a classifier splices each entry point that is found. -/
theorem spliced?_of_classifier {classify : Text → Placement} {planned : PlannedEntry}
    (hasLexicon : lexicon? family = some lexicon) (hasForm : entryForm? family = some form)
    (splits : classifier? family = some classify) (contributes : planned.role.contributes = true) :
    spliced? family planned.role planned.entry.content =
      entryPoint? lexicon form planned.entry.content := by
  cases family with
  | rust | python | javascript | typescript | shell kind => contradiction
  | go | zig | jai =>
    obtain rfl := Option.some_inj.mp hasLexicon
    obtain rfl := Option.some_inj.mp hasForm
    exact if_pos contributes

/-- What is left of a cell can stand beside its entry point under another name. -/
structure SplicesWell (lexicon : Lexicon) (entry : EntryPoint) (word : Text) : Prop where
  closed : Closed lexicon entry.remainder
  nested : IsNested (mask lexicon entry.remainder)
  renamed : Sound lexicon (entry.renamed word)

theorem SplicesWell.moved {entry : EntryPoint} {word : Text}
    (splices : SplicesWell lexicon entry word) :
    Sound lexicon (entry.remainder ++ '\n' :: entry.renamed word) := by
  have whole : entry.remainder ++ '\n' :: entry.renamed word =
      entry.remainder ++ ['\n'] ++ entry.renamed word := by
    rw [List.append_assoc]
    rfl
  rw [whole]
  exact (splices.closed.sound splices.nested).append splices.renamed

theorem splicesWell {source : Text} {entry : EntryPoint}
    (hasLexicon : lexicon? family = some lexicon) (hasForm : entryForm? family = some form)
    (closed : Closed lexicon source) (nested : IsNested (mask lexicon source))
    (found : entryPoint? lexicon form source = some entry)
    (detachable : IsDetachable lexicon entry) (index : Nat) :
    SplicesWell lexicon entry (cellMain family index) := by
  obtain ⟨parts⟩ := exists_parts found
  have plain := isPlain_of_entryForm? hasForm
  have reads := readsWords_of_lexicon? hasLexicon
  obtain ⟨_, remainderClosed, remainderNested⟩ :=
    parts.remainder plain reads detachable closed nested
  exact ⟨remainderClosed, remainderNested,
    parts.sound_renamed plain reads detachable nested (isWord_cellMain hasLexicon index)⟩

section

variable {classify : Text → Placement} {planned : PlannedEntry}

/-- What is split of a cell, and what is kept whole. -/
theorem routedText_procedure (hasLexicon : lexicon? family = some lexicon)
    (hasForm : entryForm? family = some form) (splits : classifier? family = some classify)
    (contributes : planned.role.contributes = true) (fair : IsFair family lexicon form planned) :
    Closed lexicon (routedText family planned) ∧
      IsNested (mask lexicon (routedText family planned)) ∧
      Undeclaring form (glyphs lexicon (routedText family planned ++ ['\n'])) ∧
      IsInert lexicon form (procedure family planned) ∧
      Sound lexicon (splicedCall family planned) := by
  have same := spliced?_of_classifier hasLexicon hasForm splits contributes
  have notRust : family ≠ .rust := by
    rintro rfl
    cases splits
  rw [routedText, procedure, splicedCall]
  cases spliced : spliced? family planned.role planned.entry.content with
  | none =>
    refine ⟨fair.closed, fair.nested, ?_, isInert_nil, sound_nil⟩
    exact fair.plain (same.symm.trans spliced) fun isRust => absurd isRust notRust
  | some entry =>
    have found := same.symm.trans spliced
    have detachable := fair.detachable entry spliced
    have lone := fair.lone entry spliced notRust
    have splices := splicesWell hasLexicon hasForm fair.closed fair.nested found detachable
      planned.entry.index
    obtain ⟨parts⟩ := exists_parts found
    have undeclaring := parts.undeclaring_renamed (isPlain_of_entryForm? hasForm)
      (readsWords_of_lexicon? hasLexicon) detachable
      (isFresh_cellMain hasLexicon hasForm splits planned.entry.index) lone.tail
    have rest : Undeclaring form (glyphs lexicon (entry.remainder ++ ['\n'])) := by
      rw [EntryPoint.remainder, List.append_assoc, detachable.before.glyphs_append]
      exact lone.before.append lone.after
    have line : Undeclaring form
        (glyphs lexicon (entry.renamed (cellMain family planned.entry.index) ++ ['\n'])) := by
      rw [splices.renamed.isSealed.glyphs_append]
      exact undeclaring.append (undeclaring_newline hasLexicon hasForm)
    dsimp only
    split
    next =>
      refine ⟨splices.closed, splices.nested, rest, ?_, sound_call hasLexicon _ _⟩
      exact isInert_line (splices.renamed.append (sound_newline hasLexicon)) line
    next =>
      refine ⟨closed_of_sound hasLexicon splices.moved, splices.moved.isNested, ?_, isInert_nil,
        sound_call hasLexicon _ _⟩
      have whole : entry.remainder ++ '\n' :: entry.renamed (cellMain family planned.entry.index) ++
          ['\n'] = entry.remainder ++ ['\n'] ++
            (entry.renamed (cellMain family planned.entry.index) ++ ['\n']) := by
        simp only [List.append_assoc, List.cons_append, List.nil_append]
      rw [whole, splices.closed.sealed.glyphs_append]
      exact rest.append line

/-- What a cell that is split adds. -/
theorem contribution_of_fair (hasLexicon : lexicon? family = some lexicon)
    (hasForm : entryForm? family = some form) (splits : classifier? family = some classify)
    (contributes : planned.role.contributes = true) (fair : IsFair family lexicon form planned) :
    IsInert lexicon form (contribution family planned).outer ∧
      Sound lexicon (contribution family planned).body := by
  obtain ⟨closed, nested, undeclaring, procedure, call⟩ :=
    routedText_procedure hasLexicon hasForm splits contributes fair
  have cuts := fair.cuts classify splits
  have outer : IsInert lexicon form (route lexicon classify (routedText family planned)).outer :=
    isInert_part closed nested undeclaring cuts .outer
  have inner : IsInert lexicon form (route lexicon classify (routedText family planned)).inner :=
    isInert_part closed nested undeclaring cuts .inner
  obtain ⟨isOuter, isBody⟩ | ⟨isOuter, isBody⟩ :=
    contribution_of_routed hasLexicon splits contributes
  · rw [isOuter, isBody]
    exact ⟨procedure.append outer, inner.sound.append call⟩
  · rw [isOuter, isBody]
    exact ⟨procedure.append (outer.append inner), call⟩

end

variable {planned : PlannedEntry}

/-- A Rust cell that runs is kept whole, with its entry point renamed and called. -/
theorem sound_cellBody {index : Nat} {content : Text} (closed : Closed Lexicon.rust content)
    (nested : IsNested (mask Lexicon.rust content))
    (detachable : ∀ entry, entryPoint? Lexicon.rust Rust.entryForm content = some entry →
      IsDetachable Lexicon.rust entry) :
    Sound Lexicon.rust (Rust.cellBody index content) := by
  rw [Rust.cellBody]
  split
  next entry found =>
    have hasLexicon : lexicon? .rust = some .rust := rfl
    have hasForm : entryForm? .rust = some Rust.entryForm := rfl
    have splices : SplicesWell Lexicon.rust entry (Rust.cellMain index) :=
      splicesWell hasLexicon hasForm closed nested found (detachable entry found) index
    have newline : Sound Lexicon.rust ['\n'] := sound_newline hasLexicon
    have call : Sound Lexicon.rust (Rust.cellCall index entry.returns) :=
      sound_call hasLexicon index entry.returns
    exact splices.moved.append (newline.append call)
  next => exact closed.sound nested

theorem isSound_of_fair (hasLexicon : lexicon? family = some lexicon)
    (hasForm : entryForm? family = some form)
    (fair : planned.role.contributes = true → IsFair family lexicon form planned) :
    IsSound lexicon (contribution family planned) := by
  cases contributes : planned.role.contributes with
  | false =>
    rw [contribution_of_left_out family contributes]
    exact ⟨fun _ member => absurd member List.not_mem_nil, sound_nil, sound_nil⟩
  | true =>
    have fair := fair contributes
    have lines : ∀ text ∈ (contribution family planned).imports, Sound lexicon (text ++ ['\n']) :=
      fun text member => (fair.imports text member).1.sound (fair.imports text member).2.1
    cases splits : classifier? family with
    | some classify =>
      obtain ⟨outer, body⟩ := contribution_of_fair hasLexicon hasForm splits contributes fair
      exact ⟨lines, outer.sound, body⟩
    | none =>
      cases family with
      | go | zig | jai | python | javascript | typescript | shell kind => contradiction
      | rust =>
        obtain rfl := Option.some_inj.mp hasLexicon
        obtain rfl := Option.some_inj.mp hasForm
        obtain ⟨entry, role, isCurrent⟩ := planned
        cases role with
        | dropped | skipped => contradiction
        | global => exact ⟨lines, fair.closed.sound fair.nested, sound_nil⟩
        | body => exact ⟨lines, sound_nil, sound_cellBody fair.closed fair.nested fair.detachable⟩

/-- What a cell leaves at module scope declares no entry point, except for what a Rust cell at
module scope declares itself. -/
theorem isInert_outer (hasLexicon : lexicon? family = some lexicon)
    (hasForm : entryForm? family = some form)
    (fair : planned.role.contributes = true → IsFair family lexicon form planned)
    (keeps : family = .rust → planned.role = .global →
      entryPoint? lexicon form planned.entry.content = none) :
    IsInert lexicon form (contribution family planned).outer := by
  cases contributes : planned.role.contributes with
  | false =>
    rw [contribution_of_left_out family contributes]
    exact isInert_nil
  | true =>
    have fair := fair contributes
    cases splits : classifier? family with
    | some classify => exact (contribution_of_fair hasLexicon hasForm splits contributes fair).1
    | none =>
      cases family with
      | go | zig | jai | python | javascript | typescript | shell kind => contradiction
      | rust =>
        obtain ⟨entry, role, isCurrent⟩ := planned
        cases role with
        | dropped | skipped => contradiction
        | body => exact isInert_nil
        | global =>
          exact isInert_line (fair.closed.sound fair.nested)
            (fair.plain (keeps rfl rfl) fun _ => rfl)

/-- An import outside of Go stands at module scope as it is. -/
theorem isInert_import {text : Text} (notGo : family ≠ .go)
    (fair : planned.role.contributes = true → IsFair family lexicon form planned)
    (member : text ∈ (contribution family planned).imports) :
    IsInert lexicon form (text ++ ['\n']) := by
  cases contributes : planned.role.contributes with
  | false =>
    rw [contribution_of_left_out family contributes] at member
    exact absurd member List.not_mem_nil
  | true =>
    obtain ⟨closed, nested, undeclaring⟩ := (fair contributes).imports text member
    exact isInert_line (closed.sound nested) (undeclaring notGo)

/-! ## Module scope -/

theorem isInert_newline (hasLexicon : lexicon? family = some lexicon)
    (hasForm : entryForm? family = some form) : IsInert lexicon form ['\n'] :=
  have newline : Undeclaring form (glyphs lexicon ([] ++ ['\n'])) :=
    undeclaring_newline hasLexicon hasForm
  isInert_line (sound_newline hasLexicon) newline

theorem isInert_importLines {contributions : List Contribution} (isThere : List Text → Bool)
    (standard : Text) (absent : isThere [] = false) (newline : IsInert lexicon form ['\n'])
    (standardInert : IsInert lexicon form (standard ++ ['\n']))
    (inert : ∀ contribution ∈ contributions, ∀ text ∈ contribution.imports,
      IsInert lexicon form (text ++ ['\n'])) :
    let imports := Contribution.allImports [] contributions
    IsInert lexicon form
      (Text.ofPieces (if isThere imports then imports else standard :: imports) ++ "\n\n") := by
  intro imports
  obtain ⟨lines, written, each⟩ := exists_importLines contributions isThere standard absent
  rw [written]
  refine (isInert_flatMap ?_).append newline
  intro text member
  rcases each text member with rfl | ⟨contribution, isOne, imported⟩
  · exact standardInert
  · exact inert contribution isOne text imported

/-- The parentheses around the imports of a Go program hide what they declare. -/
theorem isInert_importGroup {contributions : List Contribution}
    (sound : ∀ contribution ∈ contributions, IsSound Lexicon.go contribution) :
    IsInert Lexicon.go Go.entryForm (heading .go contributions) := by
  have group := sound_importGroup sound
  have specs : Sound Lexicon.go ((Go.programImports contributions).flatMap fun spec =>
      '\t' :: spec ++ ['\n']) := sound_importSpecs sound
  have undeclaring : Undeclaring Go.entryForm (glyphs Lexicon.go (heading .go contributions)) := by
    have starts : Go.entryForm.opening.head? = some 'f' := rfl
    refine undeclaring_enclosed specs starts ?_ rfl rfl rfl rfl
    exact sealed_of_shade '\n' rfl fun _ => rfl
  have line : heading .go contributions = "package main\n\nimport (\n" ++
      (Go.programImports contributions).flatMap (fun spec => '\t' :: spec ++ ['\n']) ++ ")\n" ++
        ['\n'] := by
    have ends : (")\n\n" : Text) = ")\n" ++ ['\n'] := rfl
    rw [List.append_assoc _ _ ['\n'], ← ends]
    rfl
  rw [line] at undeclaring ⊢
  refine isInert_line ?_ undeclaring
  rw [← line]
  exact group

theorem isInert_heading (hasLexicon : lexicon? family = some lexicon)
    (hasForm : entryForm? family = some form) {contributions : List Contribution}
    (sound : ∀ contribution ∈ contributions, IsSound lexicon contribution)
    (imports : family ≠ .go → ∀ contribution ∈ contributions, ∀ text ∈ contribution.imports,
      IsInert lexicon form (text ++ ['\n'])) :
    IsInert lexicon form (heading family contributions) := by
  have newline := isInert_newline hasLexicon hasForm
  cases family with
  | python | javascript | typescript | shell kind => contradiction
  | rust =>
    obtain rfl := Option.some_inj.mp hasLexicon
    obtain rfl := Option.some_inj.mp hasForm
    have line : IsInert Lexicon.rust Rust.entryForm ("#![allow(unused)]" ++ ['\n']) := by
      apply isInert_line
      · exact ⟨sealed_of_shade '\n' rfl fun _ => rfl, rfl⟩
      · exact undeclaring_of_avoids rfl rfl rfl
    exact line
  | go =>
    obtain rfl := Option.some_inj.mp hasLexicon
    obtain rfl := Option.some_inj.mp hasForm
    exact isInert_importGroup sound
  | zig =>
    obtain rfl := Option.some_inj.mp hasLexicon
    obtain rfl := Option.some_inj.mp hasForm
    have standard : IsInert Lexicon.zig Zig.entryForm (Zig.standardImport ++ ['\n']) := by
      apply isInert_line
      · exact ⟨sealed_of_shade '\n' rfl fun _ => rfl, rfl⟩
      · exact undeclaring_of_avoids rfl rfl rfl
    exact isInert_importLines (·.any Zig.declaresStandard) Zig.standardImport rfl newline standard
      (imports nofun)
  | jai =>
    obtain rfl := Option.some_inj.mp hasLexicon
    obtain rfl := Option.some_inj.mp hasForm
    have standard : IsInert Lexicon.jai Jai.entryForm (Jai.basicImport ++ ['\n']) := by
      apply isInert_line
      · exact ⟨sealed_of_shade '\n' rfl fun _ => rfl, rfl⟩
      · exact undeclaring_of_avoids rfl rfl rfl
    exact isInert_importLines (·.contains Jai.basicImport) Jai.basicImport rfl newline standard
      (imports nofun)

/-- What stands ahead of the entry point and its empty line. -/
theorem isInert_headed {plan : List PlannedEntry} (hasLexicon : lexicon? family = some lexicon)
    (hasForm : entryForm? family = some form)
    (fair : ∀ planned ∈ plan, planned.role.contributes = true →
      IsFair family lexicon form planned)
    (keeps : family = .rust → ∀ planned ∈ plan, planned.role = .global →
      entryPoint? lexicon form planned.entry.content = none) :
    IsInert lexicon form (heading family (plan.map (contribution family)) ++
      Contribution.allOuter (plan.map (contribution family))) := by
  apply IsInert.append
  · apply isInert_heading hasLexicon hasForm
    · intro contribution member
      obtain ⟨planned, isPlanned, rfl⟩ := List.mem_map.mp member
      exact isSound_of_fair hasLexicon hasForm (fair planned isPlanned)
    · intro notGo contribution member text imported
      obtain ⟨planned, isPlanned, rfl⟩ := List.mem_map.mp member
      exact isInert_import notGo (fair planned isPlanned) imported
  · apply isInert_flatMap
    intro contribution member
    obtain ⟨planned, isPlanned, rfl⟩ := List.mem_map.mp member
    exact isInert_outer hasLexicon hasForm (fair planned isPlanned) fun isRust =>
      keeps isRust planned isPlanned

/-! ## The entry point of a program -/

/-- What stands around the name in the line that opens an entry point. -/
structure EntryHead where
  visibility : Text
  lead : Text
  parameters : Text
  /-- From the parameters to the brace that opens the body. -/
  result : Text

/-- How each family opens its entry point. -/
def entryHead : Family → EntryHead
  | .rust => ⟨[], "fn ", "()", " "⟩
  | .go => ⟨[], "func ", "()", " "⟩
  | .zig => ⟨"pub ", "fn ", "()", " !void "⟩
  | .jai => ⟨[], [], " :: ()", " "⟩
  | .python | .javascript | .typescript | .shell _ => ⟨[], [], [], []⟩

/-- The entry point that a program is given around a body. -/
def generated (family : Family) (top body : Text) : EntryPoint where
  before := top
  lead := (entryHead family).visibility ++ (entryHead family).lead
  name := "main"
  tail := (entryHead family).parameters ++ (entryHead family).result ++ "\x7b\n" ++ body ++ "\x7d"
  after := ['\n']
  returns := (entryHead family).result.trim

/-- The declaration that a program is given, in glyphs. -/
def generatedDeclaration (family : Family) (inside : List Glyph) : Declaration where
  lead := (entryHead family).lead.map Glyph.code
  name := ("main" : Text).map Glyph.code
  parameters := (entryHead family).parameters.map Glyph.code
  result := (entryHead family).result.map Glyph.code
  body := Glyph.code '{' :: (Glyph.code '\n' :: inside ++ [Glyph.code '\x7d'])
  after := [Glyph.code '\n']

theorem glyphs_entryLine_footer (hasLexicon : lexicon? family = some lexicon) :
    glyphs lexicon (entryLine family) = (entryHead family).visibility.map Glyph.code ++
        ((entryHead family).lead.map Glyph.code ++ ("main" : Text).map Glyph.code ++
          (entryHead family).parameters.map Glyph.code ++
            (entryHead family).result.map Glyph.code ++ [Glyph.code '{', Glyph.code '\n']) ∧
      glyphs lexicon (footer family) = [Glyph.code '\x7d', Glyph.code '\n'] := by
  cases family with
  | python | javascript | typescript | shell kind => contradiction
  | rust | go | zig | jai =>
    obtain rfl := Option.some_inj.mp hasLexicon
    exact ⟨rfl, rfl⟩

theorem readDeclaration_generated (hasForm : entryForm? family = some form) {inside : List Glyph}
    (nested : IsNested (Glyph.shownText inside)) :
    readDeclaration form ((generatedDeclaration family inside).glyphs ++ [Glyph.code '\n']) =
      .found (generatedDeclaration family inside) := by
  have line : IsNested (Glyph.shownText (Glyph.code '\n' :: inside)) := nested
  have opens : (Glyph.code '{').shown = '{' := rfl
  have ends : (Glyph.code '\x7d').shown = '\x7d' := rfl
  have closes := takeClosed?_brackets (by decide) opens ends line [Glyph.code '\n']
  have whole : (generatedDeclaration family inside).glyphs ++ [Glyph.code '\n'] =
      (entryHead family).lead.map Glyph.code ++ (("main" : Text).map Glyph.code ++
        ((entryHead family).parameters.map Glyph.code ++
          ((entryHead family).result.map Glyph.code ++ Glyph.code '{' ::
            (Glyph.code '\n' :: inside ++ Glyph.code '\x7d' :: [Glyph.code '\n'])))) := by
    simp [Declaration.glyphs, generatedDeclaration]
  rw [whole]
  cases family with
  | python | javascript | typescript | shell kind => contradiction
  | rust | go | zig =>
    obtain rfl := Option.some_inj.mp hasForm
    exact readDeclaration_function_eq_found_iff.mpr ⟨_, _, _, _, rfl, rfl, rfl, rfl,
      readBody_eq_found_iff.mpr ⟨_, _, _, rfl, rfl, List.all_eq_true.mp rfl, rfl, closes, rfl, rfl,
        rfl⟩⟩
  | jai =>
    obtain rfl := Option.some_inj.mp hasForm
    exact readDeclaration_constant_eq_found_iff.mpr ⟨_, _, _, _, rfl, rfl, rfl,
      readBody_eq_found_iff.mpr ⟨_, _, _, rfl, rfl, List.all_eq_true.mp rfl, rfl, closes, rfl, rfl,
        rfl⟩⟩

theorem startsPlain_of_entryForm? (hasForm : entryForm? family = some form) : form.StartsPlain := by
  cases family with
  | python | javascript | typescript | shell kind => contradiction
  | rust | go | zig | jai =>
    obtain rfl := Option.some_inj.mp hasForm
    exact ⟨_, rfl, rfl⟩

/-- Behind a line the search takes the visibility that an entry point is given, and no more. -/
theorem entryOf_generated (hasForm : entryForm? family = some form) {before inside : List Glyph}
    (ends : ∀ glyph ∈ before.head?, glyph.shown = '\n') :
    entryOf form (((entryHead family).visibility.map Glyph.code).reverse ++ before)
        (generatedDeclaration family inside) =
      generated family (Glyph.sourceText before.reverse) (Glyph.sourceText inside) := by
  have sources : ∀ text : Text, Glyph.sourceText (text.map Glyph.code) = text := by
    intro text
    rw [Glyph.sourceText, List.filterMap_map]
    exact List.filterMap_some ..
  have body : ∀ parameters result : Text, Glyph.sourceText (parameters.map Glyph.code ++
      result.map Glyph.code ++ Glyph.code '{' ::
        (Glyph.code '\n' :: inside ++ [Glyph.code '\x7d'])) =
      parameters ++ result ++ "\x7b\n" ++ Glyph.sourceText inside ++ "\x7d" := by
    intro parameters result
    rw [Glyph.sourceText, List.filterMap_append, List.filterMap_append, ← Glyph.sourceText,
      ← Glyph.sourceText, sources, sources]
    change _ ++ (("\x7b\n" : Text) ++ (inside ++ [Glyph.code '\x7d']).filterMap Glyph.source) = _
    rw [List.filterMap_append, ← List.append_assoc, ← List.append_assoc]
    rfl
  have fields : (⟨Glyph.sourceText before.reverse,
      Glyph.sourceText ((entryHead family).visibility.map Glyph.code ++
        (generatedDeclaration family inside).lead),
      Glyph.sourceText (generatedDeclaration family inside).name,
      Glyph.sourceText ((generatedDeclaration family inside).parameters ++
        (generatedDeclaration family inside).result ++ (generatedDeclaration family inside).body),
      Glyph.sourceText (generatedDeclaration family inside).after,
      Text.trim (Glyph.sourceText (generatedDeclaration family inside).result)⟩ : EntryPoint) =
      generated family (Glyph.sourceText before.reverse) (Glyph.sourceText inside) := by
    rw [generated, EntryPoint.mk.injEq]
    refine ⟨rfl, ?_, sources _, body _ _, rfl, congrArg Text.trim (sources _)⟩
    rw [generatedDeclaration, ← List.map_append, sources]
  rw [← fields]
  cases family with
  | python | javascript | typescript | shell kind => contradiction
  | rust | go =>
    obtain rfl := Option.some_inj.mp hasForm
    exact entryOf_function (takeVisibility_of_ends ends) _
  | zig =>
    obtain rfl := Option.some_inj.mp hasForm
    exact entryOf_function (takeVisibility_pub ends) _
  | jai =>
    obtain rfl := Option.some_inj.mp hasForm
    rfl

theorem declarations?_generated (hasLexicon : lexicon? family = some lexicon)
    (hasForm : entryForm? family = some form) {before inside : List Glyph}
    (ends : ∀ glyph ∈ before.head?, glyph.shown = '\n')
    (nested : IsNested (Glyph.shownText inside)) :
    declarations? form 0 before 0
        (glyphs lexicon (entryLine family) ++ (inside ++ glyphs lexicon (footer family))) =
      some [generated family (Glyph.sourceText before.reverse) (Glyph.sourceText inside)] := by
  obtain ⟨line, closing⟩ := glyphs_entryLine_footer hasLexicon
  have whole : glyphs lexicon (entryLine family) ++ (inside ++ glyphs lexicon (footer family)) =
      (entryHead family).visibility.map Glyph.code ++
        ((generatedDeclaration family inside).glyphs ++ [Glyph.code '\n']) := by
    simp [line, closing, Declaration.glyphs, generatedDeclaration]
  have visible : Undeclaring form ((entryHead family).visibility.map Glyph.code) ∧
      endsInWord (((entryHead family).visibility.map Glyph.code).reverse ++ before).reverse =
        false := by
    have apart : endsInWord before.reverse = false := by
      rw [endsInWord, List.getLast?_reverse, Option.any_eq_false]
      intro glyph member
      rw [ends glyph member]
      decide
    cases family with
    | python | javascript | typescript | shell kind => contradiction
    | rust | go | jai => exact ⟨undeclaring_nil form, apart⟩
    | zig =>
      obtain rfl := Option.some_inj.mp hasForm
      refine ⟨undeclaring_of_avoids rfl rfl rfl, ?_⟩
      rw [List.reverse_append, List.reverse_reverse]
      exact endsInWord_append (List.cons_ne_nil _ _)
  have newline := undeclaring_newline hasLexicon hasForm
  rw [glyphs_newline hasLexicon] at newline
  rw [whole, visible.1.declarations?, declarations?_last (startsPlain_of_entryForm? hasForm)
    visible.2 (readDeclaration_generated hasForm nested) newline, entryOf_generated hasForm ends]

/-- A program whose module scope declares nothing has the entry point that it has been given. -/
theorem entryPoint?_of_isInert {plan : List PlannedEntry} {top : Text}
    (hasLexicon : lexicon? family = some lexicon) (hasForm : entryForm? family = some form)
    (inert : IsInert lexicon form top)
    (sound : ∀ planned ∈ plan, IsSound lexicon (contribution family planned)) :
    entryPoint? lexicon form (top ++ entryLine family ++ blocks family plan ++ footer family) =
      some (generated family top (blocks family plan)) := by
  have inside := sound_blocks hasLexicon sound
  obtain ⟨lineSealed, _⟩ := entryLine_footer hasLexicon
  have whole : glyphs lexicon (top ++ entryLine family ++ blocks family plan ++ footer family) =
      glyphs lexicon top ++ (glyphs lexicon (entryLine family) ++
        (glyphs lexicon (blocks family plan) ++ glyphs lexicon (footer family))) := by
    rw [((inert.sound.isSealed.append lineSealed).append inside.isSealed).glyphs_append,
      (inert.sound.isSealed.append lineSealed).glyphs_append, inert.sound.isSealed.glyphs_append,
      List.append_assoc, List.append_assoc]
  have ends : ∀ glyph ∈ ((glyphs lexicon top).reverse ++ []).head?, glyph.shown = '\n' := by
    intro glyph member
    rw [List.append_nil, List.head?_reverse] at member
    apply inert.ends
    rw [mask, Glyph.shownText, List.getLast?_map, Option.mem_def.mp member]
    rfl
  rw [entryPoint?, whole, inert.undeclaring.declarations?,
    declarations?_generated hasLexicon hasForm ends inside.isNested, List.append_nil,
    List.reverse_reverse, sourceText_glyphs, sourceText_glyphs]

/-- A Rust cell at module scope that declares the entry point is found ahead of the one that the
program has been given. -/
theorem entryPoint?_of_global {plan : List PlannedEntry} {rest body : Text}
    (fair : ∀ planned ∈ plan, planned.role.contributes = true →
      IsFair .rust Lexicon.rust Rust.entryForm planned)
    (declares : ∃ planned ∈ plan, planned.role = .global ∧
      entryPoint? Lexicon.rust Rust.entryForm planned.entry.content ≠ none) :
    entryPoint? Lexicon.rust Rust.entryForm
        (moduleScope .rust (plan.map (contribution .rust)) ++ rest) ≠
      some (generated .rust (moduleScope .rust (plan.map (contribution .rust))) body) := by
  -- Ahead of the first such cell module scope declares nothing.
  obtain ⟨planned, earlier, later, split, ⟨isGlobal, declares⟩, none⟩ :
      ∃ planned earlier later, plan = earlier ++ planned :: later ∧
        (planned.role = .global ∧
          entryPoint? Lexicon.rust Rust.entryForm planned.entry.content ≠ none) ∧
        ∀ planned ∈ earlier, planned.role = .global →
          entryPoint? Lexicon.rust Rust.entryForm planned.entry.content = none := by
    obtain ⟨one, member, declares⟩ := declares
    obtain ⟨planned, finds⟩ := Option.isSome_iff_exists.mp
      (List.find?_isSome (p := fun planned : PlannedEntry => decide (planned.role = .global ∧
        entryPoint? Lexicon.rust Rust.entryForm planned.entry.content ≠ none)).mpr
        ⟨one, member, decide_eq_true declares⟩)
    obtain ⟨isOne, earlier, later, split, none⟩ := List.find?_eq_some_iff_append.mp finds
    refine ⟨planned, earlier, later, split, of_decide_eq_true isOne, ?_⟩
    intro other isEarlier isGlobal
    simpa [isGlobal] using none other isEarlier
  obtain ⟨entry, found⟩ := Option.ne_none_iff_exists'.mp declares
  rw [split] at fair
  obtain ⟨fairEarlier, fair⟩ := List.forall_mem_append.mp fair
  obtain ⟨fair, _⟩ := List.forall_mem_cons.mp fair
  have closed := (fair (by rw [isGlobal]; rfl)).closed
  have hasLexicon : lexicon? .rust = some .rust := rfl
  have hasForm : entryForm? .rust = some Rust.entryForm := rfl
  obtain ⟨ahead, inert, more, scope⟩ : ∃ ahead, IsInert Lexicon.rust Rust.entryForm ahead ∧
      ∃ more, moduleScope .rust (plan.map (contribution .rust)) =
        ahead ++ (planned.entry.content ++ '\n' :: more) := by
    refine ⟨_, isInert_headed hasLexicon hasForm fairEarlier fun _ => none,
      Contribution.allOuter (later.map (contribution .rust)) ++ ['\n'], ?_⟩
    have outer : (contribution .rust planned).outer = planned.entry.content ++ ['\n'] := by
      rw [contribution, Rust.contribution, isGlobal]
    have all : Contribution.allOuter (plan.map (contribution .rust)) =
        Contribution.allOuter (earlier.map (contribution .rust)) ++ (planned.entry.content ++
          '\n' :: Contribution.allOuter (later.map (contribution .rust))) := by
      simp [split, Contribution.allOuter, outer]
    rw [moduleScope, all, List.append_assoc, List.append_assoc, List.append_assoc,
      List.append_assoc]
    rfl
  intro finds
  rw [scope, List.append_assoc, List.append_assoc, List.cons_append] at finds
  have apart : glyphs Lexicon.rust (planned.entry.content ++ '\n' :: (more ++ rest)) =
      glyphs Lexicon.rust planned.entry.content ++
        glyphs Lexicon.rust ('\n' :: (more ++ rest)) := by
    apply glyphs_append_of_mask
    rw [closed, mask_newline hasLexicon]
  have plain := startsPlain_of_entryForm? hasForm
  have bound := length_before_of_entryPoint? plain inert apart found finds
  change (ahead ++ (planned.entry.content ++ '\n' :: more)).length ≤ _ at bound
  simp only [List.length_append, List.length_cons] at bound
  omega

end

/-- Where cells can be spliced, a program has exactly one declaration of an entry point at bracket
depth zero, the one that it has been given, whatever entry points its cells declare; but a Rust
program has others if a cell that is kept at module scope declares one. -/
theorem build_entryPoint {family : Family} {lexicon : Lexicon} {form : EntryForm}
    (hasLexicon : lexicon? family = some lexicon) (hasForm : entryForm? family = some form)
    (context : ProgramContext) (history : History)
    (fair : ∀ planned ∈ history.plan, planned.role.contributes = true →
      IsFair family lexicon form planned) :
    let source := (build family context history).source
    let top := moduleScope family (history.plan.map (contribution family))
    source = top ++ entryLine family ++ blocks family history.plan ++ footer family ∧
      (declarations? form 0 [] 0 (glyphs lexicon source) =
          some [generated family top (blocks family history.plan)] ↔
        (family = .rust → ∀ planned ∈ history.plan, planned.role = .global →
          entryPoint? lexicon form planned.entry.content = none)) := by
  intro source top
  have whole := source_eq hasLexicon context history
  have unique : declarations? form 0 [] 0 (glyphs lexicon source) =
        some [generated family top (blocks family history.plan)] ↔
      entryPoint? lexicon form source =
        some (generated family top (blocks family history.plan)) := by
    refine ⟨fun finds => ?_, declarations?_of_entryPoint?⟩
    rw [entryPoint?, finds]
  refine ⟨whole, unique.trans ⟨?_, ?_⟩⟩
  · rintro finds rfl
    obtain rfl := Option.some_inj.mp hasLexicon
    obtain rfl := Option.some_inj.mp hasForm
    by_contra declares
    push Not at declares
    rw [show source = _ from whole, List.append_assoc, List.append_assoc] at finds
    exact entryPoint?_of_global fair declares finds
  · intro keeps
    have headed := isInert_headed hasLexicon hasForm fair keeps
    rw [show source = _ from whole]
    apply entryPoint?_of_isInert hasLexicon hasForm
    · exact headed.append (isInert_newline hasLexicon hasForm)
    · exact fun planned member => isSound_of_fair hasLexicon hasForm (fair planned member)

/-- Two cells declare the entry point, one of them at module scope. -/
theorem build_entryPoint_go_cells :
    let content : Text := "func main() \x7b\x7d"
    let plan : List PlannedEntry := [⟨⟨1, 0, content, some .global⟩, .global, false⟩,
      ⟨⟨2, 1, content, none⟩, .body, true⟩]
    let history := History.ofSources [(content, some .global), (content, none)]
    let source := (build .go ⟨"/w", none⟩ history).source
    let top := moduleScope .go (plan.map (contribution .go))
    history.plan = plan ∧ (∀ planned ∈ plan, IsFair .go .go Go.entryForm planned) ∧
      source = top ++ entryLine .go ++ blocks .go plan ++ footer .go ∧
      declarations? Go.entryForm 0 [] 0 (glyphs .go source) =
        some [generated .go top (blocks .go plan)] := by
  intro content plan history source top
  have same : history.plan = plan := rfl
  have contents : ∀ planned ∈ plan, planned.entry.content = content := by decide
  have entries : ∀ planned ∈ plan, spliced? .go planned.role planned.entry.content =
      some ⟨[], "func ", "main", "() \x7b\x7d", [], []⟩ := by
    decide +kernel
  have lengths : ∀ planned ∈ plan, (statements .go (routedText .go planned)).length = 2 := by
    decide +kernel
  have starts : ∀ planned ∈ plan,
      ((statements .go (routedText .go planned)).take 1).flatMap statementText = ['\n'] := by
    decide +kernel
  have imports : ∀ planned ∈ plan, (contribution .go planned).imports = [] := by
    decide +kernel
  have fair : ∀ planned ∈ plan, IsFair .go .go Go.entryForm planned := by
    intro planned member
    refine ⟨?_, ?_, ?_, ?_, ?_, ?_, ?_⟩
    · rw [contents planned member]
      refine .of_sealed ?_ rfl
      exact sealed_of_shade '\n' rfl fun _ => rfl
    · rw [contents planned member]
      rfl
    · rw [contents planned member]
      exact nofun
    · intro entry found
      obtain rfl := Option.some_inj.mp ((entries planned member).symm.trans found)
      refine ⟨sealed_nil, ?_, ?_, rfl⟩
      · exact sealed_of_shade ' ' rfl fun _ => rfl
      · exact sealed_of_shade '\x7d' rfl fun _ => rfl
    · intro entry found _
      obtain rfl := Option.some_inj.mp ((entries planned member).symm.trans found)
      refine ⟨undeclaring_nil _, ?_, ?_⟩
      · exact undeclaring_of_avoids rfl rfl rfl
      · exact undeclaring_of_avoids rfl rfl rfl
    · rintro _ ⟨⟩
      apply cutsInto_of_take
      intro count positive below
      rw [lengths planned member] at below
      obtain rfl : count = 1 := by omega
      rw [starts planned member]
      refine ⟨?_, undeclaring_of_avoids rfl rfl rfl⟩
      exact sealed_of_shade '\n' rfl fun _ => rfl
    · rw [imports planned member]
      exact nofun
  obtain ⟨whole, unique⟩ :=
    build_entryPoint (show lexicon? .go = some .go from rfl)
      (show entryForm? .go = some Go.entryForm from rfl) ⟨"/w", none⟩ history
      fun planned member _ => fair planned member
  exact ⟨same, fair, whole, unique.mpr nofun⟩

/-- A Rust cell that is kept at module scope keeps its entry point as well. -/
theorem build_entryPoint_rust_global :
    let content : Text := "fn main() \x7b\x7d"
    let planned : PlannedEntry := ⟨⟨1, 0, content, some .global⟩, .global, true⟩
    let history := History.ofSources [(content, some .global)]
    let source := (build .rust ⟨"/w", none⟩ history).source
    history.plan = [planned] ∧ Closed Lexicon.rust content ∧ IsNested (mask .rust content) ∧
      entryPoint? .rust Rust.entryForm content =
        some ⟨[], "fn ", "main", "() \x7b\x7d", [], []⟩ ∧
      (declarations? Rust.entryForm 0 [] 0 (glyphs .rust source)).map List.length = some 2 ∧
      entryPoint? .rust Rust.entryForm source = none := by
  refine ⟨rfl, .of_sealed ?_ rfl, rfl, rfl, rfl, rfl⟩
  exact sealed_of_shade '\n' rfl fun _ => rfl

end Notebook.Program
