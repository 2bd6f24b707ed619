import Notebook.Proofs.Document.FenceCount
import Notebook.Proofs.Document.ReadCell
import Notebook.Proofs.Document.WrittenOutput

/-! # Directives that are replaced

The writer builds the info text of a fence anew from the language of its cell and from its
directive. The text says both if the directive fits on a line and something is left to say: where a
directive is taken from a cell without a language, the fence that is written says nothing and opens
no block. Apart from this the document comes back with the new directive and nothing else changed,
as far as its carriage returns and its empty outputs let it.
-/

namespace Notebook.Document

open Text

/-- What a cell says, with the output it is given. -/
def account (cell : Cell) : (CellKind × Option Text × Option Directive × Text) × Option Text :=
  (shape cell, cell.output)

/-- An info text can say the directive in place of the one that the cell has. -/
structure Taggable (cell : Cell) (directive : Option Directive) : Prop where
  whole : ∀ asked ∈ directive, '\n' ∉ asked.render
  said : cell.language = some [] → directive = none → cell.directive = none

/-- The output of the cell is written, and no line of it ends with a carriage return. -/
def Lasting (cell : Cell) : Prop :=
  ∀ output ∈ cell.output, output ≠ [] ∧ EndsPlain output.pieces

instance (cell : Cell) : Decidable (Lasting cell) :=
  inferInstanceAs (Decidable (∀ output ∈ cell.output, output ≠ [] ∧ EndsPlain output.pieces))

/-! ## The info text that is written -/

section Info

variable {cell : Cell} {directive : Option Directive}

/-- The language and the directive of a cell that was read are those of an info text of one line. -/
theorem FromBlock.exists_info (block : FromBlock cell) (kind : cell.kind = .code) :
    ∃ info, cell.info = some info ∧ '\n' ∉ info ∧
      cell.language = some (languageOfTag (Fence.splitInfo info).1) ∧
      cell.directive = (Fence.splitInfo info).2 := by
  obtain ⟨info, stored, language, asked⟩ := block.described kind
  have describes : infoDescribes cell info = true := by
    rw [infoDescribes_iff, language, asked]
    exact ⟨rfl, rfl⟩
  have written : writtenInfo cell = info := by
    rw [writtenInfo, stored]
    exact if_pos describes
  exact ⟨info, stored, written ▸ (block.sound.code kind).whole, language, asked⟩

theorem FromBlock.newline_not_mem_render (block : FromBlock cell) (kind : cell.kind = .code) :
    ∀ asked ∈ cell.directive, '\n' ∉ asked.render := by
  obtain ⟨info, _, whole, _, split⟩ := block.exists_info kind
  intro asked asks
  rw [split] at asks
  obtain ⟨raw, parsed, inside⟩ := Fence.parse?_of_splitInfo asks
  exact Directive.newline_not_mem_render parsed fun member => whole (inside member)

/-- With a directive that can be said, what was read is still sound. -/
theorem FromBlock.sound_retagged (block : FromBlock cell) (kind : cell.kind = .code)
    (parsed : ∀ asked ∈ directive, ∃ raw, Directive.parse? raw = some asked)
    (taggable : Taggable cell directive) : Sound { cell with directive := directive } := by
  have code := block.sound.code kind
  obtain ⟨info, stored, whole, language, split⟩ := block.exists_info kind
  obtain ⟨trimmed, colon, inside⟩ := Fence.splitInfo_tag info
  have newline : '\n' ∉ languageOfTag (Fence.splitInfo info).1 :=
    languageOfTag_induction (p := fun language => '\n' ∉ language)
      (fun member => whole (inside member)) (by decide)
  have nameable : Nameable { cell with directive := directive } := {
    language := ⟨_, language, languageOfTag_languageOfTag _,
      languageOfTag_induction (p := fun language => language.trim = language) trimmed (by decide),
      languageOfTag_induction (p := fun language => ':' ∉ language) colon (by decide)⟩
    directive := parsed }
  have describes := infoDescribes_writtenInfo nameable
  have visible : (writtenInfo { cell with directive := directive }).isBlank = false := by
    by_cases named : cell.language.getD [] ≠ [] ∨ directive ≠ none
    · exact isBlank_of_infoDescribes describes named
    · rw [not_or, not_not, not_not] at named
      have nameless : cell.language = some [] := by
        rw [language, Option.getD_some] at named
        rw [language, named.1]
      have same : { cell with directive := directive } = cell := by
        rw [named.2, ← taggable.said nameless named.2]
      rw [same]
      exact code.visible
  refine ⟨fun prose => ?_, fun _ => {
    language := code.language
    indent := code.indent
    outputIndent := code.outputIndent
    describes := describes
    visible := visible
    whole := not_mem_writtenInfo (by decide) (by decide) ?_ (taggable.whole ·) ?_
    unclosed := code.unclosed
    blank := code.blank
    output := code.output }⟩
  · cases kind.symm.trans prose
  · intro named same
    rw [Option.some_inj.mp (same.symm.trans language)]
    exact newline
  · intro known same
    rw [Option.some_inj.mp (same.symm.trans stored)]
    exact whole

/-- Without a language and a directive there is nothing to write. -/
theorem FromBlock.writtenInfo_untagged (block : FromBlock cell) (kind : cell.kind = .code)
    (nameless : cell.language = some []) (asked : cell.directive ≠ none) :
    writtenInfo { cell with directive := none } = [] := by
  obtain ⟨info, stored, _, _, split⟩ := block.exists_info kind
  have other : infoDescribes { cell with directive := none } info = false := by
    rw [Bool.eq_false_iff, Ne, infoDescribes_iff, ← split]
    exact fun described => asked described.2
  have fresh : freshInfo { cell with directive := none } = [] := by
    rw [freshInfo, nameless]
    exact (List.append_nil _).trans (by decide)
  rw [writtenInfo, stored]
  exact (if_neg (Bool.eq_false_iff.mp other)).trans fresh

end Info

/-! ## Outputs that are written back -/

/-- The output that is read again does not depend on what the cell says. -/
theorem output_reread (cell : Cell) :
    (reread cell).output = if cell.isCode then
      (keptOutput cell).map fun output => ofLines ((outputLines output).map dropReturn) else none := by
  rw [Cell.isCode]
  cases kind : cell.kind with
  | prose =>
    rw [reread_prose kind]
    rfl
  | code =>
    cases kept : keptOutput cell with
    | none =>
      rw [reread_code_none kind kept]
      rfl
    | some output =>
      rw [reread_code_some kind kept]
      rfl

/-- An output is read again as it was if it is not left out and no line of it is shortened. -/
theorem FromBlock.output_reread_eq_iff {cell : Cell} (block : FromBlock cell) :
    (reread cell).output = cell.output ↔ Lasting cell := by
  rw [output_reread]
  cases stored : cell.output with
  | none =>
    have kept : keptOutput cell = none := by rw [keptOutput, stored]; rfl
    rw [kept, Lasting, stored]
    exact ⟨fun _ output absent => absurd absent (Option.not_mem_none output), fun _ => ite_self _⟩
  | some output =>
    have code : cell.isCode = true :=
      decide_eq_true (block.output_ne_none (by rw [stored]; exact Option.some_ne_none output)).1
    rw [code, if_pos rfl, Lasting, stored]
    simp only [Option.mem_some_iff, forall_eq']
    rcases eq_or_ne output [] with rfl | filled
    · have kept : keptOutput cell = none := by rw [keptOutput, stored]; rfl
      rw [kept]
      exact ⟨fun lost => absurd lost.symm (Option.some_ne_none []), fun lasts => absurd rfl lasts.1⟩
    · have kept : keptOutput cell = some output := by
        rw [keptOutput, stored]
        exact Option.filter_some_pos (decide_eq_true filled)
      obtain ⟨lines, rfl, _, whole⟩ := block.exists_lines stored
      have more : lines ≠ [] := fun empty => filled (by rw [empty]; rfl)
      have shorter : ∀ line ∈ lines.map dropReturn, '\n' ∉ line := by
        intro line member
        obtain ⟨line, present, rfl⟩ := List.mem_map.mp member
        exact not_mem_dropReturn (whole line present)
      have ends : EndsPlain (lines ++ [[]]) ↔ EndsPlain lines := by
        rw [EndsPlain, List.forall_mem_append]
        exact and_iff_left (by decide)
      rw [kept, Option.map_some, Option.some_inj, outputLines_ofLines whole more,
        pieces_ofLines whole, ends, and_iff_right filled, ← map_dropReturn_eq_self_iff]
      exact ⟨ofLines_inj shorter whole, congrArg ofLines⟩

/-! ## Fences that are missed -/

theorem cellHeads_congr {cell other : Cell} (same : account cell = account other) :
    cellHeads cell = cellHeads other := by
  have content : cell.content = other.content := congrArg (fun account => account.1.2.2.2) same
  have kind : cell.kind = other.kind := congrArg (fun account => account.1.1) same
  have output : cell.output = other.output := congrArg Prod.snd same
  rw [cellHeads, cellHeads, Cell.isCode, Cell.isCode, content, kind, output]

theorem headCount_congr {cells others : List Cell}
    (same : cells.map account = others.map account) : headCount cells = headCount others := by
  induction cells generalizing others with
  | nil =>
    cases others with
    | nil => rfl
    | cons => cases same
  | cons cell cells ih =>
    cases others with
    | nil => cases same
    | cons other others =>
      obtain ⟨first, rest⟩ := List.cons.inj same
      rw [headCount_cons, headCount_cons, cellHeads_congr first, ih rest]

theorem heads_pieces_serialize {cells : List Cell} {count : Nat}
    (spaced : ∀ cell ∈ cells, Spaced cell)
    (trailing : cells.getLast?.map (·.trailing) = some (List.replicate count '\n')) :
    heads (serialize cells).pieces = heads (documentLines cells) := by
  cases cells with
  | nil => cases trailing
  | cons first rest =>
    rw [pieces_serialize (fun cell member => spaced cell (List.mem_cons_of_mem _ member)) trailing,
      documentLines_cons, heads_append, heads_append, heads_append, heads_append, heads_replicate,
      heads_replicate, Nat.zero_add, Nat.add_zero]

section Documents

variable {text : Text} {before after : List Cell} {cell : Cell} {directive : Option Directive}
  (split : parse text = before ++ cell :: after) (kind : cell.kind = .code)

include split kind

/-- A fence that says nothing is missed, and no other makes up for it. -/
theorem map_account_ne_of_untagged (nameless : cell.language = some []) (asked : cell.directive ≠ none) :
    (parse (serialize (before ++ { cell with directive := none } :: after))).map account ≠
      (before ++ { cell with directive := none } :: after).map account := by
  intro same
  have block := fromBlock_of_split split
  have code := block.sound.code kind
  have bare := block.writtenInfo_untagged kind nameless asked
  have sound := forall_replaced split (fun _ block => block.sound) block.sound
  have quiet := forall_replaced split (fun _ block => block.quiet) block.quiet
  have spaced := @spaced_replaced _ _ _ { cell with directive := none } _ split rfl
  obtain ⟨count, ending⟩ := @ending_replaced _ _ _ { cell with directive := none } _ split rfl
  rw [List.forall_mem_append, List.forall_mem_cons] at sound quiet
  have earlier := heads_documentLines_le sound.1 quiet.1
  have later := heads_documentLines_le sound.2.2 quiet.2.2
  have missed := @heads_cellLines_code_le { cell with directive := none } kind code.indent
    code.outputIndent (by rw [bare]; exact List.not_mem_nil) code.unclosed quiet.2.1
  have read := headCount_parse_le (serialize (before ++ { cell with directive := none } :: after))
  rw [if_pos bare] at missed
  rw [headCount_congr same, heads_pieces_serialize spaced ending,
    documentLines_append, documentLines_cons, heads_append, heads_append, heads_append,
    heads_replicate, headCount_append, headCount_cons] at read
  omega

/-- What comes back is a directive that a fence can say. -/
theorem taggable_of_map_account
    (back : (parse (serialize (before ++ { cell with directive := directive } :: after))).map account =
      (before ++ { cell with directive := directive } :: after).map account) :
    Taggable cell directive := by
  refine ⟨fun asked asks => ?_, fun nameless none => ?_⟩
  · have member : account { cell with directive := directive } ∈
        (parse (serialize (before ++ { cell with directive := directive } :: after))).map account := by
      rw [back]
      exact List.mem_map_of_mem (List.mem_append_right _ (List.mem_cons_self ..))
    obtain ⟨other, present, same⟩ := List.mem_map.mp member
    exact (fromBlock_parse present).newline_not_mem_render
      ((congrArg (fun account => account.1.1) same).trans kind) asked
      ((congrArg (fun account => account.1.2.2.1) same).trans asks)
  · by_contra asked
    subst none
    exact map_account_ne_of_untagged split kind nameless asked back

end Documents

/-! ## Documents that were read -/

theorem map_gist_of_map_account {cells others : List Cell}
    (same : cells.map account = others.map account) : cells.map gist = others.map gist := by
  have shapes := congrArg (List.map Prod.fst) same
  rw [List.map_map, List.map_map] at shapes
  exact map_gist_of_map_shape shapes

/-- Legible cells come back with their outputs exactly when they are plain and the outputs last. -/
theorem Legible.map_account_iff {cells : List Cell} (legible : Legible cells)
    (apart : cells.IsChain Apart)
    (code : ∀ cell ∈ cells, cell.output ≠ none →
      cell.kind = .code ∧ cell.language ≠ some Fence.outputTag)
    (outputs : ∀ cell ∈ cells, (reread cell).output = cell.output ↔ Lasting cell) :
    (parse (serialize cells)).map account = cells.map account ↔
      ∀ cell ∈ cells, Plain cell ∧ Lasting cell := by
  constructor
  · intro back
    obtain ⟨plain, separate⟩ := legible.map_gist_iff.mp (map_gist_of_map_account back)
    rw [legible.map_parse plain separate (fun _ _ => rfl) fun _ => rfl, List.map_inj_left] at back
    exact fun cell member =>
      ⟨plain cell member, (outputs cell member).mp (congrArg Prod.snd (back cell member))⟩
  · intro kept
    have filled : cells.IsChain fun cell next =>
        cell.output = some [] → next.language ≠ some Fence.outputTag :=
      List.IsChain.imp_of_mem_imp
        (fun cell _ member _ _ empty => absurd rfl ((kept cell member).2 [] empty).1) apart
    rw [legible.map_parse (fun cell member => (kept cell member).1)
      ((isChain_separate_iff apart code).mpr filled) (fun _ _ => rfl) fun _ => rfl, List.map_inj_left]
    exact fun cell member => Prod.ext (shape_reread (legible.sound cell member) (kept cell member).1)
      ((outputs cell member).mpr (kept cell member).2)

/-- A document comes back with another directive for one cell, and nothing else changed, exactly when
the fence can say the directive, every cell is plain and every output lasts. -/
theorem retagged_comesBack_iff {text : Text} {position : Nat} {cell : Cell}
    {directive : Option Directive} (read : (parse text)[position]? = some cell)
    (kind : cell.kind = .code)
    (parsed : ∀ asked ∈ directive, ∃ raw, Directive.parse? raw = some asked) :
    (parse (serialize ((parse text).set position { cell with directive := directive }))).map account =
        ((parse text).set position { cell with directive := directive }).map account ↔
      Taggable cell directive ∧ ∀ other ∈ parse text, Plain other ∧ Lasting other := by
  obtain ⟨before, after, split, rfl⟩ := exists_append_of_getElem? read
  have block := fromBlock_of_split split
  have replaced : (parse text).set before.length { cell with directive := directive } =
      before ++ { cell with directive := directive } :: after := by
    rw [split, List.set_append_right _ _ (Nat.le_refl _), Nat.sub_self, List.set_cons_zero]
  have plain : Plain { cell with directive := directive } ↔ Plain cell := plain_congr rfl rfl
  have lasting : Lasting { cell with directive := directive } ↔ Lasting cell := Iff.rfl
  have others : (∀ other ∈ before ++ { cell with directive := directive } :: after,
      Plain other ∧ Lasting other) ↔ ∀ other ∈ parse text, Plain other ∧ Lasting other := by
    rw [split, List.forall_mem_append, List.forall_mem_append, List.forall_mem_cons,
      List.forall_mem_cons, plain, lasting]
  have outputs : ∀ other ∈ before ++ { cell with directive := directive } :: after,
      (reread other).output = other.output ↔ Lasting other := by
    apply forall_replaced split fun other block => block.output_reread_eq_iff
    have same := block.output_reread_eq_iff
    rw [output_reread] at same ⊢
    exact same
  have apart := apart_parse text
  rw [split] at apart
  have apart : (before ++ { cell with directive := directive } :: after).IsChain Apart :=
    isChain_replaced apart (fun other apart => ⟨apart.prose, apart.output⟩)
      fun other apart => ⟨apart.prose, apart.output⟩
  have legible : Taggable cell directive →
      Legible (before ++ { cell with directive := directive } :: after) := fun taggable =>
    legible_replaced split kind rfl rfl (block.sound_retagged kind parsed taggable) block.quiet
  have back := fun taggable => (legible taggable).map_account_iff apart
    (forall_replaced split (fun _ block => block.output_ne_none) block.output_ne_none) outputs
  rw [replaced, ← others]
  refine ⟨fun same => ?_, fun ⟨taggable, kept⟩ => (back taggable).mpr kept⟩
  have taggable := taggable_of_map_account split kind same
  exact ⟨taggable, (back taggable).mp same⟩

end Notebook.Document
