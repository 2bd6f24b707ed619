import Notebook.CommandLine.Documents
import Notebook.Proofs.Document.Retagged
import Notebook.Proofs.World.FileTree

/-! # Changing a directive

The command that gives a cell another directive reads the document, replaces the directive and
writes the document back. If it is refused, for whatever reason, nothing has changed; otherwise the
only file that has changed is that of the document, and it is read as the same cells with the
directive that was asked for, as far as the cells come back at all.
-/

namespace Notebook.CommandLine

open Document

variable {world later : World} {document : Path} {position : Nat} {directive : Option Directive}

/-! ## Directives that are asked for -/

/-- A directive that can be asked for can be read. -/
theorem exists_parse?_of_requestedDirective {raw : Option Text}
    (requested : requestedDirective raw = .ok directive) :
    ∀ asked ∈ directive, ∃ raw, Directive.parse? raw = some asked := by
  rw [requestedDirective] at requested
  split at requested
  · cases requested
    exact nofun
  · split at requested
    · split at requested
      · cases requested
      · cases requested
    · cases requested
      exact fun asked asks => ⟨_, asks⟩

/-! ## The command -/

/-- The document has a code cell at the position, and what is asked for is a directive. -/
structure Tagging (world : World) (document : Path) (position : Nat) (raw : Option Text)
    (text : Text) (directive : Option Directive) (cell : Cell) : Prop where
  read : world.files.readText world.cwd document = .ok text
  requested : requestedDirective raw = .ok directive
  found : (parse text)[position]? = some cell
  code : cell.kind = .code

theorem exists_of_retag {cells retagged : List Cell}
    (retags : retag cells position directive = .ok retagged) :
    ∃ cell, cells[position]? = some cell ∧ cell.kind = .code := by
  rw [retag] at retags
  split at retags
  · cases retags
  · next cell found =>
    split_ifs at retags with code
    exact ⟨cell, found, of_decide_eq_true code⟩

/-- Only a code cell of a document that can be read is given a directive. -/
theorem exists_of_tagged (tags : tagged world document position directive = .ok later) :
    ∃ text cell, world.files.readText world.cwd document = .ok text ∧
      (parse text)[position]? = some cell ∧ cell.kind = .code := by
  rw [tagged, load] at tags
  cases read : world.files.readText world.cwd document with
  | error cause => rw [read] at tags; cases tags
  | ok text =>
    rw [read] at tags
    cases retags : retag (parse text) position directive with
    | error cause =>
      simp only [bind, Except.bind, retags] at tags
      cases tags
    | ok cells =>
      obtain ⟨cell, found, code⟩ := exists_of_retag retags
      exact ⟨text, cell, rfl, found, code⟩

/-- Where the command can be done it is, and writes the document with the directive replaced. -/
theorem tag_of_tagging {raw : Option Text} {text : Text} {cell : Cell}
    (tagging : Tagging world document position raw text directive cell) :
    ∃ files, world.files.write world.cwd document (Utf8.encode
          (serialize ((parse text).set position { cell with directive := directive }))) = .ok files ∧
      tag world document position raw =
        .done { world with files := files } (Text.ofLines [reportTag position directive]) := by
  obtain ⟨contents, reads, _⟩ := FileTree.readText_eq_ok_iff.mp tagging.read
  obtain ⟨files, wrote⟩ := FileTree.exists_write_of_read reads (Utf8.encode
    (serialize ((parse text).set position { cell with directive := directive })))
  have retags : retag (parse text) position directive =
      .ok ((parse text).set position { cell with directive := directive }) := by
    rw [retag, tagging.found]
    exact if_pos (decide_eq_true tagging.code)
  have tags : tagged world document position directive = .ok { world with files := files } := by
    simp only [tagged, load, tagging.read, bind, Except.bind, retags, save, wrote]
  refine ⟨files, wrote, ?_⟩
  rw [tag, tagging.requested]
  dsimp only
  rw [tags]

/-- Where the command cannot be done it is refused, and nothing has changed. -/
theorem tag_cases (world : World) (document : Path) (position : Nat) (raw : Option Text) :
    ((tag world document position raw).refusal ≠ none ∧
        (tag world document position raw).world = world) ∨
      ∃ text directive cell, Tagging world document position raw text directive cell := by
  rw [tag]
  cases requested : requestedDirective raw with
  | error refusal => exact .inl ⟨nofun, rfl⟩
  | ok directive =>
    dsimp only
    cases tags : tagged world document position directive with
    | error cause => exact .inl ⟨nofun, rfl⟩
    | ok later =>
      obtain ⟨text, cell, read, found, code⟩ := exists_of_tagged tags
      exact .inr ⟨text, directive, cell, read, requested, found, code⟩

/-- A refused command changes nothing. Otherwise there is a code cell at the position, the file of
the document is the only one that has changed, and it is read as the same cells with the directive
that was asked for, exactly when the fence can say the directive, every cell is plain and every
output lasts. -/
theorem tag_comesBack_iff (world : World) (document : Path) (position : Nat) (raw : Option Text) :
    let response := tag world document position raw
    (response.refusal ≠ none → response.world = world) ∧
    (response.refusal = none ↔
      ∃ text directive cell, Tagging world document position raw text directive cell) ∧
    (∀ place ≠ document.resolved world.cwd,
      response.world.files.get? place = world.files.get? place) ∧
    ∀ text directive cell, Tagging world document position raw text directive cell →
      ∃ written, response.world.files.readText response.world.cwd document = .ok written ∧
        ((parse written).map account =
            ((parse text).set position { cell with directive := directive }).map account ↔
          Taggable cell directive ∧ ∀ other ∈ parse text, Plain other ∧ Lasting other) := by
  intro response
  have cases : response.refusal ≠ none ∧ response.world = world ∨
      ∃ text directive cell, Tagging world document position raw text directive cell :=
    tag_cases world document position raw
  have tagged : ∀ {text directive cell},
      Tagging world document position raw text directive cell → ∃ files, _ ∧ response = _ :=
    tag_of_tagging
  refine ⟨fun refused => ?_, ⟨fun done => ?_, ?_⟩, fun place other => ?_, ?_⟩
  · rcases cases with ⟨_, same⟩ | ⟨text, directive, cell, tagging⟩
    · exact same
    · obtain ⟨files, _, done⟩ := tagged tagging
      rw [done] at refused
      exact absurd rfl refused
  · exact cases.resolve_left fun refused => refused.1 done
  · rintro ⟨text, directive, cell, tagging⟩
    obtain ⟨files, _, done⟩ := tagged tagging
    rw [done]
    rfl
  · rcases cases with ⟨_, same⟩ | ⟨text, directive, cell, tagging⟩
    · rw [same]
    · obtain ⟨files, wrote, done⟩ := tagged tagging
      rw [done]
      exact FileTree.get?_write_of_ne wrote other
  · intro text directive cell tagging
    obtain ⟨files, wrote, done⟩ := tagged tagging
    rw [done]
    exact ⟨_, FileTree.readText_write wrote, retagged_comesBack_iff tagging.found tagging.code
      (exists_parse?_of_requestedDirective tagging.requested)⟩

/-- A world with nothing but a document. -/
def worldWith (text : Text) : World :=
  ⟨⟨[(["doc.md"], .file (Utf8.encode text) false)]⟩, [], []⟩

/-- A cell is skipped from now on. -/
theorem tag_comesBack_skip :
    let response := tag (worldWith "# A\n\n```sh\nx\n```\n") "doc.md" 1 (some "skip")
    ∃ written, response.world.files.readText response.world.cwd "doc.md" = .ok written ∧
      (parse written).map account =
        [account (Cell.prose "# A"),
          account { Cell.code "bash" "x" with directive := some .skip }] := by
  intro response
  have cells : parse "# A\n\n```sh\nx\n```\n" =
      [{ Cell.prose "# A" with leading := [] },
        { Cell.code "bash" "x" with trailing := ['\n'], info := some "sh" }] := by
    rw [parse_eq_read (by decide)]
    decide
  have tagging : Tagging (worldWith "# A\n\n```sh\nx\n```\n") "doc.md" 1 (some "skip")
      "# A\n\n```sh\nx\n```\n" (some .skip)
      { Cell.code "bash" "x" with trailing := ['\n'], info := some "sh" } :=
    ⟨by decide, by decide, by rw [cells]; rfl, rfl⟩
  obtain ⟨written, read, back⟩ := (tag_comesBack_iff _ "doc.md" 1 (some "skip")).2.2.2 _ _ _ tagging
  refine ⟨written, read, ?_⟩
  rw [back.mpr, cells]
  · rfl
  · rw [cells]
    exact ⟨⟨by decide, by decide⟩, by decide⟩

/-- Without its directive a fence that names no language is no fence. -/
theorem tag_none_nameless :
    let response := tag (worldWith "``` :skip\nx\n```\n") "doc.md" 0 (some "none")
    parse "``` :skip\nx\n```\n" = [{ Cell.code [] "x" with
        directive := some .skip, leading := [], trailing := ['\n'], info := some " :skip" }] ∧
      response.refusal = none ∧
      response.world.files.readText response.world.cwd "doc.md" = .ok ("```\nx\n```\n" : Text) ∧
      parse "```\nx\n```\n" =
        [{ Cell.prose "```\nx\n```" with leading := [], trailing := ['\n'] }] := by
  intro response
  have cells : parse "``` :skip\nx\n```\n" = [{ Cell.code [] "x" with
      directive := some .skip, leading := [], trailing := ['\n'], info := some " :skip" }] := by
    rw [parse_eq_read (by decide)]
    decide
  have tagging : Tagging (worldWith "``` :skip\nx\n```\n") "doc.md" 0 (some "none")
      "``` :skip\nx\n```\n" none { Cell.code [] "x" with
        directive := some .skip, leading := [], trailing := ['\n'], info := some " :skip" } :=
    ⟨by decide, by decide, by rw [cells]; rfl, rfl⟩
  obtain ⟨files, wrote, done⟩ := tag_of_tagging tagging
  have done : response = _ := done
  have read := FileTree.readText_write wrote
  have written : serialize ((parse "``` :skip\nx\n```\n").set 0 { Cell.code [] "x" with
      directive := none, leading := [], trailing := ['\n'], info := some " :skip" }) =
        ("```\nx\n```\n" : Text) := by
    rw [cells]
    decide
  refine ⟨cells, by rw [done]; rfl, ?_, ?_⟩
  · rw [done]
    exact read.trans (congrArg Except.ok written)
  · rw [parse_eq_read (by decide)]
    decide

end Notebook.CommandLine
