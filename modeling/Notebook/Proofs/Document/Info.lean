import Notebook.Document.Writer
import Notebook.Proofs.Text.Trim

/-! # Info texts

The info text of a code cell says its language and its directive. Whatever text is stored, the info
text that is written is split into a tag of the cell's language and its directive, as long as the
language is one that a tag can name and the directive is one that can be read.
-/

namespace Notebook

open Text

/-! ## Languages -/

theorem tagOfLanguage_cases (language : Text) :
    tagOfLanguage language = language ∨ (tagOfLanguage language, language) ∈ languageTags := by
  rw [tagOfLanguage]
  cases found : languageTags.find? (·.2 = language) with
  | none => exact .inl rfl
  | some entry =>
    have named := List.find?_some found
    simp only [decide_eq_true_eq] at named
    subst named
    exact .inr (List.mem_of_find?_eq_some found)

/-- The tag that is written for a language names it. -/
theorem languageOfTag_tagOfLanguage {language : Text}
    (canonical : languageOfTag language = language) :
    languageOfTag (tagOfLanguage language) = language := by
  rcases tagOfLanguage_cases language with same | entry
  · rw [same, canonical]
  · have table : ∀ entry ∈ languageTags, languageOfTag entry.1 = entry.2 := by decide
    exact table _ entry

/-- What holds of the language and of the abbreviations holds of the tag. -/
theorem tagOfLanguage_induction {p : Text → Prop} {language : Text} (self : p language)
    (table : ∀ entry ∈ languageTags, p entry.1) : p (tagOfLanguage language) := by
  rcases tagOfLanguage_cases language with same | entry
  · rwa [same]
  · exact table _ entry

theorem languageOfTag_cases (tag : Text) :
    languageOfTag tag = tag ∨ (tag, languageOfTag tag) ∈ languageTags := by
  rw [languageOfTag]
  cases found : languageTags.find? (·.1 = tag) with
  | none => exact .inl rfl
  | some entry =>
    have named := List.find?_some found
    simp only [decide_eq_true_eq] at named
    subst named
    exact .inr (List.mem_of_find?_eq_some found)

/-- A language names itself. -/
theorem languageOfTag_languageOfTag (tag : Text) :
    languageOfTag (languageOfTag tag) = languageOfTag tag := by
  rcases languageOfTag_cases tag with same | entry
  · rw [same, same]
  · have table : ∀ entry ∈ languageTags, languageOfTag entry.2 = entry.2 := by decide
    exact table _ entry

/-- What holds of the tag and of the languages of the table holds of the language. -/
theorem languageOfTag_induction {p : Text → Prop} {tag : Text} (self : p tag)
    (table : ∀ entry ∈ languageTags, p entry.2) : p (languageOfTag tag) := by
  rcases languageOfTag_cases tag with same | entry
  · rwa [same]
  · exact table _ entry

/-! ## Directives -/

namespace Directive

theorem parse?_trim (raw : Text) : parse? raw.trim = parse? raw := by
  rw [parse?, trim_trim]
  rfl

theorem parse?_create {file : Text} (filled : file ≠ []) (trimmed : file.trim = file) :
    parse? ("create=" ++ file) = some (.create file) := by
  have written : ("create=" ++ file : Text) = 'c' :: "reate=" ++ file := rfl
  have whole : trim ("create=" ++ file) = "create=" ++ file := by
    rw [written]
    exact trim_append (by decide) filled (trimEnd_eq_self_of_trim trimmed)
  have other : ∀ keyword ∈ (["restart", "global", "skip", "once", "clear"] : List String),
      ("create=" ++ file : Text) ≠ keyword := by
    intro keyword member same
    have second : some 'r' = (keyword.toList)[1]? := congrArg (·[1]?) same
    clear same
    revert keyword
    decide
  have cut : cut? '=' ("create=" ++ file) = some (("create" : Text), file) :=
    @cut?_append '=' "create" (by decide) file
  have name : trim "create" = "create" := by decide
  simp only [parse?, whole, cut, name, trimmed]
  rw [if_neg (show ("create=" ++ file : Text) ≠ [] from List.cons_ne_nil 'c' _),
    if_neg (other "restart" (by decide)), if_neg (other "global" (by decide)),
    if_neg (other "skip" (by decide)), if_neg (other "once" (by decide)),
    if_neg (other "clear" (by decide)), if_pos ⟨trivial, filled⟩]

/-- What can be read is written in a form that is read the same. -/
theorem parse?_render {raw : Text} {directive : Directive} (parsed : parse? raw = some directive) :
    parse? directive.render = some directive := by
  have again := parsed
  simp only [parse?] at parsed
  split_ifs at parsed
  · cases parsed; decide
  · cases parsed; decide
  · cases parsed; decide
  · cases parsed; decide
  · cases parsed; decide
  · split at parsed
    · next name file found =>
      split_ifs at parsed with named
      · cases parsed
        exact parse?_create named.2 (trim_trim file)
      · cases parsed
        rw [← parse?_trim] at again
        exact again
    · cases parsed
      rw [← parse?_trim] at again
      exact again

/-- A directive is written with the characters that it was read from. -/
theorem newline_not_mem_render {raw : Text} {directive : Directive}
    (parsed : parse? raw = some directive) (absent : '\n' ∉ raw) : '\n' ∉ directive.render := by
  have trimmed : '\n' ∉ raw.trim := fun member => absent ((trim_sublist raw).subset member)
  simp only [parse?] at parsed
  split_ifs at parsed
  · cases parsed; decide
  · cases parsed; decide
  · cases parsed; decide
  · cases parsed; decide
  · cases parsed; decide
  · split at parsed
    · next name file found =>
      split_ifs at parsed
      · cases parsed
        have whole : '\n' ∉ file.trim := fun member => trimmed <| by
          rw [(cut?_eq_some_iff.mp found).1]
          exact List.mem_append_right _ (List.mem_cons_of_mem _ ((trim_sublist file).subset member))
        exact List.not_mem_append (by decide) whole
      · cases parsed
        exact trimmed
    · cases parsed
      exact trimmed

end Directive

/-! ## Tags and directives together -/

/-- The tag of an info text is trimmed and has none of the marks that it is cut at. -/
theorem Fence.splitInfo_tag (info : Text) :
    (splitInfo info).1.trim = (splitInfo info).1 ∧ ':' ∉ (splitInfo info).1 ∧
      (splitInfo info).1 ⊆ info := by
  rw [splitInfo]
  cases found : cut? ':' info with
  | none =>
    exact ⟨trim_trim info, fun member => cut?_eq_none_iff.mp found ((trim_sublist info).subset member),
      (trim_sublist info).subset⟩
  | some parts =>
    obtain ⟨tag, raw⟩ := parts
    obtain ⟨rfl, absent⟩ := cut?_eq_some_iff.mp found
    exact ⟨trim_trim tag, fun member => absent ((trim_sublist tag).subset member),
      fun _ member => List.mem_append_left _ ((trim_sublist tag).subset member)⟩

/-- The directive of an info text is read from a part of it. -/
theorem Fence.parse?_of_splitInfo {info : Text} {directive : Directive}
    (asks : (splitInfo info).2 = some directive) :
    ∃ raw, Directive.parse? raw = some directive ∧ raw ⊆ info := by
  rw [splitInfo] at asks
  cases found : cut? ':' info with
  | none => rw [found] at asks; cases asks
  | some parts =>
    obtain ⟨tag, raw⟩ := parts
    obtain ⟨rfl, _⟩ := cut?_eq_some_iff.mp found
    rw [found] at asks
    exact ⟨raw, asks, fun _ member => List.mem_append_right _ (List.mem_cons_of_mem _ member)⟩

theorem Fence.splitInfo_of_not_mem {info : Text} (absent : ':' ∉ info) :
    Fence.splitInfo info = (info.trim, none) := by
  rw [Fence.splitInfo, cut?_eq_none_iff.mpr absent]

theorem Fence.splitInfo_append {tag : Text} (absent : ':' ∉ tag) (raw : Text) :
    Fence.splitInfo (tag ++ ':' :: raw) = (tag.trim, Directive.parse? raw) := by
  rw [Fence.splitInfo, cut?_append absent]

/-- A carriage return at the end makes no difference. -/
theorem Fence.splitInfo_dropReturn (info : Text) :
    Fence.splitInfo (dropReturn info) = Fence.splitInfo info := by
  rcases dropReturn_cases info with same | split
  · rw [same]
  · conv_rhs => rw [split, Fence.splitInfo, cut?_concat (by decide)]
    rw [Fence.splitInfo]
    cases cut? ':' (dropReturn info) with
    | none => rw [Option.map_none, trim_concat (by decide)]
    | some parts =>
      obtain ⟨tag, raw⟩ := parts
      have same : Directive.parse? (raw ++ ['\r']) = Directive.parse? raw := by
        rw [← Directive.parse?_trim, trim_concat (by decide), Directive.parse?_trim]
      exact congrArg (Prod.mk tag.trim) same.symm

namespace Document

/-- An info text can say the language and the directive of the cell. -/
structure Nameable (cell : Cell) : Prop where
  language : ∃ language, cell.language = some language ∧ languageOfTag language = language ∧
    language.trim = language ∧ ':' ∉ language
  directive : ∀ directive, cell.directive = some directive →
    ∃ raw, Directive.parse? raw = some directive

theorem infoDescribes_iff {cell : Cell} {info : Text} :
    infoDescribes cell info = true ↔
      languageOfTag (Fence.splitInfo info).1 = cell.language.getD [] ∧
        (Fence.splitInfo info).2 = cell.directive := by
  rw [infoDescribes, decide_eq_true_eq]

/-- The info text built for a cell describes it. -/
theorem infoDescribes_freshInfo {cell : Cell} (nameable : Nameable cell) :
    infoDescribes cell (freshInfo cell) = true := by
  obtain ⟨language, named, canonical, trimmed, absent⟩ := nameable.language
  have tag_trimmed : (tagOfLanguage language).trim = tagOfLanguage language :=
    tagOfLanguage_induction (p := fun tag => tag.trim = tag) trimmed (by decide)
  have tag_absent : ':' ∉ tagOfLanguage language :=
    tagOfLanguage_induction (p := fun tag => ':' ∉ tag) absent (by decide)
  rw [infoDescribes_iff, freshInfo, named, Option.getD_some]
  cases read : cell.directive with
  | none =>
    dsimp only
    rw [List.append_nil, Fence.splitInfo_of_not_mem tag_absent, tag_trimmed]
    exact ⟨languageOfTag_tagOfLanguage canonical, rfl⟩
  | some directive =>
    obtain ⟨raw, parsed⟩ := nameable.directive directive read
    have split : tagOfLanguage language ++ (" :" ++ directive.render) =
        (tagOfLanguage language ++ [' ']) ++ ':' :: directive.render := by
      rw [List.append_assoc]
      rfl
    dsimp only
    rw [split, Fence.splitInfo_append, trim_concat (by decide), tag_trimmed,
      Directive.parse?_render parsed]
    · exact ⟨languageOfTag_tagOfLanguage canonical, rfl⟩
    · rw [List.mem_append, not_or]
      exact ⟨tag_absent, by decide⟩

theorem infoDescribes_writtenInfo {cell : Cell} (nameable : Nameable cell) :
    infoDescribes cell (writtenInfo cell) = true := by
  rw [writtenInfo]
  cases cell.info with
  | none => exact infoDescribes_freshInfo nameable
  | some info =>
    dsimp only
    split_ifs with describes
    · exact describes
    · exact infoDescribes_freshInfo nameable

/-- An info text that says something is not blank. -/
theorem isBlank_of_infoDescribes {cell : Cell} {info : Text}
    (describes : infoDescribes cell info = true)
    (filled : cell.language.getD [] ≠ [] ∨ cell.directive ≠ none) : info.isBlank = false := by
  rw [Bool.eq_false_iff]
  intro blank
  have absent : ':' ∉ info := fun member => by
    have visible := List.all_eq_true.mp blank ':' member
    revert visible
    decide
  rw [infoDescribes_iff, Fence.splitInfo_of_not_mem absent, trim_eq_nil_iff.mpr blank] at describes
  rcases filled with language | directive
  · exact language (describes.1.symm.trans (by decide))
  · exact directive describes.2.symm

/-- A code cell is written behind a fence line with its info text. -/
theorem opener_prefix_cellText {cell : Cell} (isCode : cell.isCode = true) :
    Fence.Opener.render ⟨cell.indent, writtenInfo cell⟩ ++ ['\n'] <+: cellText cell := by
  rw [Cell.isCode, decide_eq_true_eq] at isCode
  rw [cellText, isCode]
  dsimp only
  rw [fenced, Fence.Opener.render]
  simp only [List.append_assoc, List.prefix_append_right_inj, List.prefix_append]

/-- The fence line that is written for a code cell is split into a tag of the cell's language and
the cell's directive, whatever info text is stored, since a directive that can be read is written in
a form that is read the same. -/
theorem splitInfo_writtenInfo {cell : Cell} {language : Text} (isCode : cell.isCode = true)
    (named : cell.language = some language) (canonical : languageOfTag language = language)
    (trimmed : language.trim = language) (absent : ':' ∉ language)
    (readable : ∀ directive, cell.directive = some directive →
      ∃ raw, Directive.parse? raw = some directive) :
    Fence.Opener.render ⟨cell.indent, writtenInfo cell⟩ ++ ['\n'] <+: cellText cell ∧
      (∃ tag, Fence.splitInfo (writtenInfo cell) = (tag, cell.directive) ∧
        languageOfTag tag = language) ∧
      ∀ raw directive, Directive.parse? raw = some directive →
        Directive.parse? directive.render = some directive := by
  have nameable : Nameable cell := ⟨⟨language, named, canonical, trimmed, absent⟩, readable⟩
  have describes := infoDescribes_iff.mp (infoDescribes_writtenInfo nameable)
  rw [named, Option.getD_some] at describes
  exact ⟨opener_prefix_cellText isCode, ⟨_, Prod.ext rfl describes.2, describes.1⟩,
    fun raw directive parsed => Directive.parse?_render parsed⟩

/-- A cell that got another language and a file name with both marks in it, behind a stale info. -/
theorem splitInfo_writtenInfo_renamed :
    let cell : Cell := { Cell.code "bash" "ls" with
      directive := some (.create "a=b:c.sh"), info := some "zsh:create=d" }
    languageOfTag "bash" = "bash" ∧ Text.trim "bash" = "bash" ∧ ':' ∉ ("bash" : Text) ∧
      Directive.parse? " create = a=b:c.sh " = some (.create "a=b:c.sh") ∧
      writtenInfo cell = "sh :create=a=b:c.sh" ∧
      ∃ tag, Fence.splitInfo (writtenInfo cell) = (tag, some (.create "a=b:c.sh")) ∧
        languageOfTag tag = "bash" := by
  intro cell
  have readable : Directive.parse? " create = a=b:c.sh " = some (.create "a=b:c.sh") := by decide
  have describes := splitInfo_writtenInfo (show cell.isCode = true from rfl)
    (show cell.language = some "bash" from rfl) (by decide) (by decide) (by decide)
    fun directive asks => ⟨_, readable.trans asks⟩
  exact ⟨by decide, by decide, by decide, readable, by decide, describes.2.1⟩

end Document

end Notebook
