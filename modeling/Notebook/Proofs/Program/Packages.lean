import Mathlib.Data.Char
import Mathlib.Data.List.Lex
import Mathlib.Data.List.Sort
import Notebook.Proofs.Program.Influence
import Notebook.Proofs.Text.Phrase
import Notebook.Proofs.Text.Trim

/-! # Packages of a Rust program

The packages of a program are the roots of the paths that its cells import, each once and sorted, so
that neither the order of the cells nor of their lines matters. A root is no package if it is built
in or capitalized, or if a line declares a module or an enumeration of that name with no visibility
or with `pub`. A declaration that is visible in part of the program only, as with `pub(crate)`, is
not seen.
-/

namespace Notebook

/-! ## Identifiers at the start of a text -/

theorem isIdentifierChar_of_isBlank {c : Char} (blank : isBlank c = true) :
    isIdentifierChar c = false := by
  have table : ∀ n ∈ [9, 10, 11, 12, 13, 0x20, 0x85, 0xA0, 0x1680, 0x2000, 0x2001, 0x2002, 0x2003,
      0x2004, 0x2005, 0x2006, 0x2007, 0x2008, 0x2009, 0x200A, 0x2028, 0x2029, 0x202F, 0x205F,
      0x3000], isIdentifierChar (Char.ofNat n) = false := by
    decide +kernel
  rw [← Char.ofNat_toNat c]
  apply table
  simp only [isBlank, Bool.or_eq_true, Bool.and_eq_true, decide_eq_true_eq, beq_iff_eq] at blank
  simp only [List.mem_cons, List.not_mem_nil, or_false]
  omega

namespace Rust

/-- The text starts with this identifier, which ends there. A raw identifier `r#name` starts with
the identifier `r`. -/
structure StartsWith (text name : Text) : Prop where
  filled : name ≠ []
  isName : ∀ c ∈ name, isIdentifierChar c = true
  ends : ∃ behind, text = name ++ behind ∧ ∀ c ∈ behind.head?, isIdentifierChar c = false

theorem startsWith_iff {text name : Text} :
    StartsWith text name ↔ identifier text = name ∧ name ≠ [] := by
  constructor
  · rintro ⟨filled, isName, behind, rfl, ends⟩
    refine ⟨?_, filled⟩
    rw [identifier, List.takeWhile_append_of_pos isName]
    cases behind with
    | nil => simp
    | cons c behind => rw [List.takeWhile_cons_of_neg (by simp [ends c rfl]), List.append_nil]
  · rintro ⟨rfl, filled⟩
    refine ⟨filled, fun c member => List.mem_takeWhile_imp member, _,
      List.takeWhile_append_dropWhile.symm, fun c first => ?_⟩
    have stops := List.head?_dropWhile_not isIdentifierChar text
    rw [Option.mem_def.mp first] at stops
    simpa using stops

theorem StartsWith.exists_cons {text name : Text} (starts : StartsWith text name) :
    ∃ c rest, text = c :: rest ∧ isIdentifierChar c = true := by
  obtain ⟨filled, isName, behind, rfl, _⟩ := starts
  obtain ⟨c, name, rfl⟩ := List.exists_cons_of_ne_nil filled
  exact ⟨c, name ++ behind, rfl, isName c (List.mem_cons_self ..)⟩

/-! ## Lines that import -/

/-- What may stand ahead of the keyword of an import. -/
def importVisibilities : List Text := ["", "pub ", "pub(crate) "]

def importKeywords : List Text := ["use ", "extern crate "]

/-- A path that starts with this identifier stands behind blanks and `::`. -/
def LeadsTo (text root : Text) : Prop :=
  ∃ (gap : Text) (marks : Nat) (path : Text),
    text = gap ++ ((List.replicate marks ("::" : Text)).flatten ++ path) ∧
      gap.isBlank = true ∧ StartsWith path root

/-- The line imports a path that starts with this identifier. -/
def Imports (line root : Text) : Prop :=
  ∃ visibility ∈ importVisibilities, ∃ keyword ∈ importKeywords, ∃ text,
    line = visibility ++ (keyword ++ text) ∧ LeadsTo text root

theorem Imports.ne_nil {line root : Text} (imports : Imports line root) : root ≠ [] := by
  obtain ⟨_, _, _, _, _, _, _, _, _, _, _, starts⟩ := imports
  exact starts.filled

/-- What the line says behind its visibility. -/
def unqualified (line : Text) : Text :=
  ((("pub " : Text).isPrefixOf? line).or (("pub(crate) " : Text).isPrefixOf? line)).getD line

theorem exists_unqualified (line : Text) :
    ∃ visibility ∈ importVisibilities, line = visibility ++ unqualified line := by
  rw [unqualified]
  cases anyone : ("pub " : Text).isPrefixOf? line with
  | some rest =>
    exact ⟨"pub ", by decide, (List.isPrefixOf?_eq_some_iff_append_eq.mp anyone).symm⟩
  | none =>
    cases crate : ("pub(crate) " : Text).isPrefixOf? line with
    | some rest =>
      exact ⟨"pub(crate) ", by decide, (List.isPrefixOf?_eq_some_iff_append_eq.mp crate).symm⟩
    | none => exact ⟨"", by decide, rfl⟩

/-- The path that a line imports. -/
def importedPath? (line : Text) : Option Text :=
  (("use " : Text).isPrefixOf? line).or (("extern crate " : Text).isPrefixOf? line)

theorem importedPath?_eq_some_iff {line path : Text} :
    importedPath? line = some path ↔ ∃ keyword ∈ importKeywords, line = keyword ++ path := by
  rw [importedPath?, Option.or_eq_some_iff, List.isPrefixOf?_eq_some_iff_append_eq,
    List.isPrefixOf?_eq_some_iff_append_eq]
  simp only [importKeywords, List.mem_cons, List.not_mem_nil, or_false, exists_eq_or_imp,
    exists_eq_left]
  constructor
  · rintro (rfl | ⟨_, rfl⟩)
    · exact .inl rfl
    · exact .inr rfl
  · rintro (rfl | rfl)
    · exact .inl rfl
    · exact .inr ⟨rfl, rfl⟩

theorem unqualified_append {visibility keyword : Text}
    (isVisibility : visibility ∈ importVisibilities) (isKeyword : keyword ∈ importKeywords)
    (text : Text) : unqualified (visibility ++ (keyword ++ text)) = keyword ++ text := by
  simp only [importVisibilities, importKeywords, List.mem_cons, List.not_mem_nil,
    or_false] at isVisibility isKeyword
  rcases isVisibility with rfl | rfl | rfl <;> rcases isKeyword with rfl | rfl <;> rfl

/-- The root of a path, which may stand behind blanks and `::`. -/
def pathRoot? (path : Text) : Option Text :=
  let root := identifier (Text.dropLeading path.trimStart "::")
  if root = [] then none else some root

/-- A path starts neither with a colon nor with a blank, so nothing of it is taken off. -/
theorem StartsWith.apart {path root : Text} (starts : StartsWith path root) :
    ("::" : Text).isPrefixOf? path = none := by
  obtain ⟨c, rest, rfl, isName⟩ := starts.exists_cons
  apply Text.isPrefixOf?_cons_of_ne (c := ':')
  rintro rfl
  exact absurd isName (by decide)

theorem StartsWith.trimStart_append {path root : Text} (starts : StartsWith path root)
    (marks : Nat) : Text.trimStart ((List.replicate marks ("::" : Text)).flatten ++ path) =
      (List.replicate marks ("::" : Text)).flatten ++ path := by
  cases marks with
  | zero =>
    obtain ⟨c, rest, rfl, isName⟩ := starts.exists_cons
    refine List.dropWhile_cons_of_neg fun blank => ?_
    rw [isIdentifierChar_of_isBlank blank] at isName
    cases isName
  | succ marks => exact List.dropWhile_cons_of_neg (by decide)

theorem pathRoot?_eq_some_iff {text root : Text} :
    pathRoot? text = some root ↔ LeadsTo text root := by
  rw [pathRoot?]
  constructor
  · intro found
    obtain ⟨filled, same⟩ := Option.ite_none_left_eq_some.mp found
    obtain ⟨marks, split⟩ := Text.exists_dropRepeated "::" text.trimStart.length text.trimStart
    refine ⟨text.takeWhile isBlank, marks, _, ?_, Text.isBlank_takeWhile text,
      startsWith_iff.mpr ⟨Option.some_inj.mp same, Option.some_inj.mp same ▸ filled⟩⟩
    exact List.takeWhile_append_dropWhile.symm.trans (congrArg (text.takeWhile isBlank ++ ·) split)
  · rintro ⟨gap, marks, path, rfl, blank, starts⟩
    obtain ⟨same, filled⟩ := startsWith_iff.mp starts
    rw [Text.trimStart_append blank, starts.trimStart_append,
      Text.dropLeading_append starts.apart (by decide)]
    simp only [same, if_neg filled]

theorem usedRoot?_eq_bind (line : Text) :
    usedRoot? line = (importedPath? (unqualified line)).bind pathRoot? := by
  rw [usedRoot?]
  cases imported : importedPath? (unqualified line) with
  | none =>
    rw [importedPath?, unqualified] at imported
    simp only [imported, Option.bind_none]
  | some path =>
    rw [importedPath?, unqualified] at imported
    simp only [imported, Option.bind_some, pathRoot?]

/-- The root that is read off a line is that of the path that the line imports. -/
theorem usedRoot?_eq_some_iff {line root : Text} :
    usedRoot? line = some root ↔ Imports line root := by
  rw [usedRoot?_eq_bind, Option.bind_eq_some_iff]
  constructor
  · rintro ⟨text, imported, isRoot⟩
    obtain ⟨visibility, isVisibility, whole⟩ := exists_unqualified line
    obtain ⟨keyword, isKeyword, behind⟩ := importedPath?_eq_some_iff.mp imported
    exact ⟨visibility, isVisibility, keyword, isKeyword, text, behind ▸ whole,
      pathRoot?_eq_some_iff.mp isRoot⟩
  · rintro ⟨visibility, isVisibility, keyword, isKeyword, text, rfl, leads⟩
    rw [unqualified_append isVisibility isKeyword]
    exact ⟨text, importedPath?_eq_some_iff.mpr ⟨keyword, isKeyword, rfl⟩,
      pathRoot?_eq_some_iff.mpr leads⟩

/-! ## Lines that declare -/

/-- Who may use what a line declares. -/
inductive Visibility where
  /-- The module that holds the declaration. -/
  | inherited
  /-- Everyone: `pub`. -/
  | anyone
  /-- The program: `pub(crate)`. -/
  | crate
  /-- The module around that of the declaration: `pub(super)`. -/
  | parent
  deriving DecidableEq, Repr

/-- The visibility as it stands ahead of a declaration. -/
def Visibility.words : Visibility → List Text
  | .inherited => []
  | .anyone => ["pub"]
  | .crate => ["pub(crate)"]
  | .parent => ["pub(super)"]

/-- Part of the program may use the declaration, as is said in parentheses. -/
def Visibility.isRestricted : Visibility → Bool
  | .inherited | .anyone => false
  | .crate | .parent => true

/-- The line declares a module or an enumeration by a word that starts with this name. -/
def Declares (line : Text) (visibility : Visibility) (name : Text) : Prop :=
  ∃ keyword ∈ (["mod", "enum"] : List Text), ∃ word rest,
    line.words = visibility.words ++ keyword :: word :: rest ∧ StartsWith word name

/-- The name that is read off a line is that of a declaration with no visibility or with `pub`. -/
theorem localName?_eq_some_iff {line name : Text} (filled : name ≠ []) :
    localName? line = some name ↔
      ∃ visibility : Visibility, visibility.isRestricted = false ∧
        Declares line visibility name := by
  rw [localName?]
  constructor
  · intro found
    split at found
    next kind second rest words =>
      split_ifs at found with isPub isKeyword isKeyword
      · obtain ⟨word, first, same⟩ := Option.map_eq_some_iff.mp found
        obtain ⟨rest, rfl⟩ := List.head?_eq_some_iff.mp first
        subst isPub
        exact ⟨.anyone, rfl, second, by simpa using isKeyword, word, rest, words,
          startsWith_iff.mpr ⟨same, filled⟩⟩
      · exact ⟨.inherited, rfl, kind, by simpa using isKeyword, second, rest, words,
          startsWith_iff.mpr ⟨Option.some_inj.mp found, filled⟩⟩
    next => cases found
  · rintro ⟨visibility, isOpen, keyword, isKeyword, word, rest, words, starts⟩
    have same := (startsWith_iff.mp starts).1
    rw [words]
    simp only [List.mem_cons, List.not_mem_nil, or_false] at isKeyword
    cases visibility with
    | inherited =>
      have other : keyword ≠ ("pub" : Text) := by
        rcases isKeyword with rfl | rfl <;> decide
      simp only [Visibility.words, List.nil_append, if_neg other, if_pos isKeyword, same]
    | anyone =>
      simp only [Visibility.words, List.cons_append, List.nil_append, if_pos isKeyword,
        List.head?_cons, Option.map_some, same, if_true]
    | crate | parent => cases isOpen

/-! ## Sorted names -/

section Sorted

variable {name other : Text} {names : List Text}

theorem mem_insertSorted : other ∈ insertSorted name names ↔ other = name ∨ other ∈ names := by
  induction names with
  | nil => simp [insertSorted]
  | cons first rest ih =>
    rw [insertSorted]
    split_ifs with same below
    · rw [same, List.mem_cons, ← or_assoc, or_self]
    · exact List.mem_cons
    · rw [List.mem_cons, ih, List.mem_cons, or_left_comm]

theorem pairwise_insertSorted (sorted : names.Pairwise (· < ·)) :
    (insertSorted name names).Pairwise (· < ·) := by
  induction names with
  | nil => exact List.pairwise_singleton _ _
  | cons first rest ih =>
    obtain ⟨least, sortedRest⟩ := List.pairwise_cons.mp sorted
    rw [insertSorted]
    split_ifs with same below
    · exact sorted
    · refine List.pairwise_cons.mpr ⟨fun other member => ?_, sorted⟩
      rcases List.mem_cons.mp member with rfl | later
      · exact below
      · exact lt_trans below (least other later)
    · refine List.pairwise_cons.mpr ⟨fun other member => ?_, ih sortedRest⟩
      rcases mem_insertSorted.mp member with rfl | later
      · exact lt_of_le_of_ne (not_lt.mp below) (Ne.symm same)
      · exact least other later

theorem mem_foldr_insertSorted : name ∈ names.foldr insertSorted [] ↔ name ∈ names := by
  induction names with
  | nil => rfl
  | cons first rest ih => rw [List.foldr_cons, mem_insertSorted, ih, List.mem_cons]

theorem pairwise_foldr_insertSorted (names : List Text) :
    (names.foldr insertSorted []).Pairwise (· < ·) := by
  induction names with
  | nil => exact .nil
  | cons first rest ih => exact pairwise_insertSorted ih

end Sorted

/-! ## Packages of cells -/

section

variable {contents others : List Text} {name : Text}

theorem pairwise_packages (contents : List Text) : (packages contents).Pairwise (· < ·) :=
  (pairwise_foldr_insertSorted _).filter _

theorem mem_packages :
    name ∈ packages contents ↔
      (∃ line ∈ contents.flatMap maskedLines, Imports line name) ∧ name ∉ builtinRoots ∧
        (∀ c ∈ name.head?, isUppercase c = false) ∧
        ∀ line ∈ contents.flatMap maskedLines, ∀ visibility, Declares line visibility name →
          visibility.isRestricted = true := by
  have imported :
      name ∈ ((contents.flatMap maskedLines).filterMap usedRoot?).foldr insertSorted [] ↔
        ∃ line ∈ contents.flatMap maskedLines, Imports line name := by
    rw [mem_foldr_insertSorted, List.mem_filterMap]
    exact exists_congr fun line => and_congr_right fun _ => usedRoot?_eq_some_iff
  rw [packages, List.mem_filter, imported]
  refine and_congr_right fun ⟨_, _, imports⟩ => ?_
  have declared : name ∈ (contents.flatMap maskedLines).filterMap localName? ↔
      ∃ line ∈ contents.flatMap maskedLines, ∃ visibility : Visibility,
        visibility.isRestricted = false ∧ Declares line visibility name := by
    rw [List.mem_filterMap]
    exact exists_congr fun line => and_congr_right fun _ => localName?_eq_some_iff imports.ne_nil
  rw [Bool.and_eq_true, Bool.and_eq_true, and_assoc]
  refine and_congr ?_ (and_congr ?_ ?_)
  · rw [Bool.not_eq_true', ← Bool.not_eq_true, List.contains_iff_mem]
  · cases name.head? <;> simp
  · rw [Bool.not_eq_true', ← Bool.not_eq_true, List.contains_iff_mem, declared]
    constructor
    · intro absent line member visibility declares
      by_contra isOpen
      exact absent ⟨line, member, visibility, Bool.not_eq_true _ ▸ isOpen, declares⟩
    · rintro restricted ⟨line, member, visibility, isOpen, declares⟩
      rw [restricted line member visibility declares] at isOpen
      cases isOpen

/-- Only the contents that there are make a difference, in whatever order. -/
theorem packages_congr (same : ∀ content, content ∈ contents ↔ content ∈ others) :
    packages contents = packages others := by
  apply (pairwise_packages contents).eq_of_mem_iff (pairwise_packages others)
  intro name
  have lines : ∀ line, line ∈ contents.flatMap maskedLines ↔ line ∈ others.flatMap maskedLines := by
    intro line
    simp only [List.mem_flatMap, same]
  simp only [mem_packages, lines]

end

end Rust

/-! ## Packages of a program -/

namespace Program

/-- The packages of a Rust program are sorted, each once, and depend on nothing but which contents
the contributing cells have. They are the identifiers that start the paths which the lines of such
cells import, if they are neither built in nor capitalized, and no line declares a module or an
enumeration of that name but with `pub(crate)` or `pub(super)`. -/
theorem build_packages (context : ProgramContext) (history : History) :
    let packages := (build .rust context history).dependencies
    let lines := (contributed history.plan).flatMap Rust.maskedLines
    packages.Pairwise (· < ·) ∧
      (∀ other : History,
        (∀ content, content ∈ contributed history.plan ↔ content ∈ contributed other.plan) →
          (build .rust context other).dependencies = packages) ∧
      ∀ name, name ∈ packages ↔
        (∃ line ∈ lines, Rust.Imports line name) ∧ name ∉ Rust.builtinRoots ∧
          (∀ c ∈ name.head?, isUppercase c = false) ∧
          ∀ line ∈ lines, ∀ visibility, Rust.Declares line visibility name →
            visibility.isRestricted = true := by
  intro packages lines
  refine ⟨Rust.pairwise_packages _, fun other same => ?_, fun name => Rust.mem_packages⟩
  exact Rust.packages_congr fun content => (same content).symm

/-- Two cells in either order, with a cell between them that is left out. -/
theorem build_packages_reordered :
    let random : Text := "use rand::Rng;"
    let shapes : Text :=
      "pub mod shapes \x7b pub fn area() \x7b\x7d \x7d\nuse shapes::area;\nuse ::serde::Serialize;"
    let history := History.ofSources [(random, none), (shapes, none)]
    let other := History.ofSources
      [(shapes, some .global), ("use left::Out;", some .skip), (random, none)]
    (∀ content, content ∈ contributed history.plan ↔ content ∈ contributed other.plan) ∧
      (build .rust ⟨"/w", none⟩ other).dependencies =
        (build .rust ⟨"/w", none⟩ history).dependencies ∧
      (build .rust ⟨"/w", none⟩ history).dependencies = (["rand", "serde"] : List Text) := by
  intro random shapes history other
  have contents : contributed history.plan = [random, shapes] := by decide
  have otherContents : contributed other.plan = [shapes, random] := by decide
  have same : ∀ content, content ∈ contributed history.plan ↔ content ∈ contributed other.plan := by
    intro content
    rw [contents, otherContents]
    exact (List.Perm.swap shapes random []).mem_iff
  exact ⟨same, (build_packages ⟨"/w", none⟩ history).2.1 other same, by decide +kernel⟩

/-- A module that is declared with `pub(crate)` becomes a package, and so does the mark of a raw
identifier. -/
theorem build_packages_restricted :
    let declared : Text := "mod shapes \x7b pub fn area() \x7b\x7d \x7d"
    let content : Text := "pub(crate) " ++ declared ++ "\nuse shapes::area;"
    let raw : Text := declared ++ "\nuse r#shapes::area;"
    let history := History.ofSources [(content, none)]
    content ∈ contributed history.plan ∧
      (∃ line ∈ Rust.maskedLines content, Rust.Declares line .crate "shapes") ∧
      (build .rust ⟨"/w", none⟩ history).dependencies = (["shapes"] : List Text) ∧
      (build .rust ⟨"/w", none⟩ (History.ofSources [(raw, none)])).dependencies =
        (["r"] : List Text) := by
  intro declared content raw history
  refine ⟨by decide +kernel, ⟨"pub(crate) " ++ declared, by decide +kernel, "mod", by decide,
    "shapes", ["\x7b", "pub", "fn", "area()", "\x7b\x7d", "\x7d"], by decide +kernel, ?_⟩,
    by decide +kernel, by decide +kernel⟩
  exact Rust.startsWith_iff.mpr ⟨by decide +kernel, by decide⟩

end Program

end Notebook
