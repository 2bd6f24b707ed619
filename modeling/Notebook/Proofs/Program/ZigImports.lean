import Notebook.Program.Zig
import Notebook.Proofs.Program.Imports
import Notebook.Proofs.Text.Words

/-! # Imports of a Zig cell

A declaration of `std` may be written with blanks between any two of its tokens. The program looks
for one by its first words, so it finds those with blanks on both sides of the equals sign and no
others.
-/

namespace Notebook.Zig

/-- A declaration of `std` as it is written. -/
structure StandardImport where
  /-- `pub` and the blanks behind it, or nothing. -/
  visibility : Text
  constGap : Text
  nameGap : Text
  equalsGap : Text
  importGap : Text
  openGap : Text
  pathGap : Text
  closeGap : Text
  /-- What follows the semicolon on its line. -/
  behind : Text
  isVisibility : visibility = [] ∨ ∃ gap : Text, visibility = "pub" ++ gap ∧ gap.isBlank = true ∧
    gap ≠ []
  isSpacing : ∀ gap ∈ [constGap, nameGap, equalsGap, importGap, openGap, pathGap, closeGap],
    Text.isBlank gap = true
  apart : constGap ≠ []
  isComment : IsComment behind

namespace StandardImport

variable (declaration : StandardImport)

/-- What stands behind the equals sign and the blanks there. -/
def value : Text :=
  "@import" ++ (declaration.importGap ++ ("(" ++ (declaration.openGap ++ ("\"std\"" ++
    (declaration.pathGap ++ (")" ++ (declaration.closeGap ++ (";" ++ declaration.behind))))))))

/-- The declaration without its visibility. -/
def bare : Text :=
  "const" ++ (declaration.constGap ++ ("std" ++ (declaration.nameGap ++ ("=" ++
    (declaration.equalsGap ++ declaration.value)))))

def text : Text :=
  declaration.visibility ++ declaration.bare

theorem words_bare :
    Text.words declaration.bare = ("const" : Text) :: Text.words ("std" ++ (declaration.nameGap ++
      ("=" ++ (declaration.equalsGap ++ declaration.value)))) :=
  Text.words_word_gap rfl (declaration.isSpacing _ (List.mem_cons_self ..)) declaration.apart _

/-- The words are told apart by the blanks around the equals sign. -/
theorem prefix_words_bare :
    (["const", "std", "="] : List Text) <+: Text.words declaration.bare ↔
      declaration.nameGap ≠ [] ∧ declaration.equalsGap ≠ [] := by
  have spacing := declaration.isSpacing
  simp only [List.forall_mem_cons] at spacing
  obtain ⟨_, nameBlank, equalsBlank, _⟩ := spacing
  rw [words_bare, List.cons_prefix_cons, and_iff_right rfl]
  rcases eq_or_ne declaration.nameGap [] with tight | nameApart
  · obtain ⟨more, others, split⟩ := Text.exists_words_start "std=" rfl
      (declaration.equalsGap ++ declaration.value)
    have words : Text.words ("std" ++ (declaration.nameGap ++ ("=" ++ (declaration.equalsGap ++
        declaration.value)))) = ("std=" ++ more) :: others := by
      rw [tight]
      exact split
    rw [words, List.cons_prefix_cons]
    exact iff_of_false (fun both => by cases both.1) fun both => both.1 tight
  rw [Text.words_word_gap rfl nameBlank nameApart, List.cons_prefix_cons,
    and_iff_right rfl, and_iff_right nameApart]
  rcases eq_or_ne declaration.equalsGap [] with tight | equalsApart
  · obtain ⟨more, others, split⟩ := Text.exists_words_start "=@import" rfl
      (declaration.value.drop 7)
    have words : Text.words ("=" ++ (declaration.equalsGap ++ declaration.value)) =
        ("=@import" ++ more) :: others := by
      rw [tight]
      exact split
    rw [words, List.cons_prefix_cons]
    exact iff_of_false (fun both => by cases both.1) fun apart => apart tight
  · rw [Text.words_word_gap rfl equalsBlank equalsApart, List.cons_prefix_cons,
      and_iff_right rfl]
    exact iff_of_true (List.nil_prefix) equalsApart

end StandardImport

/-- The declaration that a program adds. -/
def standardDeclaration : StandardImport where
  visibility := []
  constGap := " "
  nameGap := " "
  equalsGap := " "
  importGap := []
  openGap := []
  pathGap := []
  closeGap := []
  behind := []
  isVisibility := .inl rfl
  isSpacing := by decide
  apart := by decide
  isComment := isComment_nil

theorem text_standardDeclaration : standardDeclaration.text = standardImport := rfl

theorem declaresStandard_text (declaration : StandardImport) :
    declaresStandard declaration.text = true ↔
      declaration.nameGap ≠ [] ∧ declaration.equalsGap ≠ [] := by
  rw [← declaration.prefix_words_bare, declaresStandard, Bool.or_eq_true,
    List.isPrefixOf_iff_prefix, List.isPrefixOf_iff_prefix, StandardImport.text]
  rcases declaration.isVisibility with hidden | ⟨gap, isPublic, blank, apart⟩
  · rw [hidden, List.nil_append]
    refine or_iff_left fun other => ?_
    rw [declaration.words_bare] at other
    cases (List.cons_prefix_cons.mp other).1
  · have whole : Text.words (declaration.visibility ++ declaration.bare) =
        ("pub" : Text) :: Text.words declaration.bare := by
      rw [isPublic, List.append_assoc, Text.words_word_gap rfl blank apart]
    rw [whole]
    have first : ¬(["const", "std", "="] : List Text) <+:
        ("pub" : Text) :: Text.words declaration.bare :=
      fun other => by cases (List.cons_prefix_cons.mp other).1
    rw [or_iff_right first, List.cons_prefix_cons, and_iff_right rfl]

/-! ## Imports of a program -/

section

variable {contributions : List Contribution} {text : Text}

theorem eq_or_mem_of_mem_programImports (member : text ∈ programImports contributions) :
    text = standardImport ∨ text ∈ Contribution.allImports [] contributions := by
  rw [programImports] at member
  split_ifs at member
  · exact .inr member
  · exact List.mem_cons.mp member

theorem mem_programImports (member : text ∈ Contribution.allImports [] contributions) :
    text ∈ programImports contributions := by
  rw [programImports]
  split_ifs
  · exact member
  · exact List.mem_cons_of_mem _ member

end

end Notebook.Zig
