import Mathlib.Data.List.Nodup
import Notebook.Program.Basic

/-! # Collected imports

The imports of all contributions are collected in order, and each text once. Whether two imports are
the same is told by their texts alone.
-/

namespace Notebook

/-- Nothing, or a comment with the blanks ahead of it. -/
def IsComment (text : Text) : Prop :=
  text = [] ∨ ∃ blanks comment : Text, blanks.isBlank = true ∧ text = blanks ++ ("//" ++ comment)

theorem isComment_nil : IsComment [] :=
  .inl rfl

theorem mem_addNew {known more : List Text} {text : Text} :
    text ∈ addNew known more ↔ text ∈ known ∨ text ∈ more := by
  rw [addNew]
  induction more generalizing known with
  | nil => exact (or_iff_left List.not_mem_nil).symm
  | cons first rest ih =>
    rw [List.foldl_cons, ih, List.mem_cons]
    split_ifs with there
    · constructor
      · exact Or.imp_right .inr
      · rintro (member | rfl | member)
        · exact .inl member
        · exact .inl there
        · exact .inr member
    · rw [List.mem_append, List.mem_singleton, or_assoc]

theorem nodup_addNew {known : List Text} (nodup : known.Nodup) (more : List Text) :
    (addNew known more).Nodup := by
  rw [addNew]
  induction more generalizing known with
  | nil => exact nodup
  | cons first rest ih =>
    rw [List.foldl_cons]
    apply ih
    split_ifs with there
    · exact nodup
    · exact List.nodup_append.mpr ⟨nodup, List.nodup_singleton first, fun text member _ isFirst =>
        fun same => there (List.mem_singleton.mp isFirst ▸ same ▸ member)⟩

namespace Contribution

theorem mem_allImports {first : List Text} {contributions : List Contribution} {text : Text} :
    text ∈ allImports first contributions ↔
      text ∈ first ∨ ∃ contribution ∈ contributions, text ∈ contribution.imports := by
  rw [allImports]
  induction contributions generalizing first with
  | nil => simp
  | cons contribution others ih =>
    rw [List.foldl_cons, ih, mem_addNew, List.exists_mem_cons_iff, or_assoc]

theorem nodup_allImports {first : List Text} (nodup : first.Nodup)
    (contributions : List Contribution) : (allImports first contributions).Nodup := by
  rw [allImports]
  induction contributions generalizing first with
  | nil => exact nodup
  | cons contribution others ih =>
    rw [List.foldl_cons]
    exact ih (nodup_addNew nodup _)

end Contribution

end Notebook
