import Mathlib.Tactic.SplitIfs
import Notebook.Proofs.Text.Utf8
import Notebook.World.FileTree

/-! # What file operations do to a tree

A path leads where its names lead, whatever the tree. Writing a file changes what is at the place of
its path and nothing else, and the file is read back as it was written. Making directories puts
directories where nothing was; every file stays as it is.
-/

namespace Notebook.FileTree

variable {tree later : FileTree} {start place other : Place} {path : Path} {entry : FileEntry}

/-! ## Entries -/

theorem get?_of_ne_nil (named : place ≠ []) : tree.get? place = tree.entries.lookup place :=
  if_neg named

@[simp] theorem get?_nil : tree.get? [] = some .directory := rfl

theorem lookup_map_of_ne (entries : List (Place × FileEntry)) (different : other ≠ place) :
    (entries.map fun known => if known.1 = place then (place, entry) else known).lookup other =
      entries.lookup other := by
  induction entries with
  | nil => rfl
  | cons known rest ih =>
    obtain ⟨key, value⟩ := known
    rw [List.map_cons]
    by_cases same : key = place
    · subst same
      rw [if_pos rfl, List.lookup_cons, List.lookup_cons, beq_eq_false_iff_ne.mpr different]
      exact ih
    · rw [if_neg same, List.lookup_cons, List.lookup_cons, ih]

theorem lookup_map_self {entries : List (Place × FileEntry)}
    (known : entries.any (·.1 = place) = true) :
    (entries.map fun known => if known.1 = place then (place, entry) else known).lookup place =
      some entry := by
  induction entries with
  | nil => cases known
  | cons first rest ih =>
    obtain ⟨key, value⟩ := first
    rw [List.map_cons]
    by_cases same : key = place
    · subst same
      rw [if_pos rfl, List.lookup_cons_self]
    · rw [List.any_cons, decide_eq_false same, Bool.false_or] at known
      rw [if_neg same, List.lookup_cons, beq_eq_false_iff_ne.mpr (Ne.symm same)]
      exact ih known

/-- An entry changes nothing at other places. -/
theorem get?_set_of_ne (different : other ≠ place) :
    (tree.set place entry).get? other = tree.get? other := by
  rw [get?, get?, set]
  split_ifs with root known
  · rfl
  · exact lookup_map_of_ne tree.entries different
  · rw [List.lookup_append, List.lookup_cons, beq_eq_false_iff_ne.mpr different]
    exact Option.or_none

theorem get?_set_self (named : place ≠ []) : (tree.set place entry).get? place = some entry := by
  rw [get?_of_ne_nil named, set]
  split_ifs with known
  · exact lookup_map_self known
  · have absent : tree.entries.lookup place = none := by
      rw [List.lookup_eq_none_iff]
      intro entry member
      rw [bne_iff_ne]
      rintro rfl
      exact known (List.any_eq_true.mpr ⟨entry, member, decide_eq_true rfl⟩)
    rw [List.lookup_append, absent, Option.none_or, List.lookup_cons_self]

/-! ## Where paths lead -/

/-- Walking ends where the names lead. -/
theorem eq_foldl_of_walk {names : List Text} (walks : tree.walk start names = .ok place) :
    place = names.foldl Path.step start := by
  induction names generalizing start with
  | nil => cases walks; rfl
  | cons name rest ih =>
    rw [walk] at walks
    cases stands : tree.needDirectory start with
    | error cause => rw [stands] at walks; cases walks
    | ok =>
      rw [stands] at walks
      change (if _ then _ else _) = _ at walks
      split_ifs at walks
      exact ih walks

theorem locate_eq_ok_iff :
    tree.locate start path = .ok place ↔
      path.text.contains '\x00' = false ∧ path.text ≠ [] ∧
        tree.walk (if path.isAbsolute then [] else start) path.names = .ok place := by
  rw [locate]
  by_cases nul : path.text.contains '\x00' = true
  · rw [if_pos nul, nul]
    exact ⟨nofun, nofun⟩
  · by_cases empty : path.text = []
    · rw [if_neg nul, if_pos empty]
      exact ⟨nofun, fun located => absurd empty located.2.1⟩
    · rw [if_neg nul, if_neg empty, Bool.eq_false_iff]
      exact ⟨fun walks => ⟨nul, empty, walks⟩, fun located => located.2.2⟩

/-- The place of a path is where its names lead. -/
theorem eq_resolved_of_locate (locates : tree.locate start path = .ok place) :
    place = path.resolved start :=
  eq_foldl_of_walk (locate_eq_ok_iff.mp locates).2.2

/-- A way that leads through directories is there as long as they are. -/
theorem walk_of_directories {names : List Text}
    (kept : ∀ place, tree.get? place = some .directory → later.get? place = some .directory)
    (walks : tree.walk start names = .ok place) : later.walk start names = .ok place := by
  induction names generalizing start with
  | nil => exact walks
  | cons name rest ih =>
    rw [walk] at walks ⊢
    cases stands : tree.get? start with
    | none => rw [needDirectory, stands] at walks; cases walks
    | some entry =>
      cases entry with
      | file contents isExecutable => rw [needDirectory, stands] at walks; cases walks
      | directory =>
        rw [needDirectory, stands] at walks
        rw [needDirectory, kept start stands]
        change (if _ then _ else _) = _ at walks
        change (if _ then _ else _) = _
        split_ifs at walks ⊢
        exact ih walks

theorem locate_of_directories
    (kept : ∀ place, tree.get? place = some .directory → later.get? place = some .directory)
    (locates : tree.locate start path = .ok place) : later.locate start path = .ok place := by
  obtain ⟨plain, filled, walks⟩ := locate_eq_ok_iff.mp locates
  exact locate_eq_ok_iff.mpr ⟨plain, filled, walk_of_directories kept walks⟩

/-! ## Reading and writing -/

/-- What is read from a path is the file at its place. -/
theorem read_eq_ok_iff {contents : List UInt8} :
    tree.read start path = .ok contents ↔
      endsWithSlash path = false ∧ ∃ place isExecutable, tree.locate start path = .ok place ∧
        tree.get? place = some (.file contents isExecutable) := by
  rw [read, stat]
  cases locates : tree.locate start path with
  | error cause => exact ⟨nofun, fun ⟨_, _, _, found, _⟩ => by cases found⟩
  | ok place =>
    cases stands : tree.get? place with
    | none => simp [bind, Except.bind, stands]
    | some entry =>
      cases entry with
      | directory => simp [bind, Except.bind, stands]
      | file known isExecutable =>
        cases slash : endsWithSlash path with
        | true => simp [bind, Except.bind, stands]
        | false => cases isExecutable <;> simp [bind, Except.bind, stands]

/-- A file is written at the place of a path, where no directory is. -/
theorem write_eq_ok_iff {contents : List UInt8} :
    tree.write start path contents = .ok later ↔
      endsWithSlash path = false ∧ ∃ place isExecutable, tree.locate start path = .ok place ∧
        (tree.get? place = none ∧ isExecutable = false ∨
          ∃ known, tree.get? place = some (.file known isExecutable)) ∧
        later = tree.set place (.file contents isExecutable) := by
  rw [write]
  cases locates : tree.locate start path with
  | error cause => exact ⟨nofun, fun ⟨_, _, _, found, _⟩ => by cases found⟩
  | ok place =>
    cases stands : tree.get? place with
    | none =>
      cases slash : endsWithSlash path with
      | true => simp [bind, Except.bind, stands]
      | false => simp [bind, Except.bind, stands, eq_comm]
    | some entry =>
      cases entry with
      | directory => simp [bind, Except.bind, stands]
      | file known isExecutable =>
        cases slash : endsWithSlash path with
        | true => simp [bind, Except.bind, stands]
        | false => cases isExecutable <;> simp [bind, Except.bind, stands, eq_comm]

/-- Writing changes nothing but the place of the path. -/
theorem get?_write_of_ne {contents : List UInt8}
    (wrote : tree.write start path contents = .ok later) (different : other ≠ path.resolved start) :
    later.get? other = tree.get? other := by
  obtain ⟨_, place, isExecutable, locates, _, rfl⟩ := write_eq_ok_iff.mp wrote
  rw [eq_resolved_of_locate locates]
  exact get?_set_of_ne different

/-- A file is read as it was written. -/
theorem read_write {contents : List UInt8}
    (wrote : tree.write start path contents = .ok later) :
    later.read start path = .ok contents := by
  obtain ⟨slash, place, isExecutable, locates, free, rfl⟩ := write_eq_ok_iff.mp wrote
  have other : tree.get? place ≠ some .directory := by
    rcases free with ⟨free, _⟩ | ⟨known, free⟩
    · rw [free]; exact nofun
    · rw [free]; exact nofun
  have named : place ≠ [] := fun root => other (by rw [root, get?_nil])
  refine read_eq_ok_iff.mpr ⟨slash, place, isExecutable, ?_, get?_set_self named⟩
  refine locate_of_directories (fun above stands => ?_) locates
  rw [get?_set_of_ne fun same => other (by rw [← same, stands]), stands]

/-- Where a file is read another can be written. -/
theorem exists_write_of_read {known : List UInt8} (reads : tree.read start path = .ok known)
    (contents : List UInt8) : ∃ later, tree.write start path contents = .ok later := by
  obtain ⟨slash, place, isExecutable, locates, stands⟩ := read_eq_ok_iff.mp reads
  exact ⟨_, write_eq_ok_iff.mpr
    ⟨slash, place, isExecutable, locates, .inr ⟨known, stands⟩, rfl⟩⟩

theorem readText_eq_ok_iff {text : Text} :
    tree.readText start path = .ok text ↔
      ∃ contents, tree.read start path = .ok contents ∧ Utf8.decode? contents = some text := by
  rw [readText]
  cases reads : tree.read start path with
  | error cause => exact ⟨nofun, fun ⟨_, found, _⟩ => by cases found⟩
  | ok contents =>
    cases decodes : Utf8.decode? contents with
    | none => simp [bind, Except.bind, decodes]
    | some known => simp [bind, Except.bind, decodes]

/-- A text is read as it was written. -/
theorem readText_write {text : Text}
    (wrote : tree.write start path (Utf8.encode text) = .ok later) :
    later.readText start path = .ok text :=
  readText_eq_ok_iff.mpr ⟨_, read_write wrote, Utf8.decode?_encode text⟩

/-! ## Making directories -/

/-- The other tree has the same entries, and directories where this one has nothing. -/
def Grows (tree later : FileTree) : Prop :=
  ∀ place, later.get? place = tree.get? place ∨
    tree.get? place = none ∧ later.get? place = some .directory

theorem Grows.refl (tree : FileTree) : tree.Grows tree := fun _ => .inl rfl

theorem Grows.trans {last : FileTree} (first : tree.Grows later) (second : later.Grows last) :
    tree.Grows last := by
  intro place
  rcases second place with same | ⟨free, made⟩
  · rw [same]
    exact first place
  · rcases first place with same | ⟨_, made'⟩
    · exact .inr ⟨by rw [← same, free], made⟩
    · rw [made'] at free
      cases free

/-- Files stay as they are. -/
theorem Grows.get?_eq_file_iff (grows : tree.Grows later) {contents : List UInt8}
    {isExecutable : Bool} :
    later.get? place = some (.file contents isExecutable) ↔
      tree.get? place = some (.file contents isExecutable) := by
  rcases grows place with same | ⟨free, made⟩
  · rw [same]
  · rw [free, made]
    exact ⟨nofun, nofun⟩

theorem grows_makeDirectory (made : tree.makeDirectory start path = .ok later) :
    tree.Grows later := by
  rw [makeDirectory] at made
  cases locates : tree.locate start path with
  | error cause => rw [locates] at made; cases made
  | ok place =>
    rw [locates] at made
    change (if _ then _ else _) = _ at made
    split_ifs at made with known
    cases made
    intro other
    by_cases same : other = place
    · subst same
      have free : tree.get? other = none := by simpa using known
      refine .inr ⟨free, get?_set_self ?_⟩
      rintro rfl
      cases free
    · exact .inl (get?_set_of_ne same)

/-- Making a directory with those on the way to it changes nothing that is there. -/
theorem grows_makeDirectories {bound : Nat}
    (made : tree.makeDirectories start bound path = .ok later) : tree.Grows later := by
  induction bound generalizing path later with
  | zero => cases made; exact .refl _
  | succ bound ih =>
    rw [makeDirectories] at made
    split at made
    · cases made; exact .refl _
    split at made
    · next first => cases made; exact grows_makeDirectory first
    · split at made
      · cases made
      next parent _ =>
      cases above : tree.makeDirectories start bound parent with
      | error cause => rw [above] at made; cases made
      | ok grown =>
        rw [above] at made
        refine (ih above).trans ?_
        dsimp only [bind, Except.bind] at made
        split at made
        · next last => cases made; exact grows_makeDirectory last
        · split at made
          · cases made; exact .refl _
          · cases made
    · split at made
      · cases made; exact .refl _
      · cases made

end Notebook.FileTree
