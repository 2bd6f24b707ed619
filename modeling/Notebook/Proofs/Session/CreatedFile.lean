import Notebook.Proofs.World.FileTree
import Notebook.Proofs.World.Place
import Notebook.World.Surroundings

/-! # Files that cells create

A cell that asks for a file is not run: its content is written to the place that the name of the
file leads to from the root of the workspace, and no other file changes. A relative name that does
not lead up out of the workspace leads to a place in it, and these are the only names that do so
for every workspace. An absolute name is meant as it stands.
-/

namespace Notebook

/-! ## Writing to the workspace -/

namespace Workspace

variable {root path : Path} {world : World} {contents : Text} {overwrite : Bool} {place : Place}

/-- A file that is settled, although it may be replaced, has the contents. -/
theorem readText_of_isSettled (settled : isSettled world path contents true = true) :
    world.files.readText world.cwd path = .ok contents := by
  rw [isSettled, Bool.and_eq_true] at settled
  cases known : world.files.readText world.cwd path with
  | error cause =>
    rw [known] at settled
    simp at settled
  | ok text =>
    rw [known] at settled
    simpa using settled.2

theorem grows_of_parent {files : FileTree}
    (made : path.parent?.elim (.ok world.files) (world.files.makeAllDirectories world.cwd) =
      .ok files) :
    world.files.Grows files := by
  cases above : path.parent? with
  | none =>
    rw [above] at made
    cases made
    exact .refl _
  | some parent =>
    rw [above] at made
    exact FileTree.grows_makeDirectories made

/-- Writing leaves a settled file alone. Otherwise it makes directories, and then it fails or the
file is written. -/
theorem write_cases (root : Path) (world : World) (path : Path) (contents : Text)
    (overwrite : Bool) :
    (isSettled world (resolve root path) contents overwrite = true ∧
        write root world path contents overwrite = (.ok (resolve root path), world)) ∨
      ∃ files, world.files.Grows files ∧
        ((∃ cause, write root world path contents overwrite =
            (.error cause, { world with files := files })) ∨
          ∃ later, files.write world.cwd (resolve root path) (Utf8.encode contents) = .ok later ∧
            write root world path contents overwrite =
              (.ok (resolve root path), { world with files := later })) := by
  rw [write]
  split_ifs with settled
  · exact .inl ⟨settled, rfl⟩
  · right
    cases made : (resolve root path).parent?.elim (.ok world.files)
        (world.files.makeAllDirectories world.cwd) with
    | error cause => exact ⟨world.files, .refl _, .inl ⟨cause, rfl⟩⟩
    | ok files =>
      refine ⟨files, grows_of_parent made, ?_⟩
      cases wrote : files.write world.cwd (resolve root path) (Utf8.encode contents) with
      | error cause => exact .inl ⟨cause, by simp only [wrote]⟩
      | ok later => exact .inr ⟨later, rfl, by simp only [wrote]⟩

/-- Only the file at the place of the path may change. -/
theorem get?_write_of_ne (different : place ≠ (resolve root path).resolved world.cwd)
    {known : List UInt8} {isExecutable : Bool} :
    (write root world path contents overwrite).2.files.get? place =
        some (.file known isExecutable) ↔
      world.files.get? place = some (.file known isExecutable) := by
  obtain ⟨-, same⟩ | ⟨files, grows, ⟨cause, failed⟩ | ⟨later, wrote, done⟩⟩ :=
    write_cases root world path contents overwrite
  · rw [same]
  · rw [failed]
    exact grows.get?_eq_file_iff
  · rw [done, FileTree.get?_write_of_ne wrote different]
    exact grows.get?_eq_file_iff

/-- What was written is there. -/
theorem readText_write {target : Path}
    (success : (write root world path contents true).1 = .ok target) :
    (write root world path contents true).2.files.readText world.cwd (resolve root path) =
      .ok contents := by
  obtain ⟨settled, same⟩ | ⟨files, -, ⟨cause, failed⟩ | ⟨later, wrote, done⟩⟩ :=
    write_cases root world path contents true
  · rw [same]
    exact readText_of_isSettled settled
  · rw [failed] at success
    contradiction
  · rw [done]
    exact FileTree.readText_write wrote

end Workspace

/-! ## Running a cell that asks for a file -/

namespace Session

open Run

variable {root : Path} {python jai : Option Text} {grace : Nat} {observer : Observer}
  {documentDir : Option Path} {session : Session} {cells : List Cell} {position : Nat}
  {isCancelled : Bool} {world : World} {cell : Cell} {file : Text}

section

variable {σ : Type} {environment : Environment σ} {known : σ}

/-- Nothing happens to the world but the writing of the file. -/
theorem world_runCell_of_create (found : cells[position]? = some cell) (isCode : cell.isCode = true)
    (asked : cell.directive = some (.create file)) :
    (runCell environment observer documentDir session cells position isCancelled known).world =
      (environment.write known ⟨file⟩ cell.content true).2 := by
  simp only [runCell, attempt, found, isCode, if_true, runCode, asked]

/-- The run ends as the writing of the file does. -/
theorem result_runCell_of_create (found : cells[position]? = some cell)
    (isCode : cell.isCode = true) (asked : cell.directive = some (.create file)) :
    (runCell environment observer documentDir session cells position isCancelled known).result =
      ((environment.write known ⟨file⟩ cell.content true).1.map fun _ => .immediate).mapError
        .system := by
  simp only [runCell, attempt, found, isCode, if_true, runCode, asked]

end

/-- The only file that a run writes is the one at a path: files at other places are what they were,
and after a run that succeeds the contents are at the path. -/
structure WritesOnly (before : World) (path : Path) (contents : Text) (run : CellRun World) :
    Prop where
  /-- Every other file is what it was. -/
  elsewhere : ∀ place, place ≠ path.resolved before.cwd → ∀ known isExecutable,
    run.world.files.get? place = some (.file known isExecutable) ↔
      before.files.get? place = some (.file known isExecutable)
  /-- The contents are at the path. -/
  written : run.result = .ok .immediate → run.world.files.readText before.cwd path = .ok contents

/-- The path is the name of the file, joined to the root. -/
theorem writesOnly_of_create (found : cells[position]? = some cell) (isCode : cell.isCode = true)
    (asked : cell.directive = some (.create file)) :
    WritesOnly world (root.join ⟨file⟩) cell.content
      (runCell (World.environment root python jai grace) observer documentDir session cells
        position isCancelled world) := by
  constructor
  · intro place different known isExecutable
    rw [world_runCell_of_create found isCode asked]
    exact Workspace.get?_write_of_ne different
  · intro success
    rw [result_runCell_of_create found isCode asked] at success
    rw [world_runCell_of_create found isCode asked]
    cases wrote : (Workspace.write root world ⟨file⟩ cell.content true).1 with
    | error cause => simp [World.environment, wrote, Except.map, Except.mapError] at success
    | ok target => exact Workspace.readText_write wrote

/-- A cell that asks for a file by a relative name of which no beginning takes more steps up than
down writes below the root of the workspace, and a cell that asks for it by an absolute name writes
to the place of that name; no other file changes. Of all names, the former are exactly those that
lead to a place below every root. -/
theorem runCell_create (found : cells[position]? = some cell) (isCode : cell.isCode = true)
    (asked : cell.directive = some (.create file)) :
    let run := runCell (World.environment root python jai grace) observer documentDir session cells
      position isCancelled world
    let target := root.join ⟨file⟩
    (Path.isAbsolute ⟨file⟩ = false → Path.staysBelow 0 (Path.names ⟨file⟩) = true →
      root.resolved world.cwd <+: target.resolved world.cwd ∧
        WritesOnly world target cell.content run) ∧
    (Path.isAbsolute ⟨file⟩ = true →
      target.resolved world.cwd = Path.resolved [] ⟨file⟩ ∧
        WritesOnly world target cell.content run) ∧
    ((∀ root : Path, root.resolved world.cwd <+: (root.join ⟨file⟩).resolved world.cwd) ↔
      Path.isAbsolute ⟨file⟩ = false ∧ Path.staysBelow 0 (Path.names ⟨file⟩) = true) := by
  intro run target
  have writes : WritesOnly world target cell.content run := writesOnly_of_create found isCode asked
  refine ⟨fun relative stays => ⟨?_, writes⟩, fun absolute => ⟨?_, writes⟩, ?_⟩
  · exact Path.forall_prefix_resolved_join_iff.mpr ⟨relative, stays⟩ root
  · rw [Path.resolved_join_of_isAbsolute absolute, Path.resolved, if_pos absolute]
  · exact Path.forall_prefix_resolved_join_iff

/-- A run of the only cell of a document in the workspace `/w` of a file system that holds nothing:
the cell asks for a file. -/
def runCreating (file content : Text) : CellRun World :=
  runCell (World.environment "/w" none none 0) (fun _ => false) none (.new "/w")
    [{ Cell.code "python" content with directive := some (.create file) }] 0 false ⟨.empty, [], []⟩

theorem runCreating_below :
    (runCreating "a/../b.py" "x\n").result = .ok .immediate ∧
      (runCreating "a/../b.py" "x\n").world.files.readText [] "/w/a/../b.py" =
        .ok ("x\n" : Text) ∧
      Path.resolved ["w"] "b.py" = Path.resolved [] "/w/a/../b.py" ∧
      Path.resolved [] "/w" <+: Path.resolved [] "/w/a/../b.py" := by
  have success : (runCreating "a/../b.py" "x\n").result = .ok .immediate := by decide
  obtain ⟨inside, -, -⟩ := @runCell_create "/w" none none 0 (fun _ => false) none (.new "/w")
    [{ Cell.code "python" "x\n" with directive := some (.create "a/../b.py") }] 0 false
    ⟨.empty, [], []⟩ _ "a/../b.py" rfl rfl rfl
  obtain ⟨below, writes⟩ := inside (by decide) (by decide)
  exact ⟨success, writes.written success, by decide, below⟩

/-- A name that leads up is followed out of the workspace: the file of the cell is written beside
the root. -/
theorem runCreating_outside :
    Directive.parse? "create=../x" = some (.create "../x") ∧
      (runCreating "../x" "hi\n").result = .ok .immediate ∧
      (runCreating "../x" "hi\n").world.files.get? ["x"] =
        some (.file (Utf8.encode "hi\n") false) ∧
      ¬ Path.resolved [] "/w" <+: ["x"] := by
  decide

end Session

end Notebook
