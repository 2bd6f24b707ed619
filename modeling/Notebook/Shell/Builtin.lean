import Notebook.Shell.Executable
import Notebook.Shell.Expansion
import Notebook.Shell.Reader

/-! # Builtins and redirections

What the shell does itself, as far as it runs no other commands for it. An error of a special
builtin ends the shell; one of the others leaves it with a status.
-/

namespace Notebook.Shell

/-! ## Conditions -/

/-- Decides a test of one operand. -/
def decideUnary (state : State) (operator operand : Text) : Except Text Bool :=
  match String.ofList operator with
  | "-n" => .ok (operand ≠ [])
  | "-z" => .ok (operand = [])
  | "-e" => .ok (state.files.pathExists state.cwd ⟨operand⟩)
  | "-f" => .ok (state.files.isFile state.cwd ⟨operand⟩)
  | "-d" => .ok (state.files.isDirectory state.cwd ⟨operand⟩)
  | _ => .error (operator ++ ": unexpected operator")

/-- Decides a test of two operands. -/
def decideBinary (left operator right : Text) : Except Text Bool :=
  let compare (holds : Int → Int → Bool) : Except Text Bool := do
    return holds (← numberOf left) (← numberOf right)
  match String.ofList operator with
  | "=" => .ok (left = right)
  | "!=" => .ok (left ≠ right)
  | "-eq" => compare (· = ·)
  | "-ne" => compare (· ≠ ·)
  | "-lt" => compare (· < ·)
  | "-le" => compare (· ≤ ·)
  | "-gt" => compare (· > ·)
  | "-ge" => compare (· ≥ ·)
  | _ => .error (left ++ ": unexpected operator")

/-- Decides the test that words ask for. -/
def decideWords (state : State) : List Text → Except Text Bool
  | [] => .ok false
  | [word] => .ok (word ≠ [])
  | ['!'] :: rest => (decideWords state rest).map (!·)
  | [operator, operand] => decideUnary state operator operand
  | [left, operator, right] => decideBinary left operator right
  | _ => .error "too many arguments"

/-- Sets the status to what a test decides. -/
def test (name : Text) (words : List Text) : Task Unit := do
  match decideWords (← get) words with
  | .ok holds => setStatus (if holds then 0 else 1)
  | .error message =>
    complain (name ++ ": " ++ message)
    setStatus 2

/-! ## Redirections -/

/-- Opens a file for a descriptor. -/
def openFile (state : State) (number : Nat) (isAppended : Bool) (path : Text) :
    Except SystemError State := do
  if path = ("/dev/null" : Text) then return state.setDescriptor number (some .nothing)
  let known := if isAppended then state.files.read state.cwd ⟨path⟩ else .error .notFound
  let files ← state.files.write state.cwd ⟨path⟩ (known.toOption.getD [])
  let (place, _) ← files.stat state.cwd ⟨path⟩
  return { state with files := files }.setDescriptor number (some (.file place))

/-- The state after a redirection. -/
def redirected (state : State) (redirection : Redirection) : Except Text State := do
  let target ← wordText state redirection.target
  let number := redirection.descriptor
  match redirection.kind with
  | .duplicate =>
    if target = ['-'] then return state.setDescriptor number none
    else
      match (Text.toNat? target).bind (List.lookup · state.descriptors) with
      | some descriptor => return state.setDescriptor number (some descriptor)
      | none => throw (target ++ ": Bad file descriptor")
  | kind =>
    (openFile state number (kind = .append) target).mapError fun cause =>
      let reason : Text :=
        match cause with
        | .notFound | .notADirectory => "Directory nonexistent"
        | other => Utility.briefMessage other
      "cannot create " ++ target ++ ": " ++ reason

/-! ## Builtins -/

/-- The builtins whose errors end the shell, and whose assignments stay. -/
def specialBuiltins : List Text := [":", "exec", "exit", "trap"]

/-- The utilities that the shell runs itself. -/
def ownUtilities : List Text := ["echo", "false", "printf", "pwd", "true"]

/-- Moves to another directory. -/
def changeDirectory (arguments : List Text) : Task Unit := do
  let state ← get
  let target := (arguments.head?).getD ((state.getVar? "HOME").getD [])
  match state.files.stat state.cwd ⟨target⟩ with
  | .ok (place, .directory) =>
    set { state.setVar "PWD" (Path.ofKey place).text with cwd := place, status := 0 }
  | _ =>
    complain ("cd: can't cd to " ++ target)
    setStatus 2

/-- Sets what is done about signals. -/
def setTraps (action : Text) (names : List Text) : Task Unit := do
  setStatus 0
  for name in names do
    match signalNumber? name with
    | none =>
      complain ("trap: " ++ name ++ ": bad trap")
      setStatus 1
    | some number =>
      modify fun state =>
        let others := state.traps.filter (·.1 ≠ number)
        { state with traps := if action = ['-'] then others else (number, action) :: others }

/-- Runs a utility, which the shell may do itself. -/
def runUtility (utility : Utility) (isOwn : Bool) (name : Text) (arguments : List Text) :
    Task Nat := do
  let state ← get
  let effect := utility.run isOwn arguments state.files state.cwd
  let isOpen ← put 1 effect.written
  for message in effect.complaints do
    if isOwn then complain (name ++ ": " ++ message)
    else let _ ← put 2 (Utf8.encode (name ++ ": " ++ message ++ "\n"))
  if isOpen then setStatus effect.status
  else
    if isOwn then complain (name ++ ": " ++ name ++ ": I/O error")
    setStatus 1
  return effect.pause

end Notebook.Shell
