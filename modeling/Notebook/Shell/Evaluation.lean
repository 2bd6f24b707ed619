import Notebook.Shell.Builtin

/-! # Running scripts

The meaning of commands, as steps on the state of a shell. The bound that the functions carry limits
how deeply commands may contain and run one another, and how often a loop may be repeated; a shell
that exceeds it counts as one that never ends.
-/

namespace Notebook.Shell

/-- How deeply the commands of a script may contain and run one another. -/
def depthBound : Nat := 4000

/-- How often a loop may be repeated. -/
def roundBound : Nat := 100000

mutual

/-- Runs the rest of a script. -/
def runTokens : Nat → List Token → Task Unit
  | 0, _ => interrupt .hangs
  | n + 1, tokens => do
    match Reader.readNext.run tokens with
    | .ok (none, _) => pure ()
    | .ok (some command, rest) =>
      run n command
      runTokens n rest
    | .error malformed =>
      modify fun state => { state with line := malformed.line }
      abort ("Syntax error: " ++ malformed.message)

/-- Receives a signal. -/
def receive : Nat → Nat → Task Unit
  | 0, _ => interrupt .hangs
  | n + 1, signal => do
    let state ← get
    match state.traps.lookup signal with
    | some action =>
      if signal = killSignal then interrupt (.killed signal)
      runTokens n (Token.ofText action)
      setStatus state.status
    | none => interrupt (.killed signal)

/-- Runs an executable as the process that the state is of. -/
def runExecutable : Nat → Executable → Task Unit
  | 0, _ => interrupt .hangs
  | n + 1, ⟨some utility, name, arguments⟩ => do
    let pause ← runUtility utility false name arguments
    if pause > 0 then
      modify fun state =>
        let stopped (grace : Nat) : FileTree :=
          if pause ≤ grace ∧ (state.traps.lookup terminateSignal).isSome then
            ((receive n terminateSignal).outcome state).2.files
          else state.files
        { state with log := .paused stopped :: state.log }
  | n + 1, ⟨none, name, arguments⟩ => do
    match arguments with
    | [] => setStatus 0
    | ['-', 'c'] :: [] => abort "-c requires an argument"
    | ['-', 'c'] :: script :: rest =>
      modify fun state =>
        { state with name := rest.head?.getD name, arguments := rest.drop 1, line := 1 }
      runTokens n (Token.ofText script)
    | path :: rest =>
      let state ← get
      match state.files.read state.cwd ⟨path⟩ with
      | .ok contents =>
        set { state with name := path, arguments := rest, line := 1 }
        runTokens n (Token.ofText (Utf8.decodeLossy contents))
      | .error _ => abort ("cannot open " ++ path ++ ": No such file")

/-- Runs a program that is found, as the process that the state is of or as one of its own. -/
def runProgram (isReplacing : Bool) (program : Text) (arguments : List Text) : Nat → Task Unit
  | 0 => interrupt .hangs
  | n + 1 => do
    let state ← get
    let searchPath := (state.getVar? "PATH").getD []
    match Executable.find state.files state.cwd searchPath program arguments, isReplacing with
    | .ok ⟨some utility, name, arguments⟩, false =>
      runExecutable n ⟨some utility, name, arguments⟩
    | .ok executable, _ =>
      let task : Task Unit := do
        modify fun state => state.forProgram executable.name
        runExecutable n executable
      if isReplacing then task else asChild task
    | .error cause, _ =>
      let isAbsent := cause = .notFound ∨ cause = .notADirectory
      let reason : Text := if isAbsent then "not found" else Utility.briefMessage cause
      let context : Text := if isReplacing then "exec: " else []
      complain (context ++ program ++ ": " ++ reason)
      setStatus (if isAbsent then 127 else 126)

/-- Runs what a name stands for. -/
def runNamed (name : Text) (arguments : List Text) : Nat → Task Unit
  | 0 => interrupt .hangs
  | n + 1 => do
    match String.ofList name, arguments with
    | ":", _ | "exec", [] | "trap", [] => setStatus 0
    | "exec", program :: rest =>
      runProgram true program rest n
      modify fun state => { state with traps := [] }
      interrupt .exits
    | "exit", [] => interrupt .exits
    | "exit", status :: _ =>
      match Text.toNat? status with
      | some status => setStatus (status % 256)
      | none => abort ("exit: Illegal number: " ++ status)
      interrupt .exits
    | "trap", action :: names => setTraps action names
    | "cd", _ => changeDirectory arguments
    | "test", _ => test name arguments
    | "[", _ =>
      if arguments.getLast? = some [']'] then test name arguments.dropLast
      else
        complain "[: missing ]"
        setStatus 2
    | "kill", ('-' :: signal) :: targets => kill (signalNumber? signal) targets n
    | "kill", targets => kill (some terminateSignal) targets n
    | _, _ =>
      match if name ∈ ownUtilities then Utility.names.lookup name else none with
      | some utility => let _ ← runUtility utility true name arguments
      | none => runProgram false name arguments n

/-- Sends a signal to processes. There are no others than the shell. -/
def kill (signal : Option Nat) (targets : List Text) : Nat → Task Unit
  | 0 => interrupt .hangs
  | n + 1 => do
    setStatus 0
    match signal with
    | none =>
      complain "kill: invalid signal number or name"
      setStatus 2
    | some signal =>
      for target in targets do
        if target = Text.ofNat processNumber then receive n signal
        else
          complain "kill: No such process"
          setStatus 1

/-- Runs a simple command. -/
def runSimple (assignments : List (Text × Word)) (words : List Word)
    (redirections : List Redirection) : Nat → Task Unit
  | 0 => interrupt .hangs
  | n + 1 => do
    let fields ← expanded fun state => return (← words.mapM (wordFields state)).flatten
    let before ← get
    let name := fields.head?.getD []
    let isSpecial := fields = [] ∨ name ∈ specialBuiltins
    match redirections.foldlM redirected before with
    | .error message =>
      complain message
      setStatus 2
      if isSpecial ∧ fields ≠ [] then interrupt .exits
    | .ok state =>
      set state
      for (key, word) in assignments do
        let value ← expanded fun state => wordText state word
        modify fun state => state.setVar key value
        if !isSpecial then modify fun state => { state with exported := key :: state.exported }
      if fields = [] then setStatus 0 else runNamed name (fields.drop 1) n
      -- What is assigned for a program is not left to the shell.
      if !isSpecial ∧ assignments ≠ [] then
        modify fun state => { state with bindings := before.bindings, exported := before.exported }
      if name ≠ ("exec" : Text) ∨ fields.length > 1 then
        modify fun state => { state with descriptors := before.descriptors }

/-- Runs a command. -/
def run : Nat → Command → Task Unit
  | 0, _ => interrupt .hangs
  | n + 1, command => do
    let succeeds (test : Command) : Task Bool := do
      run n test
      return (← get).status = 0
    match command with
    | .nothing => pure ()
    | .simple line assignments words redirections =>
      modify fun state => { state with line := line }
      runSimple assignments words redirections n
    | .sequence first second =>
      run n first
      run n second
    | .both first second => if ← succeeds first then run n second
    | .either first second => if !(← succeeds first) then run n second
    | .negation command => setStatus (if ← succeeds command then 1 else 0)
    | .conditional test positive negative =>
      let holds ← succeeds test
      setStatus 0
      if holds then run n positive else run n negative
    | .loop isUntil test body =>
      setStatus 0
      -- A loop ends with the status of its last round.
      repeatWhile (do
        let last := (← get).status
        if (← succeeds test) = isUntil then
          setStatus last
          return false
        run n body
        return true) roundBound
    | .each name words body =>
      let values ← expanded fun state =>
        match words with
        | some words => return (← words.mapM (wordFields state)).flatten
        | none => return state.arguments
      setStatus 0
      for value in values do
        modify fun state => state.setVar name value
        run n body

end

end Notebook.Shell
