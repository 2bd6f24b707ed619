import Notebook.Program.Basic

/-! # Programs without an entry point

JavaScript and TypeScript cells follow each other at module scope. A shell keeps no history: its
program is the cell being run behind a single marker, so the output is always segment one.
-/

namespace Notebook.Script

/-- The text of an entry after its marker. -/
def block (planned : PlannedEntry) : Text :=
  if planned.role.contributes then planned.entry.content ++ ['\n'] else []

/-- The program of a history, in a language whose statements stand at module scope. -/
def program (family : Family) (history : History) : Program :=
  Program.ofHistory history <|
    history.plan.flatMap fun planned => family.markerStatement ++ block planned

/-- How such a program is run. -/
def launch (family : Family) (context : ProgramContext) (tool : Path) : Launch :=
  ⟨[], ⟨tool, [(context.entryPath family).text], context.workingDir⟩⟩

end Notebook.Script

namespace Notebook.ShellScript

/-- The cell as a shell runs it. -/
def body (kind : ShellKind) (content : Text) : Text :=
  match kind with
  | .powershell => "& \x7b" ++ content ++ "\x7d\n"
  | _ => content ++ ['\n']

/-- The program of a history. -/
def program (kind : ShellKind) (history : History) : Program where
  source := (Family.shell kind).markerStatement ++
    body kind ((history.current?.map (·.content)).getD [])
  suppressOutput := history.suppressesOutput
  boundaries := 1
  targetSegment := 1
  dependencies := []
  files := []

/-- How a script is run. -/
def launch (kind : ShellKind) (context : ProgramContext) (tool : Path) : Launch :=
  let script := (context.entryPath (.shell kind)).text
  match kind with
  | .powershell => ⟨[], ⟨tool, ["-NoProfile", "-File", script], context.workspace⟩⟩
  | _ => ⟨[], ⟨tool, [script], context.workingDir⟩⟩

end Notebook.ShellScript
