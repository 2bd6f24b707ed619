import Notebook.Program.Go
import Notebook.Program.Jai
import Notebook.Program.Python
import Notebook.Program.Rust
import Notebook.Program.Script
import Notebook.Program.Zig

/-! # Building and launching programs

Each family has its way to build the program of a history and to run it.
-/

namespace Notebook.Program

/-- The program of a history. -/
def build (family : Family) (context : ProgramContext) (history : History) : Program :=
  match family with
  | .python => Python.program context history
  | .rust => Rust.program history
  | .go => Go.program history
  | .javascript | .typescript => Script.program family history
  | .zig => Zig.program history
  | .jai => Jai.program history
  | .shell kind => ShellScript.program kind history

/-- How a program is run by a tool. -/
def launch (family : Family) (context : ProgramContext) (tool : Path) (program : Program) :
    Launch :=
  match family with
  | .python => Python.launch context tool
  | .rust => Rust.launch context tool
  | .go => Go.launch context tool program
  | .javascript | .typescript => Script.launch family context tool
  | .zig => Zig.launch context tool
  | .jai => Jai.launch context tool
  | .shell kind => ShellScript.launch kind context tool

/-- The declaration that a family's cells are searched for. -/
def entryForm? : Family → Option Source.EntryForm
  | .rust => some Rust.entryForm
  | .go => some Go.entryForm
  | .zig => some Zig.entryForm
  | .jai => some Jai.entryForm
  | _ => none

end Notebook.Program
