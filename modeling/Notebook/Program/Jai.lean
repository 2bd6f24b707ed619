import Notebook.Program.Basic
import Notebook.Source.EntryPoint
import Notebook.Source.Statement

/-! # Jai programs

Lines with `#import` and `#load` come first and the remaining statements run inside `main`. The
`main` of a cell is renamed, moved to file scope and called at the end of the cell. The compiler
builds and runs the program in one process by a plugin that is written beside the program.
-/

namespace Notebook.Jai

/-- How Jai declares its entry point. -/
def entryForm : Source.EntryForm := .constant "main"

/-- Where a statement belongs, from its lead line. -/
def classify (line : Text) : Source.Placement :=
  let directive := ((line.cutPhrase? "::").map fun (_, value) => value.trimStart).getD line
  if ("#import" : Text).isPrefixOf directive ∨ ("#load" : Text).isPrefixOf directive then .imported
  else .inner

/-- The import that every program has. -/
def basicImport : Text := "#import \"Basic\";"

/-- Name of the plugin that runs what the compiler has built. -/
def plugin : Text := "mdlab"

/-- Text of the plugin. -/
def pluginText : Text :=
  Text.ofLines (([
    "// Loaded with `-plug mdlab`: runs the program after a clean build.",
    "",
    "#import \"Basic\";",
    "Compiler :: #import \"Compiler\";",
    "Process  :: #import \"Process\";",
    "",
    "Plugin :: Compiler.Metaprogram_Plugin;",
    "",
    "Runner :: struct \x7b",
    "    #as using base: Plugin;",
    "",
    "    failed := false;",
    "    args: [] string;",
    "\x7d",
    "",
    "get_plugin :: () -> *Plugin \x7b",
    "    runner := New(Runner);",
    "    runner.init     = on_init;",
    "    runner.message  = on_message;",
    "    runner.shutdown = on_shutdown;",
    "    return runner;",
    "\x7d",
    "",
    "on_init :: (plugin: *Plugin, options: [] string) -> bool \x7b",
    "    runner := cast(*Runner) plugin;",
    "    runner.args = options;",
    "    return true;",
    "\x7d",
    "",
    "on_message :: (plugin: *Plugin, msg: *Compiler.Message) \x7b",
    "    runner := cast(*Runner) plugin;",
    "    if msg.kind == .COMPLETE \x7b",
    "        complete := cast(*Compiler.Message_Complete) msg;",
    "        if complete.error_code != .NONE  runner.failed = true;",
    "    \x7d",
    "\x7d",
    "",
    "on_shutdown :: (plugin: *Plugin) \x7b",
    "    runner := cast(*Runner) plugin;",
    "    defer free(runner);",
    "",
    "    if runner.failed \x7b",
    "        log_error(\"[mdlab] Build failed, not running.\");",
    "        return;",
    "    \x7d",
    "",
    "    options := Compiler.get_build_options(runner.workspace);",
    "    directory := options.output_path;",
    "    if directory.count == 0  directory = \".\";",
    "",
    "    last := directory[directory.count - 1];",
    "    separator := ifx last == #char \"/\" || last == #char \"\\\\\" then \"\" else \"/\";",
    "    extension := ifx OS == .WINDOWS then \".exe\" else \"\";",
    "    executable := tprint(\"%1%2%3%4\", directory, separator, options.output_executable_name, extension);",
    "",
    "    command: [..] string;",
    "    array_add(*command, executable);",
    "    array_add(*command, ..runner.args);",
    "",
    "    result := Process.run_command(..command);",
    "    if result.exit_code != 0 \x7b",
    "        Compiler.compiler_report(tprint(\"[mdlab] Program exited with code %.\", result.exit_code));",
    "    \x7d",
    "\x7d"] : List String).map String.toList)

/-- The name that the `main` of an entry gets. -/
def cellMain (index : Nat) : Text :=
  "mdlab_cell_main_" ++ Text.ofNat index

/-- What an entry adds to the program. -/
def contribution (planned : PlannedEntry) : Contribution :=
  if planned.role.contributes then
    let name := cellMain planned.entry.index
    let (content, procedure, call) : Text × Text × Text :=
      match Source.entryPoint? .jai entryForm planned.entry.content with
      | some entry => (entry.remainder, entry.renamed name ++ ['\n'], "    " ++ name ++ "();\n")
      | none => (planned.entry.content, [], [])
    let routed := Source.route .jai classify content
    let imports := routed.imports.map Text.trim
    if planned.role = .global then
      ⟨imports, procedure ++ routed.outer ++ routed.inner, call⟩
    else ⟨imports, procedure ++ routed.outer, routed.inner ++ call⟩
  else .empty

/-- The imports of a program. -/
def programImports (contributions : List Contribution) : List Text :=
  let imports := Contribution.allImports [] contributions
  if imports.contains basicImport then imports else basicImport :: imports

/-- The program up to the first statement of `main`. -/
def opening (contributions : List Contribution) : Text :=
  Text.ofPieces (programImports contributions) ++ "\n\n" ++
    Contribution.allOuter contributions ++ "\nmain :: () \x7b\n"

/-- The program of a history. -/
def program (history : History) : Program :=
  let contributions := history.plan.map contribution
  let source := opening contributions ++
    Contribution.allBodies "    " .jai contributions ++ "\x7d\n"
  { Program.ofHistory history source with
    files := [⟨(Family.jai.dir.join "modules").join ⟨plugin ++ ".jai"⟩, pluginText, true⟩] }

/-- How a Jai program is run. -/
def launch (context : ProgramContext) (tool : Path) : Launch :=
  ⟨[], ⟨tool, [(context.entryPath .jai).text, "-quiet", "-plug", plugin],
    context.familyDir .jai⟩⟩

end Notebook.Jai
