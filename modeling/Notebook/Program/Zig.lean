import Notebook.Program.Basic
import Notebook.Source.EntryPoint
import Notebook.Source.Statement

/-! # Zig programs

Lines with `@import` come first, functions and containers move to file scope, and statements run
inside `main`. The standard library is imported if no cell does so. The `main` of a cell is renamed
and called at the end of the cell.
-/

namespace Notebook.Zig

/-- How Zig declares its entry point. -/
def entryForm : Source.EntryForm := .function "fn" "main"

/-- The value declared by `const name = value` or `var name = value`. -/
def declaredValue? (line : Text) : Option Text :=
  ((("const " : Text).isPrefixOf? line).or (("var " : Text).isPrefixOf? line)).bind fun rest =>
    (Text.cut? '=' rest).map (·.2)

/-- A line that opens a container such as `struct` or `enum`. -/
def opensContainer (line : Text) : Bool :=
  ((declaredValue? line).bind fun value => ['\x7b'].isSuffixOf? value.trim).any fun kind =>
    kind.all fun c => isIdentifierChar c || isBlank c

/-- Where a statement belongs, from its lead line. -/
def classify (line : Text) : Source.Placement :=
  if line.hasPhrase "@import" then .imported
  else
    let declared := ((line.dropOne "pub ").dropOne "export ").dropOne "inline "
    if ("fn " : Text).isPrefixOf declared ∧ line.getLast? = some '\x7b' then .outer
    else if opensContainer declared then .outer
    else .inner

/-- The import that declares `std`. -/
def standardImport : Text := "const std = @import(\"std\");"

/-- The import declares `std`. -/
def declaresStandard (declaration : Text) : Bool :=
  let standard : List Text := ["const", "std", "="]
  standard.isPrefixOf declaration.words || (("pub" : Text) :: standard).isPrefixOf declaration.words

/-- The name that the `main` of an entry gets. -/
def cellMain (index : Nat) : Text :=
  "mdlabCellMain" ++ Text.ofNat index

/-- The call of a renamed `main`, which may fail. -/
def cellCall (index : Nat) (returns : Text) : Text :=
  (if returns.contains '!' then "    try " else "    ") ++ cellMain index ++ "();\n"

/-- A cell with its `main` renamed and moved to the end, and the call of it. -/
def spliced (index : Nat) (content : Text) : Text × Text :=
  match Source.entryPoint? .zig entryForm content with
  | some entry =>
    (entry.remainder ++ '\n' :: entry.renamed (cellMain index), cellCall index entry.returns)
  | none => (content, [])

/-- What an entry adds to the program. -/
def contribution (planned : PlannedEntry) : Contribution :=
  if planned.role.contributes then
    let (content, call) := spliced planned.entry.index planned.entry.content
    let routed := Source.route .zig classify content
    let imports := routed.imports.map Text.trim
    if planned.role = .global then ⟨imports, routed.outer ++ routed.inner, call⟩
    else ⟨imports, routed.outer, routed.inner ++ call⟩
  else .empty

/-- The imports of a program. -/
def programImports (contributions : List Contribution) : List Text :=
  let imports := Contribution.allImports [] contributions
  if imports.any declaresStandard then imports else standardImport :: imports

/-- The program up to the first statement of `main`. -/
def opening (contributions : List Contribution) : Text :=
  Text.ofPieces (programImports contributions) ++ "\n\n" ++
    Contribution.allOuter contributions ++ "\npub fn main() !void \x7b\n"

/-- The program of a history. -/
def program (history : History) : Program :=
  let contributions := history.plan.map contribution
  Program.ofHistory history <|
    opening contributions ++ Contribution.allBodies "    " .zig contributions ++ "\x7d\n"

/-- How a Zig program is run. -/
def launch (context : ProgramContext) (tool : Path) : Launch :=
  ⟨[], ⟨tool, ["run", (context.entryPath .zig).text], context.familyDir .zig⟩⟩

end Notebook.Zig
