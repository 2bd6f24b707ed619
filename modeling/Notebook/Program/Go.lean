import Notebook.Program.Basic
import Notebook.Source.EntryPoint
import Notebook.Source.Statement

/-! # Go programs

Imports are collected into one block, functions and types move to package scope, and everything
else runs inside `main`. The `main` of a cell is renamed, which makes it a function like any other,
and called at the end of the cell.
-/

namespace Notebook.Go

/-- How Go declares its entry point. -/
def entryForm : Source.EntryForm := .function "func" "main"

/-- Where a statement belongs, from its lead line. Literals are masked, so `import "os"` arrives as
`import`. -/
def classify (line : Text) : Source.Placement :=
  let isImport := (("import" : Text).isPrefixOf? line).any fun rest =>
    rest = [] || rest.head?.any fun c => c = ' ' || c = '\t' || c = '('
  if isImport then .imported
  else
    match ("func " : Text).isPrefixOf? line with
    | some rest =>
      let isMain := (("main" : Text).isPrefixOf? (Text.trimStart rest)).any fun after =>
        (Text.trimStart after).head? = some '('
      if isMain then .inner else .outer
    | none => if ("type " : Text).isPrefixOf line then .outer else .inner

/-- The specs of an import declaration, such as `"os"` or `str "strings"`. -/
def importSpecs (declaration : Text) : List Text :=
  let body := (declaration.trim.dropLeading "import").trim
  let group := ((['('].isPrefixOf? body).bind fun inner => [')'].isSuffixOf? inner).getD body
  ((Text.lines group).map Text.trim).filter fun line =>
    line ≠ [] && !("//" : Text).isPrefixOf line

/-- The path that a spec imports. -/
def importPath? (spec : Text) : Option Text :=
  (spec.cut? '"').bind fun (_, rest) => (rest.cut? '"').map (·.1)

/-- The first element of a path outside the standard library has a dot. -/
def isExternal (path : Text) : Bool :=
  (path.takeWhile (· ≠ '/')).contains '.'

/-- The name that the `main` of an entry gets. -/
def cellMain (index : Nat) : Text :=
  "mdlabCellMain" ++ Text.ofNat index

/-- A cell with its `main` renamed and moved to the end, and the call of it. -/
def spliced (index : Nat) (content : Text) : Text × Text :=
  match Source.entryPoint? .go entryForm content with
  | some entry =>
    (entry.remainder ++ '\n' :: entry.renamed (cellMain index), '\t' :: cellMain index ++ "()\n")
  | none => (content, [])

/-- What an entry adds to the program. -/
def contribution (planned : PlannedEntry) : Contribution :=
  if planned.role.contributes then
    let (content, call) := spliced planned.entry.index planned.entry.content
    let routed := Source.route .go classify content
    let imports := routed.imports.flatMap importSpecs
    if planned.role = .global then ⟨imports, routed.outer ++ routed.inner, call⟩
    else ⟨imports, routed.outer, routed.inner ++ call⟩
  else .empty

/-- The module file, which the tool keeps up to date itself. -/
def moduleFile : Text := "module mdlab\n\ngo 1.21\n"

/-- The imports of a program. -/
def programImports (contributions : List Contribution) : List Text :=
  Contribution.allImports ["\"fmt\""] contributions

/-- The program up to the first statement of `main`. -/
def opening (contributions : List Contribution) : Text :=
  "package main\n\nimport (\n" ++
    (programImports contributions).flatMap (fun spec => '\t' :: spec ++ ['\n']) ++ ")\n\n" ++
    Contribution.allOuter contributions ++ "\nfunc main() \x7b\n"

/-- The program of a history. -/
def program (history : History) : Program :=
  let contributions := history.plan.map contribution
  let source := opening contributions ++ Contribution.allBodies "\t" .go contributions ++ "\x7d\n"
  { Program.ofHistory history source with
    dependencies := ((programImports contributions).filterMap importPath?).filter isExternal
    files := [⟨Family.go.dir.join "go.mod", moduleFile, false⟩] }

/-- How a Go program is run; packages outside the standard library are fetched first. -/
def launch (context : ProgramContext) (tool : Path) (program : Program) : Launch :=
  let dir := context.familyDir .go
  ⟨if program.dependencies = [] then [] else [⟨tool, ["mod", "tidy"], dir⟩],
    ⟨tool, ["run", "main.go"], dir⟩⟩

end Notebook.Go
