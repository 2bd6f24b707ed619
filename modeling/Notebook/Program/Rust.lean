import Notebook.Program.Basic
import Notebook.Source.EntryPoint

/-! # Rust programs

Cells are statements of one `main` in a project of their own; items declared in a block are visible
in the whole block, so only `global` cells go to module scope. The `main` of a cell is renamed and
called where it stood. The packages named by `use` and `extern crate` become dependencies, unless
the cells declare a module or an enumeration of that name.
-/

namespace Notebook.Rust

/-- How Rust declares its entry point. -/
def entryForm : Source.EntryForm := .function "fn" "main"

/-- Roots of paths that are not packages. -/
def builtinRoots : List Text :=
  ["std", "core", "alloc", "self", "super", "crate", "proc_macro", "test"]

/-- The longest identifier at the start of a text. -/
def identifier (text : Text) : Text :=
  text.takeWhile isIdentifierChar

/-- The name of the module or enumeration that a line declares. -/
def localName? (line : Text) : Option Text :=
  match line.words with
  | kind :: name :: rest =>
    if kind = ("pub" : Text) then
      if name = ("mod" : Text) ∨ name = ("enum" : Text) then rest.head?.map identifier else none
    else if kind = ("mod" : Text) ∨ kind = ("enum" : Text) then some (identifier name)
    else none
  | _ => none

/-- The root of the path that a line imports. -/
def usedRoot? (line : Text) : Option Text :=
  let rest := ((("pub " : Text).isPrefixOf? line).or
    (("pub(crate) " : Text).isPrefixOf? line)).getD line
  match (("use " : Text).isPrefixOf? rest).or (("extern crate " : Text).isPrefixOf? rest) with
  | none => none
  | some path =>
    let root := identifier (Text.dropLeading (Text.trimStart path) "::")
    if root = [] then none else some root

/-- The masked lines of a cell, trimmed. -/
def maskedLines (content : Text) : List Text :=
  (Source.mask .rust content).lines.map Text.trim

/-- Adds a name to sorted names unless it is there. -/
def insertSorted (name : Text) : List Text → List Text
  | [] => [name]
  | other :: rest =>
    if name = other then other :: rest
    else if name < other then name :: other :: rest
    else other :: insertSorted name rest

/-- The packages that cells import, sorted. -/
def packages (contents : List Text) : List Text :=
  let lines := contents.flatMap maskedLines
  let locals := lines.filterMap localName?
  let roots := (lines.filterMap usedRoot?).foldr insertSorted []
  roots.filter fun root =>
    !builtinRoots.contains root && !root.head?.any isUppercase && !locals.contains root

/-- The manifest of a project. -/
def manifest (name edition : Text) (dependencies : List Text) : Text :=
  "[package]\nname = \"" ++ name ++ "\"\nversion = \"0.1.0\"\nedition = \"" ++ edition ++
    "\"\n\n[dependencies]\n" ++
    dependencies.flatMap (fun package => (package ++ " = \"*\"\n" : Text)) ++ "\n[workspace]\n"

/-- The name that the `main` of an entry gets. -/
def cellMain (index : Nat) : Text :=
  "__mdlab_cell_main_" ++ Text.ofNat index

/-- The call of a renamed `main`, which reports an error it returns. -/
def cellCall (index : Nat) (returns : Text) : Text :=
  if returns.hasPhrase "Result" then
    "    if let Err(e) = " ++ cellMain index ++
      "() \x7b eprintln!(\"Error: \x7be:?\x7d\"); \x7d\n"
  else "    " ++ cellMain index ++ "();\n"

/-- The statements of a cell with its `main` renamed and called. -/
def cellBody (index : Nat) (content : Text) : Text :=
  match Source.entryPoint? .rust entryForm content with
  | some entry =>
    entry.remainder ++ '\n' :: entry.renamed (cellMain index) ++
      '\n' :: cellCall index entry.returns
  | none => content ++ ['\n']

/-- What an entry adds to the program. -/
def contribution (planned : PlannedEntry) : Contribution :=
  match planned.role with
  | .dropped | .skipped => .empty
  | .global => ⟨[], planned.entry.content ++ ['\n'], []⟩
  | .body => ⟨[], [], cellBody planned.entry.index planned.entry.content⟩

/-- The program up to the first statement of `main`. -/
def opening (contributions : List Contribution) : Text :=
  "#![allow(unused)]\n" ++ Contribution.allOuter contributions ++ "\nfn main() \x7b\n"

/-- The program of a history. -/
def program (history : History) : Program :=
  let contributions := history.plan.map contribution
  let dependencies := packages
    ((history.plan.filter (·.role.contributes)).map (·.entry.content))
  let source := opening contributions ++
    Contribution.allBodies "    " .rust contributions ++ "\x7d\n"
  { Program.ofHistory history source with
    dependencies := dependencies
    files := [⟨Family.rust.dir.join "Cargo.toml", manifest "mdlab" "2021" dependencies, true⟩] }

/-- How a Rust program is run. -/
def launch (context : ProgramContext) (tool : Path) : Launch :=
  ⟨[], ⟨tool, ["run", "--quiet", "--manifest-path",
    ((context.familyDir .rust).join "Cargo.toml").text], context.workingDir⟩⟩

end Notebook.Rust
