import Notebook.Text.Basic

/-! # The first note

A new directory of notes starts with a document that tells what documents can do, in cells that can
be run.
-/

namespace Notebook.Notes

/-- The lines of the first note. -/
def welcomeLines : List String :=
  [ "# mdlab",
    "",
    "Code blocks in this file are notebook cells. Run them with",
    "`mdlab run index.md` and their output is written back below each block as a",
    "`text` block, so the file stays plain markdown.",
    "",
    "## Languages",
    "",
    "Cells of the same language share state: each run rebuilds one program from",
    "every earlier cell of that language.",
    "",
    "```python",
    "greeting = \"Python is working!\"",
    "```",
    "",
    "```python",
    "print(greeting)",
    "```",
    "",
    "```rust",
    "let x = \"Rust is working!\";",
    "println!(\"\x7bx\x7d\");",
    "```",
    "",
    "```go",
    "fmt.Println(\"Go is working!\")",
    "```",
    "",
    "```js",
    "console.log(\"JavaScript is working!\")",
    "```",
    "",
    "```sh",
    "echo \"Shell is working!\"",
    "```",
    "",
    "## Directives",
    "",
    "Add a directive after the language tag:",
    "",
    "- `:restart` forgets earlier cells of the language",
    "- `:global` puts the cell outside the entry point",
    "- `:skip` never runs the cell",
    "- `:once` runs the cell only when it is run directly",
    "- `:create=name` writes the cell to a file in the temp directory",
    "- `:clear` hides the cell's output",
    "",
    "## Searching",
    "",
    "`mdlab search <text>` looks through every `.md` file in this directory." ]

/-- The text of the first note. -/
def welcome : Text :=
  Text.ofLines (welcomeLines.map String.toList)

end Notebook.Notes
