import Notebook.Output.Marker
import Notebook.Path

/-! # Language families

The languages whose cells can be run. A family has a directory in the workspace with an entry file
that its programs are written to, a statement that prints the boundary marker, and programs that
run the entry file.
-/

namespace Notebook

/-- A shell, which runs a single cell as a script. -/
inductive ShellKind where
  | bash
  | zsh
  | fish
  | nushell
  | powershell
  deriving DecidableEq, Repr

/-- File extension of a shell's scripts. -/
def ShellKind.extension : ShellKind → String
  | .bash => "sh"
  | .zsh => "zsh"
  | .fish => "fish"
  | .nushell => "nu"
  | .powershell => "ps1"

/-- The languages that share a way of building and running programs. -/
inductive Family where
  | python
  | rust
  | go
  | javascript
  | typescript
  | zig
  | jai
  | shell (kind : ShellKind)
  deriving DecidableEq, Repr

namespace Family

/-- Languages with their families. -/
def languages : List (Text × Family) :=
  [("python", .python), ("rust", .rust), ("go", .go), ("javascript", .javascript),
    ("typescript", .typescript), ("zig", .zig), ("jai", .jai), ("bash", .shell .bash),
    ("shellscript", .shell .bash), ("zsh", .shell .zsh), ("fish", .shell .fish),
    ("nushell", .shell .nushell), ("powershell", .shell .powershell)]

/-- The family of a language, if its cells can be run. -/
def ofLanguage? (language : Text) : Option Family :=
  languages.lookup language

/-- The family is a shell. -/
def isShell : Family → Bool
  | .shell _ => true
  | _ => false

/-- Name of the family's directory in the workspace. -/
def dirName : Family → String
  | .python => "python"
  | .rust => "rust"
  | .go => "go"
  | .javascript => "javascript"
  | .typescript => "typescript"
  | .zig => "zig"
  | .jai => "jai"
  | .shell _ => "shell"

/-- The entry file seen from the family's directory. -/
def entryName : Family → String
  | .python => "mdlab.py"
  | .rust => "src/main.rs"
  | .go => "main.go"
  | .javascript => "main.js"
  | .typescript => "main.ts"
  | .zig => "main.zig"
  | .jai => "main.jai"
  | .shell kind => "main." ++ kind.extension

/-- The family's directory seen from the workspace. -/
def dir (family : Family) : Path :=
  family.dirName

/-- The entry file seen from the workspace. -/
def entryFile (family : Family) : Path :=
  family.dir.join family.entryName

/-- Programs that run the family, in order of preference. -/
def programs : Family → List Text
  | .python => ["python3", "python"]
  | .rust => ["cargo"]
  | .go => ["go"]
  | .javascript => ["node"]
  | .typescript => ["esr"]
  | .zig => ["zig"]
  | .jai => ["jai", "jai-linux"]
  | .shell .bash => ["bash"]
  | .shell .zsh => ["zsh"]
  | .shell .fish => ["fish"]
  | .shell .nushell => ["nu"]
  | .shell .powershell => ["pwsh", "powershell"]

/-- Page that tells how to install the programs. -/
def installUrl : Family → Text
  | .python => "https://www.python.org/downloads/"
  | .rust => "https://rustup.rs"
  | .go => "https://go.dev/doc/install"
  | .javascript => "https://nodejs.org/en/download/package-manager"
  | .typescript => "https://www.npmjs.com/package/esbuild-runner"
  | .zig => "https://www.zvm.app/guides/install-zvm/"
  | .jai => "https://github.com/Jai-Community/Jai-Community-Library/wiki/Getting-Started"
  | .shell .bash => "https://hackernoon.com/how-to-install-bash-on-windows-10-lqb73yj3"
  | .shell .zsh => "https://github.com/ohmyzsh/ohmyzsh/wiki/Installing-ZSH"
  | .shell .fish => "https://fishshell.com/"
  | .shell .nushell => "https://www.nushell.sh/book/installation.html"
  | .shell .powershell =>
    "https://learn.microsoft.com/en-us/powershell/scripting/install/install-powershell"

/-- Where a program of the family may be if no search path has it, given the home directory. -/
def fallbacks (family : Family) (home : Path) : List Path :=
  match family with
  | .zig => [home.join ".zvm/bin/zig"]
  | .jai => [home.join "jai/bin/jai-linux", home.join "jai/bin/jai-macos",
      home.join "jai/bin/jai.exe"]
  | _ => []

/-- The statement that prints the marker on a line of its own. -/
def markerStatement (family : Family) : Text :=
  let quoted : Text := "\"" ++ Output.marker ++ "\""
  match family with
  | .python => "print(" ++ quoted ++ ", flush=True)\n"
  | .rust => "println!(" ++ quoted ++ ");\n"
  | .go => "fmt.Println(" ++ quoted ++ ")\n"
  | .javascript | .typescript => "console.log(" ++ quoted ++ ");\n"
  | .zig => "std.debug.print(\"" ++ Output.marker ++ "\\n\", .\x7b\x7d);\n"
  | .jai => "print(\"" ++ Output.marker ++ "\\n\");\n"
  | .shell .nushell => "print " ++ quoted ++ "\n"
  | .shell .powershell => "Write-Host " ++ quoted ++ "\n"
  | .shell _ => "echo " ++ quoted ++ "\n"

end Family

end Notebook
