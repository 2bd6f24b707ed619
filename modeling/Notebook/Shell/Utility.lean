import Notebook.Shell.Format
import Notebook.World.FileTree

/-! # Utilities

The programs that every world has. Each is a function of its arguments and the files; it writes and
may take some time. The shell runs some of them itself. There is nothing to read for any of them.
-/

namespace Notebook.Shell

/-- A program that every world has. -/
inductive Utility where
  | cat
  | echo
  | exitFalse
  | exitTrue
  | printf
  | sleep
  | workingDirectory
  deriving DecidableEq, Repr

namespace Utility

/-- The utilities by their names. -/
def names : List (Text × Utility) :=
  [("cat", .cat), ("echo", .echo), ("false", .exitFalse), ("true", .exitTrue),
    ("printf", .printf), ("sleep", .sleep), ("pwd", .workingDirectory)]

/-- The directories that programs of the system are in. -/
def directories : List Place := [["bin"], ["usr", "bin"]]

/-- The name of the program of the system at a place. -/
def programName? (place : Place) : Option Text :=
  if place.dropLast ∈ directories then place.getLast? else none

/-- The places of the shell and of all utilities. -/
def places : List Place :=
  let programs : List Text := "sh" :: names.map (·.1)
  directories.flatMap fun directory => programs.map fun program => directory ++ [program]

/-- What a utility does. -/
structure Effect where
  status : Nat := 0
  written : List UInt8 := []
  complaints : List Text := []
  /-- How long it takes, in milliseconds. -/
  pause : Nat := 0

/-- An error without the number of its kind. -/
def briefMessage (cause : SystemError) : Text :=
  match cause.message.cutPhrase? " (os error" with
  | some (brief, _) => brief
  | none => cause.message

/-- The milliseconds that a number of seconds stands for. -/
def milliseconds? (seconds : Text) : Option Nat := do
  let (whole, part) := (seconds.cut? '.').getD (seconds, [])
  let whole ← if whole = [] ∧ part ≠ [] then some 0 else Text.toNat? whole
  let part ← Text.toNat? ((part ++ "000").take 3)
  return whole * 1000 + part

/-- What a utility does. The shell's own `echo` reads escapes. -/
def run (utility : Utility) (isOwn : Bool) (arguments : List Text) (files : FileTree)
    (cwd : Place) : Effect :=
  match utility with
  | .exitTrue => {}
  | .exitFalse => { status := 1 }
  | .echo => { written := Format.echo isOwn arguments }
  | .workingDirectory => { written := Utf8.encode ((Path.ofKey cwd).text ++ "\n") }
  | .printf =>
    match arguments with
    | [] => { status := 2, complaints := ["usage: printf format [arg ...]"] }
    | format :: rest => { written := Format.printf format rest }
  | .sleep =>
    match arguments.find? fun argument => (milliseconds? argument).isNone with
    | some argument => { status := 1, complaints := ["invalid time interval '" ++ argument ++ "'"] }
    | none => { pause := (arguments.filterMap milliseconds?).foldl (· + ·) 0 }
  | .cat =>
    let read := arguments.map fun argument => (argument, files.read cwd ⟨argument⟩)
    let complaints := read.filterMap fun (argument, contents) =>
      match contents with
      | .ok _ => none
      | .error cause => some (argument ++ ": " ++ briefMessage cause)
    { status := if complaints = [] then 0 else 1
      written := read.flatMap fun (_, contents) => contents.toOption.getD []
      complaints := complaints }

end Utility

end Notebook.Shell
