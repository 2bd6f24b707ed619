import Notebook.Text.Basic

/-! # Commands of the shell

The language of scripts, as far as the scripts of a notebook need it: words with quoting and the
values of parameters, simple commands, and the ways to combine them. There are no subshells,
pipelines, functions, patterns, substituted commands, or commands that read in it.
-/

namespace Notebook.Shell

/-- A part of a word. -/
inductive Part where
  | text (chars : Text) (isQuoted : Bool)
  | parameter (name : Text) (isQuoted : Bool)
  | arithmetic (expression : Text)
  deriving DecidableEq, Repr

/-- A word, part by part. -/
abbrev Word := List Part

/-- Where a redirection leads. -/
inductive RedirectionKind where
  /-- To a file, which is emptied. -/
  | output
  /-- To the end of a file. -/
  | append
  /-- To where another descriptor leads; a hyphen closes. -/
  | duplicate
  deriving DecidableEq, Repr

/-- A redirection of a descriptor. -/
structure Redirection where
  descriptor : Nat
  kind : RedirectionKind
  target : Word
  deriving DecidableEq, Repr

/-- A command. -/
inductive Command where
  | nothing
  | simple (line : Nat) (assignments : List (Text × Word)) (words : List Word)
      (redirections : List Redirection)
  | sequence (first second : Command)
  /-- The second command, if the first succeeds. -/
  | both (first second : Command)
  /-- The second command, if the first fails. -/
  | either (first second : Command)
  | negation (command : Command)
  | conditional (test positive negative : Command)
  /-- Repeated while the test succeeds, or until it does. -/
  | loop (isUntil : Bool) (test body : Command)
  /-- Repeated for each of the words, or for each argument of the script. -/
  | each (name : Text) (words : Option (List Word)) (body : Command)
  deriving DecidableEq, Repr

end Notebook.Shell
