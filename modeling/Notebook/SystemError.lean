import Notebook.Text.Basic

/-! # Errors of the operating system

The ways in which an operation on files or processes fails, with the texts they are reported by.
-/

namespace Notebook

/-- Why the operating system refuses an operation. -/
inductive SystemError where
  | notFound
  | badExecutable
  | permissionDenied
  | alreadyExists
  | notADirectory
  | isADirectory
  | nameTooLong
  | directoryNotEmpty
  /-- A path with the character NUL in it, which the system never sees. -/
  | nulInPath
  /-- A file that is read as text and is none. -/
  | notUtf8
  /-- Any other failure, by its text. -/
  | other (message : Text)
  deriving DecidableEq, Repr

/-- The text an error is reported by. -/
def SystemError.message : SystemError → Text
  | .notFound => "No such file or directory (os error 2)"
  | .badExecutable => "Exec format error (os error 8)"
  | .permissionDenied => "Permission denied (os error 13)"
  | .alreadyExists => "File exists (os error 17)"
  | .notADirectory => "Not a directory (os error 20)"
  | .isADirectory => "Is a directory (os error 21)"
  | .nameTooLong => "File name too long (os error 36)"
  | .directoryNotEmpty => "Directory not empty (os error 39)"
  | .nulInPath => "file name contained an unexpected NUL byte"
  | .notUtf8 => "stream did not contain valid UTF-8"
  | .other message => message

end Notebook
