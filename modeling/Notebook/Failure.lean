import Notebook.History
import Notebook.Path
import Notebook.SystemError

/-! # Failures

The ways in which a request to the notebook fails. Errors in the code of cells are not among them:
they are part of the output of the cell.
-/

namespace Notebook

/-- Why a request fails. -/
inductive Failure where
  /-- No program for the language was found; the page tells where to get one. -/
  | toolchainMissing (program installUrl : Text)
  /-- A process could not be started. -/
  | spawn (program : Path) (cause : SystemError)
  | unsupportedLanguage (language : Text)
  | cellNotFound (position : Nat)
  | notACodeCell (position : Nat)
  /-- The settings file cannot be read. -/
  | settings (path : Path) (reason : Text)
  /-- The settings file is not well formed. -/
  | malformedSettings (path : Path)
  | readDocument (path : Path) (reason : Text)
  | writeDocument (path : Path) (reason : Text)
  | system (cause : SystemError)
  deriving DecidableEq, Repr

namespace Failure

/-- The failure of a request for a cell that has no history. -/
def ofHistoryError : HistoryError → Failure
  | .missing position => .cellNotFound position
  | .notCode position => .notACodeCell position

/-- The text a failure is reported by. -/
def message : Failure → Text
  | .toolchainMissing program _ => "command: " ++ program ++ " not on path"
  | .spawn program cause => "failed to start " ++ program.text ++ ": " ++ cause.message
  | .unsupportedLanguage language => "unsupported language: " ++ language
  | .cellNotFound position => "cell not found at position " ++ Text.ofNat position
  | .notACodeCell position => "cell " ++ Text.ofNat position ++ " is not a code cell"
  | .settings path reason => "config error in " ++ path.text ++ ": " ++ reason
  | .malformedSettings path => "config error in " ++ path.text ++ ": malformed file"
  | .readDocument path reason => "Failed to read file " ++ path.text ++ ": " ++ reason
  | .writeDocument path reason => "Failed to write file " ++ path.text ++ ": " ++ reason
  | .system cause => "IO error: " ++ cause.message

/-- The text of a failure with advice on what to do about it. -/
def messageWithHint (failure : Failure) : Text :=
  match failure with
  | .toolchainMissing program installUrl =>
    failure.message ++ "\n  hint: add " ++ program ++ " to PATH or install it from " ++ installUrl
  | .unsupportedLanguage _ =>
    failure.message ++ "\n  hint: supported languages are python, rust, go, javascript, " ++
      "typescript, zig and shells"
  | .settings _ _ | .malformedSettings _ =>
    failure.message ++ "\n  hint: run with --config to use another file"
  | _ => failure.message

end Failure

end Notebook
