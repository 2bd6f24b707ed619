import Notebook.Failure
import Notebook.World.Basic

/-! # Responses

A command prints something, leaves a world, and may be refused for a reason. What it has printed
before it is refused stays printed.
-/

namespace Notebook.CommandLine

/-- Why a command is refused. -/
inductive Refusal where
  | failed (cause : Failure)
  /-- The operating system refuses, with nothing to add. -/
  | system (cause : SystemError)
  | notCanonical (document : Path)
  | unknownDirective (raw : Text) (known : List Text)
  | missingFileName
  | missingNotes (dir : Path)
  | failedCells (count total : Nat)
  deriving DecidableEq, Repr

/-- The text a refusal is reported by. -/
def Refusal.message : Refusal → Text
  | .failed cause => cause.messageWithHint
  | .system cause => cause.message
  | .notCanonical document => document.text ++ " is not in canonical form"
  | .unknownDirective raw known =>
    "unknown directive: " ++ raw ++ " (expected one of: " ++
      (", " : Text).intercalate (known ++ ["none".toList]) ++ ")"
  | .missingFileName => "create needs a file name, e.g. create=helpers.py"
  | .missingNotes dir =>
    "Notes directory not found: " ++ dir.text ++ " (run `mdlab init` to create it)"
  | .failedCells count total =>
    Text.ofNat count ++ " of " ++ Text.ofNat total ++ " cells failed"

/-- What a command does. -/
structure Response where
  printed : Text
  refusal : Option Refusal
  world : World

namespace Response

/-- The command is done. -/
def done (world : World) (printed : Text) : Response := ⟨printed, none, world⟩

/-- The command is refused, after it has printed something. -/
def refused (world : World) (printed : Text) (refusal : Refusal) : Response :=
  ⟨printed, some refusal, world⟩

/-- The command is refused for a failure that happened before it could do anything. -/
def failed (world : World) (cause : Failure) : Response := refused world [] (.failed cause)

end Response

end Notebook.CommandLine
