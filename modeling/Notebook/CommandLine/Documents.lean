import Notebook.CommandLine.Response
import Notebook.CommandLine.Style
import Notebook.Document.Store

/-! # Commands on a document

Listing the cells of a document, bringing it into canonical form, and changing the directive of one
of its cells. A document that a command is refused for stays as it is.
-/

namespace Notebook.CommandLine

/-- The start of a cell's content that a list shows. -/
def preview (cell : Cell) : Text :=
  ((Text.lines cell.content).head?.getD []).take 50

/-- The line of a list for the cell at a position. -/
def describe (position : Nat) (cell : Cell) : Text :=
  let number := Text.alignRight 3 (Text.ofNat position)
  if cell.isCode then
    let directive : Text :=
      (cell.directive.map fun directive => ' ' :: ':' :: directive.render).getD []
    let output : Text := if cell.output.isSome then " [output]" else ""
    number ++ "  code   " ++ Style.cyan.apply (cell.language.getD [] ++ directive) ++ output ++
      "  " ++ preview cell
  else number ++ "  prose  " ++ Style.dim.apply (preview cell)

/-- Lists the cells of a document. -/
def list (world : World) (document : Path) : Response :=
  match Document.load world document with
  | .error cause => .failed world cause
  | .ok [] => .done world (Text.ofLines [Style.yellow.apply "No cells found."])
  | .ok cells =>
    .done world (Text.ofLines (cells.zipIdx.map fun (cell, position) => describe position cell))

/-- The canonical form of a document's text. -/
def canonical (text : Text) : Text :=
  Document.serialize (Document.parse text)

/-- Brings a document into canonical form, or only checks that it is in it. -/
def format (world : World) (document : Path) (check : Bool) : Response :=
  match world.files.readText world.cwd document with
  | .error cause => .refused world [] (.system cause)
  | .ok text =>
    if canonical text = text then
      .done world (Text.ofLines [Style.green.apply (document.text ++ " is canonical")])
    else if check then .refused world [] (.notCanonical document)
    else
      match world.files.write world.cwd document (Utf8.encode (canonical text)) with
      | .error cause => .refused world [] (.system cause)
      | .ok files =>
        .done { world with files := files }
          (Text.ofLines [Style.green.apply "Formatted" ++ " " ++ document.text])

/-- The directives that a cell can be given, with what they do. -/
def knownDirectives : List (Text × Text) :=
  [("restart", "Restart execution from this cell"),
    ("global", "Place code in global scope"),
    ("skip", "Always skip this cell during execution"),
    ("once", "Only execute this cell when it is the current cell"),
    ("create=<file>", "Write this cell to a file instead of running it"),
    ("clear", "Run the cell but leave its output alone")]

/-- A table of the directives that a cell can be given. -/
def directiveHelp : Text :=
  let row (entry : Text × Text) : Text := "  " ++ Text.alignLeft 15 entry.1 ++ " " ++ entry.2
  Text.ofPieces ("Directives:".toList ::
    knownDirectives.map row ++ [row ("none", "Remove the directive")])

/-- The directive that a user asks for; nothing and `none` ask to remove the one that is there. -/
def requestedDirective (raw : Option Text) : Except Refusal (Option Directive) :=
  let raw := Text.trim (raw.getD [])
  if raw = [] ∨ raw = ("none" : Text) then .ok none
  else
    match Directive.parse? raw with
    | some (.unrecognized raw) =>
      if Text.trim raw = ("create" : Text) ∨ ("create=" : Text).isPrefixOf raw then
        .error .missingFileName
      else .error (.unknownDirective raw (knownDirectives.map (·.1)))
    | directive => .ok directive

/-- The cells with the directive of the code cell at a position replaced. -/
def retag (cells : List Cell) (position : Nat) (directive : Option Directive) :
    Except Failure (List Cell) :=
  match cells[position]? with
  | none => .error (.cellNotFound position)
  | some cell =>
    if cell.isCode then .ok (cells.set position { cell with directive := directive })
    else .error (.notACodeCell position)

/-- The line that reports a new directive. -/
def reportTag (position : Nat) : Option Directive → Text
  | some directive =>
    Style.green.apply "Tagged" ++ " cell " ++ Text.ofNat position ++ " as " ++
      Style.cyan.apply (":" ++ directive.render)
  | none => Style.green.apply "Removed" ++ " directive from cell " ++ Text.ofNat position

/-- The world after the document has the directive at the cell. -/
def tagged (world : World) (document : Path) (position : Nat) (directive : Option Directive) :
    Except Failure World := do
  let cells ← Document.load world document
  Document.save world document (← retag cells position directive)

/-- Gives a cell of a document the directive that a user asks for. -/
def tag (world : World) (document : Path) (position : Nat) (raw : Option Text) : Response :=
  match requestedDirective raw with
  | .error refusal => .refused world [] refusal
  | .ok directive =>
    match tagged world document position directive with
    | .error cause => .failed world cause
    | .ok world => .done world (Text.ofLines [reportTag position directive])

end Notebook.CommandLine
