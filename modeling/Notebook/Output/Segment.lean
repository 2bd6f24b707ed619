import Notebook.Output.Marker
import Notebook.Text.Utf8

/-! # Output segments

The output of a program is cut at its boundaries, where a boundary is the marker with one separator
after it. Segment zero is what came before the first boundary, often the messages of a compiler,
and segment `i` belongs to entry `i` of the history.

While the program runs, the end of the output may be a boundary that has come in part. That part is
not settled and is held back.
-/

namespace Notebook.Output

/-- What may follow the marker; of two that fit, the earlier counts. -/
def separators : List Text := ["\r\n", "\n", ",", "\"", " "]

/-- Length of the boundary at the start of a text. -/
def boundaryLength? (text : Text) : Option Nat :=
  match marker.isPrefixOf? text with
  | some rest =>
    (separators.find? fun separator => separator.isPrefixOf rest).map fun separator =>
      marker.length + separator.length
  | none => none

/-- Puts a character in front of the first segment. -/
def consFirst (c : Char) : List Text → List Text
  | [] => [[c]]
  | segment :: rest => (c :: segment) :: rest

/-- The segments of a text, given how many characters of a boundary are still to be passed. -/
def splitFrom : Nat → Text → List Text
  | _, [] => [[]]
  | pending + 1, _ :: rest => splitFrom pending rest
  | 0, c :: rest =>
    match boundaryLength? (c :: rest) with
    | some length => [] :: splitFrom (length - 1) rest
    | none => consFirst c (splitFrom 0 rest)

/-- The segments of a text; there is always at least one. -/
def split (text : Text) : List Text :=
  splitFrom 0 text

/-- What a boundary that has come in part may look like, the longest first: a marker whose separator
has come in part, a marker, or the beginning of one. -/
def unfinished : List Text :=
  (marker ++ ['\r']) :: (List.range marker.length).reverse.map fun n => marker.take (n + 1)

/-- The end of a text that may become a boundary; of several such ends, the longest. -/
def heldBack (text : Text) : Text :=
  let ending := text.drop (text.length - (marker.length + 1))
  (unfinished.find? fun held => held.isSuffixOf ending).getD []

/-- A text without a boundary at its end that may be incomplete. -/
def settled (text : Text) : Text :=
  text.take (text.length - (heldBack text).length)

/-- The text of bytes received so far. A character that is cut off at the end is left out, unless
the bytes are malformed before it. -/
def decode (bytes : List UInt8) : Text :=
  let read := Utf8.run none bytes
  if read.pending.isSome && !read.chars.contains none then read.chars.filterMap id
  else Utf8.decodeLossy bytes

/-- Output received so far, with the number of the segment to report. -/
structure Collector where
  target : Nat
  bytes : List UInt8
  deriving DecidableEq, Repr

namespace Collector

/-- A collector that has received nothing. -/
def new (target : Nat) : Collector := ⟨target, []⟩

/-- Receives a chunk of output. -/
def push (collector : Collector) (chunk : List UInt8) : Collector :=
  { collector with bytes := collector.bytes ++ chunk }

/-- The segments of the settled output. -/
def segments (collector : Collector) : List Text :=
  split (settled (decode collector.bytes))

/-- A trimmed segment, unless it is blank. -/
def shown? (segment : Text) : Option Text :=
  if segment.trim = [] then none else some segment.trim

/-- The output of the target segment while the program runs. -/
def visible? (collector : Collector) : Option Text :=
  (collector.segments[collector.target]?).bind shown?

/-- All segments, once the program has ended. -/
def allSegments (collector : Collector) : List Text :=
  split (decode collector.bytes)

/-- The output to keep once the program has ended: of the target segment, or of the last one if the
target was never reached. -/
def final? (collector : Collector) : Option Text :=
  (collector.allSegments[collector.target]?.or collector.allSegments.getLast?).bind shown?

/-- The program printed something besides boundaries. -/
def hasOutput (collector : Collector) : Bool :=
  collector.allSegments.any fun segment => segment.trim ≠ []

end Collector

end Notebook.Output
