import Notebook.Program.Python
import Notebook.Proofs.Source.Offsets
import Notebook.Proofs.Source.Search
import Notebook.Proofs.Text.Phrase
import Notebook.Proofs.Text.Trim

/-! # Calls that flush

A line that starts like a call of `print` and ends with a parenthesis gets one more argument ahead
of that parenthesis, and a second pass finds nothing to add. The parenthesis is the one that closes
the call if and only if the brackets between the two are balanced. If the call has ended before, or
is still open, the argument goes to something else on the line.
-/

namespace Notebook.Python

open Source

/-! ## Lines taken for one call -/

/-- The parts of a line that is taken for one call of `print`. -/
structure PrintLine where
  indent : Text
  arguments : Text
  after : Text
  isIndent : indent.isBlank = true
  isLast : after.isBlank = true
  unflushed : ¬("flush=" : Text) <:+: indent ++ ("print(" ++ (arguments ++ ')' :: after))

/-- What is added to the arguments of a call. -/
def flushArgument (arguments : Text) : Text :=
  if arguments.trim = [] then "flush=True" else ", flush=True"

theorem infix_flushArgument (arguments : Text) :
    ("flush=" : Text) <:+: flushArgument arguments := by
  rw [flushArgument]
  split_ifs
  · exact ⟨[], "True", rfl⟩
  · exact ⟨", ", "True", rfl⟩

theorem not_mem_flushArgument {c : Char} (other : c ∉ (", flush=True" : Text)) (arguments : Text) :
    c ∉ flushArgument arguments := by
  rw [flushArgument]
  split_ifs
  · exact fun member => other (List.mem_append_right ", ".toList member)
  · exact other

namespace PrintLine

variable (call : PrintLine)

/-- The line up to the parenthesis at its end. -/
def start : Text :=
  call.indent ++ ("print(" ++ call.arguments)

def text : Text :=
  call.start ++ ')' :: call.after

/-- The line with one more argument. -/
def flushed : Text :=
  call.start ++ (flushArgument call.arguments ++ ')' :: call.after)

theorem text_eq :
    call.text = call.indent ++ ("print(" ++ (call.arguments ++ ')' :: call.after)) := by
  simp only [text, start, List.append_assoc]

theorem trimStart_text :
    call.text.trimStart = "print(" ++ (call.arguments ++ ')' :: call.after) := by
  rw [text_eq, Text.trimStart_append call.isIndent]
  rfl

theorem trimEnd_text : call.text.trimEnd = call.start ++ [')'] := by
  rw [text, List.append_cons, Text.trimEnd_append call.isLast]
  exact Text.trimEnd_concat_of_visible rfl _

theorem takeWhile_text : call.text.takeWhile isBlank = call.indent := by
  rw [text_eq, List.takeWhile_append_of_pos (List.all_eq_true.mp call.isIndent)]
  exact List.append_nil _

theorem hasPhrase_text : call.text.hasPhrase "flush=" = false := by
  rw [text_eq]
  exact Text.hasPhrase_eq_false_iff.mpr call.unflushed

/-- The parenthesis at the end is the last one of the line. -/
theorem not_mem_after : ')' ∉ call.after :=
  Text.not_mem_of_isBlank call.isLast rfl

theorem flushLine_text : flushLine call.text = call.flushed := by
  have opens : ("print(" : Text).isPrefixOf? call.text.trimStart =
      some (call.arguments ++ ')' :: call.after) :=
    List.isPrefixOf?_eq_some_iff_append_eq.mpr call.trimStart_text.symm
  have closes : call.text.trimEnd.getLast? = some ')' := by
    rw [trimEnd_text, List.getLast?_concat]
  have place : call.text.trimEnd.length - 1 = call.start.length := by
    rw [trimEnd_text, List.length_append, List.length_singleton, Nat.add_sub_cancel]
  have arguments : call.start.drop (call.indent.length + ("print(" : Text).length) =
      call.arguments := by
    rw [start, ← List.append_assoc, ← List.length_append]
    exact List.drop_left
  rw [flushLine, opens]
  dsimp only
  rw [if_pos ⟨closes, by rw [hasPhrase_text]; rfl⟩, place, takeWhile_text, text,
    List.take_left, List.drop_left, arguments, List.append_assoc, flushed, flushArgument]
  split_ifs <;> rfl

/-- A line that has its argument is not taken for a call again. -/
theorem infix_flushed : ("flush=" : Text) <:+: call.flushed :=
  (infix_flushArgument call.arguments).trans (List.infix_append' ..)

end PrintLine

/-- A line that starts and ends like a call has the parts of one. -/
theorem exists_printLine {line rest : Text} (starts : line.trimStart = "print(" ++ rest)
    (closes : line.trimEnd.getLast? = some ')') (unflushed : line.hasPhrase "flush=" = false) :
    ∃ call : PrintLine, line = call.text := by
  obtain ⟨before, last⟩ := List.getLast?_eq_some_iff.mp closes
  obtain ⟨after, ends, isLast⟩ := Text.exists_trimEnd_append line
  have start : line = line.takeWhile isBlank ++ "print(" ++ rest := by
    rw [List.append_assoc, ← starts]
    exact List.takeWhile_append_dropWhile.symm
  have isIndent := Text.isBlank_takeWhile line
  rw [last, List.append_assoc] at ends
  -- No closing parenthesis stands ahead of the arguments.
  have absent : ')' ∉ line.takeWhile isBlank ++ "print(" := by
    rw [List.mem_append, not_or]
    exact ⟨Text.not_mem_of_isBlank isIndent rfl, by decide⟩
  obtain ⟨arguments, behind⟩ : ∃ arguments, rest = arguments ++ ')' :: after := by
    obtain ⟨arguments, _, behind⟩ | ⟨inside, ahead, behind⟩ :=
      List.append_eq_append_iff.mp (start.symm.trans ends)
    · exact ⟨arguments, behind⟩
    · cases inside with
      | nil => exact ⟨[], behind.symm⟩
      | cons c inside =>
        obtain rfl : ')' = c := List.head_eq_of_cons_eq behind
        rw [ahead] at absent
        exact absurd (List.mem_append_right _ (List.mem_cons_self ..)) absent
  have whole : line = line.takeWhile isBlank ++ ("print(" ++ (arguments ++ ')' :: after)) := by
    conv_lhs => rw [start, behind, List.append_assoc]
  refine ⟨⟨_, arguments, after, isIndent, isLast, ?_⟩, ?_⟩
  · rw [← whole]
    exact Text.hasPhrase_eq_false_iff.mp unflushed
  · rw [PrintLine.text_eq]
    exact whole

/-- A line is left alone, or it is taken for a call and gets one more argument. -/
theorem flushLine_cases (line : Text) :
    flushLine line = line ∨
      ∃ call : PrintLine, line = call.text ∧ flushLine line = call.flushed := by
  rw [flushLine]
  split
  next => exact .inl rfl
  next rest opens =>
    split
    next ends =>
      obtain ⟨call, same⟩ := exists_printLine
        (List.isPrefixOf?_eq_some_iff_append_eq.mp opens).symm ends.1 (by simpa using ends.2)
      refine .inr ⟨call, same, ?_⟩
      have flushes := call.flushLine_text
      rw [← same, flushLine, opens] at flushes
      rw [← flushes]
      exact (if_pos ends).symm
    next => exact .inl rfl

theorem flushLine_of_infix {line : Text} (flushed : ("flush=" : Text) <:+: line) :
    flushLine line = line := by
  obtain same | ⟨call, same, _⟩ := flushLine_cases line
  · exact same
  · rw [same, PrintLine.text_eq] at flushed
    exact absurd flushed call.unflushed

theorem flushLine_flushLine (line : Text) : flushLine (flushLine line) = flushLine line := by
  obtain same | ⟨call, _, flushes⟩ := flushLine_cases line
  · rw [same, same]
  · rw [flushes, flushLine_of_infix call.infix_flushed]

theorem not_mem_flushLine {line : Text} {c : Char} (other : c ∉ (", flush=True" : Text))
    (absent : c ∉ line) : c ∉ flushLine line := by
  obtain same | ⟨call, same, flushes⟩ := flushLine_cases line
  · rwa [same]
  · rw [same, PrintLine.text, List.mem_append, not_or] at absent
    rw [flushes, PrintLine.flushed, List.mem_append, List.mem_append, not_or, not_or]
    exact ⟨absent.1, not_mem_flushArgument other _, absent.2⟩

/-- The lines of a text stay apart. -/
theorem pieces_addFlush (content : Text) :
    (addFlush content).pieces = content.pieces.map flushLine := by
  apply Text.pieces_ofPieces
  · intro line member
    obtain ⟨piece, isPiece, rfl⟩ := List.mem_map.mp member
    exact not_mem_flushLine (by decide) (Text.newline_not_mem_of_mem_pieces isPiece)
  · exact List.map_eq_nil_iff.not.mpr (Text.pieces_ne_nil content)

theorem addFlush_addFlush (content : Text) : addFlush (addFlush content) = addFlush content := by
  conv_lhs => rw [addFlush, pieces_addFlush, List.map_map]
  rw [addFlush]
  congr 1
  exact List.map_congr_left fun line _ => flushLine_flushLine line

/-! ## The parenthesis that closes the call -/

/-- The text cut at the bracket that closes the brackets open ahead of it, by counting: at the
first one behind which the depth is zero. -/
def cutClosing? : Int → Text → Option (Text × Text)
  | _, [] => none
  | depth, c :: rest =>
    if depthStep depth c = 0 then some ([], rest)
    else (cutClosing? (depthStep depth c) rest).map fun (before, after) => (c :: before, after)

/-- The text closes as many brackets as it opens, and no beginning of it closes more. -/
structure IsBalanced (text : Text) : Prop where
  level : text.foldl depthStep 0 = 0
  inside : ∀ start, start <+: text → 0 ≤ start.foldl depthStep 0

theorem cutClosing?_eq_some_iff {depth : Int} {before after : Text} (inside : 0 < depth) :
    cutClosing? depth (before ++ ')' :: after) = some (before, after) ↔
      before.foldl depthStep depth = 1 ∧
        ∀ start, start <+: before → 0 < start.foldl depthStep depth := by
  induction before generalizing depth with
  | nil =>
    have closes : depthStep depth ')' = depth - 1 := rfl
    rw [List.nil_append, cutClosing?, closes]
    split_ifs with last
    · simp [inside]
      omega
    · simp
      omega
  | cons c before ih =>
    have down : depth - 1 ≤ depthStep depth c := by
      rw [depthStep]
      split_ifs <;> omega
    rw [List.cons_append, cutClosing?, List.foldl_cons]
    split_ifs with last
    · refine iff_of_false (by simp) fun both => ?_
      have here := both.2 [c] (List.cons_prefix_cons.mpr ⟨rfl, List.nil_prefix⟩)
      rw [List.foldl_cons, last] at here
      exact absurd here (by decide)
    · rw [Option.map_eq_some_iff]
      constructor
      · rintro ⟨⟨start, rest⟩, cut, same⟩
        obtain ⟨heads, rfl⟩ := Prod.mk.inj same
        obtain rfl := List.tail_eq_of_cons_eq heads
        obtain ⟨level, above⟩ := (ih (by omega)).mp cut
        refine ⟨level, fun start isStart => ?_⟩
        rcases List.prefix_cons_iff.mp isStart with rfl | ⟨more, rfl, isMore⟩
        · exact inside
        · exact above more isMore
      · rintro ⟨level, above⟩
        refine ⟨(before, after), (ih (by omega)).mpr ⟨level, fun start isStart => ?_⟩, rfl⟩
        exact above (c :: start) (List.cons_prefix_cons.mpr ⟨rfl, isStart⟩)

namespace PrintLine

variable (call : PrintLine)

/-- The parenthesis at the end is the one that closes the call. -/
def IsClosed : Prop :=
  cutClosing? 1 (call.arguments ++ ')' :: call.after) = some (call.arguments, call.after)

theorem isClosed_iff : call.IsClosed ↔ IsBalanced call.arguments := by
  rw [IsClosed, cutClosing?_eq_some_iff Int.one_pos]
  have shift := fun text : Text => foldl_depthStep_eq_add text 1
  constructor
  · rintro ⟨level, above⟩
    rw [shift] at level
    refine ⟨by omega, fun start isStart => ?_⟩
    have positive := above start isStart
    rw [shift] at positive
    omega
  · rintro ⟨level, above⟩
    rw [shift, level]
    refine ⟨rfl, fun start isStart => ?_⟩
    have inside := above start isStart
    rw [shift]
    omega

end PrintLine

/-! ## Flushing by offsets -/

/-- The offset ahead of the last byte. -/
def lastOffset (text : Text) : Except Fault Nat :=
  match text.byteLength with
  | 0 => .error .count
  | length + 1 => .ok length

/-- Adds `flush=True` to a line by byte offsets, each of which is checked. -/
def flushAt (line : Text) : Except Fault Text :=
  if ("print(" : Text).isPrefixOf line.trimStart ∧ line.trimEnd.getLast? = some ')' ∧
      !line.hasPhrase "flush=" then do
    let close ← lastOffset line.trimEnd
    let opened := ((line.cutPhrase? "print(").map fun (before, _) =>
      before.byteLength + Text.byteLength "print(").getD close
    let arguments ← slice line opened close
    let before ← slice line 0 close
    let behind ← slice line close line.byteLength
    pure (before ++ flushArgument arguments ++ behind)
  else pure line

theorem PrintLine.flushAt_text (call : PrintLine) : flushAt call.text = .ok call.flushed := by
  have opens : ("print(" : Text).isPrefixOf call.text.trimStart = true := by
    rw [call.trimStart_text]
    exact List.isPrefixOf_iff_prefix.mpr (List.prefix_append ..)
  have closes : call.text.trimEnd.getLast? = some ')' := by
    rw [trimEnd_text, List.getLast?_concat]
  have close : lastOffset call.text.trimEnd = .ok call.start.byteLength := by
    have length : call.text.trimEnd.byteLength = call.start.byteLength + 1 := by
      rw [trimEnd_text, Utf8.byteLength_append]
      rfl
    rw [lastOffset, length]
  have found : call.text.cutPhrase? "print(" =
      some (call.indent, call.arguments ++ ')' :: call.after) := by
    rw [text_eq]
    exact Text.cutPhrase?_append (Text.not_mem_of_isBlank call.isIndent (c := 'p') rfl) _
  have arguments : slice call.text (call.indent.byteLength + Text.byteLength "print(")
      call.start.byteLength = .ok call.arguments := by
    have part := slice_append (call.indent ++ "print(") call.arguments (')' :: call.after)
    rw [Utf8.byteLength_append, List.append_assoc call.indent] at part
    exact part
  have before : slice call.text 0 call.start.byteLength = .ok call.start :=
    slice_append [] call.start (')' :: call.after)
  have behind : slice call.text call.start.byteLength call.text.byteLength =
      .ok (')' :: call.after) := by
    have part := slice_append call.start (')' :: call.after) []
    rwa [List.append_nil] at part
  rw [flushAt, if_pos ⟨opens, closes, by rw [hasPhrase_text]; rfl⟩, close, found]
  dsimp only [bind, Except.bind, Option.map_some, Option.getD_some]
  rw [arguments, before, behind]
  dsimp only
  rw [flushed, ← List.append_assoc]
  rfl

/-- No offset is out of range, and none is within a character. -/
theorem flushAt_eq (line : Text) : flushAt line = .ok (flushLine line) := by
  by_cases taken : ∃ call : PrintLine, line = call.text
  · obtain ⟨call, rfl⟩ := taken
    rw [call.flushAt_text, call.flushLine_text]
  · obtain same | ⟨call, isCall, _⟩ := flushLine_cases line
    · rw [same, flushAt, if_neg]
      · rfl
      · rintro ⟨opens, closes, unflushed⟩
        obtain ⟨rest, starts⟩ := List.isPrefixOf_iff_prefix.mp opens
        exact taken (exists_printLine starts.symm closes (by simpa using unflushed))
    · exact absurd ⟨call, isCall⟩ taken

/-! ## Texts -/

/-- Flushing goes line by line, and doing it again changes nothing. On each line every offset is
within the line, and the line is left alone or gets one more argument ahead of its last parenthesis.
Any line that is taken for a call is given the argument; it goes to the call that starts the line
if and only if the brackets between the two parentheses are balanced. -/
theorem addFlush_lines (content : Text) :
    (addFlush content).pieces = content.pieces.map flushLine ∧
      (addFlush content).pieces.length = content.pieces.length ∧
      addFlush (addFlush content) = addFlush content ∧
      ∀ line : Text, flushAt line = .ok (flushLine line) ∧
        (flushLine line = line ∨ ∃ call : PrintLine, line = call.text ∧
          flushLine line =
            call.start ++ (flushArgument call.arguments ++ ')' :: call.after)) ∧
        ∀ call : PrintLine, line = call.text →
          ')' ∉ call.after ∧ flushLine line = call.flushed ∧ flushLine line ≠ line ∧
            (call.IsClosed ↔ IsBalanced call.arguments) := by
  refine ⟨pieces_addFlush content, ?_, addFlush_addFlush content, fun line => ?_⟩
  · rw [pieces_addFlush, List.length_map]
  · refine ⟨flushAt_eq line, flushLine_cases line, ?_⟩
    rintro call rfl
    refine ⟨call.not_mem_after, call.flushLine_text, ?_, call.isClosed_iff⟩
    intro same
    have flushed := call.infix_flushed
    rw [← call.flushLine_text, same, call.text_eq] at flushed
    exact call.unflushed flushed

/-- A statement behind the call has its own parenthesis at the end of the line. -/
theorem flushLine_second_call :
    ∃ call : PrintLine, call.text = "print(a); foo(b)" ∧
      (∀ c ∈ ['"', '\'', '#'], c ∉ call.text) ∧
      addFlush call.text = "print(a); foo(b, flush=True)" ∧
      cutClosing? 1 (call.arguments ++ ')' :: call.after) =
        some (("a" : Text), ("; foo(b)" : Text)) ∧
      ¬call.IsClosed := by
  refine ⟨⟨[], "a); foo(b", [], rfl, rfl, Text.hasPhrase_eq_false_iff.mp
    (rfl : Text.hasPhrase "print(a); foo(b)" "flush=" = false)⟩, rfl, ?_, rfl, rfl, ?_⟩
  · simp only [List.forall_mem_cons]
    exact ⟨by decide, by decide, by decide, nofun⟩
  · rw [PrintLine.IsClosed]
    decide

end Notebook.Python
