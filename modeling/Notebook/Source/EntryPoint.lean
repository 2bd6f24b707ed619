import Notebook.Source.Mask

/-! # Entry points

A cell may declare the entry point of a program itself. The declaration is looked for at bracket
depth zero of the masked source, as `keyword name (...) ... {...}` or as
`name :: (...) ... {...}`, and counts only if it is the only one and its brackets close. An entry
point is given as a cut of the source into the parts around and within the declaration, so putting
the parts together gives the source back, and an offset is the length of the parts before it.
-/

namespace Notebook.Source

/-- How a language declares its entry point. -/
inductive EntryForm where
  /-- `keyword name (...) ... {...}`, with an optional `pub` in front. -/
  | function (keyword name : Text)
  /-- `name :: (...) ... {...}`. -/
  | constant (name : Text)
  deriving DecidableEq, Repr

/-- A declaration cut out of a source. -/
structure EntryPoint where
  /-- The source before the declaration. -/
  before : Text
  /-- The declaration up to the name. -/
  lead : Text
  name : Text
  /-- The declaration after the name, through the brace that closes the body. -/
  tail : Text
  /-- The source after the declaration. -/
  after : Text
  /-- What stands between the parameters and the body, trimmed. -/
  returns : Text
  deriving DecidableEq, Repr

namespace EntryPoint

/-- Byte offsets of the declaration. -/
def span (entry : EntryPoint) : Nat × Nat :=
  let start := entry.before.byteLength
  (start, start + (entry.lead ++ entry.name ++ entry.tail : Text).byteLength)

/-- Byte offsets of the name. -/
def nameSpan (entry : EntryPoint) : Nat × Nat :=
  let start := (entry.before ++ entry.lead : Text).byteLength
  (start, start + entry.name.byteLength)

/-- The declaration under a new name. -/
def renamed (entry : EntryPoint) (newName : Text) : Text :=
  entry.lead ++ newName ++ entry.tail

/-- The source without the declaration. -/
def remainder (entry : EntryPoint) : Text :=
  entry.before ++ entry.after

end EntryPoint

/-- Splits glyphs after a phrase that the masked text starts with. -/
def takePhrase? : Text → List Glyph → Option (List Glyph × List Glyph)
  | [], rest => some ([], rest)
  | _ :: _, [] => none
  | c :: phrase, glyph :: rest =>
    if glyph.shown = c then
      (takePhrase? phrase rest).map fun (taken, after) => (glyph :: taken, after)
    else none

/-- Splits glyphs after the blanks at their start. -/
def takeBlanks (glyphs : List Glyph) : List Glyph × List Glyph :=
  (glyphs.takeWhile fun glyph => isAsciiBlank glyph.shown,
    glyphs.dropWhile fun glyph => isAsciiBlank glyph.shown)

/-- Splits glyphs after the bracket that closes the first opening one, given how many are open. -/
def takeClosed? (opening closing : Char) : Nat → List Glyph → Option (List Glyph × List Glyph)
  | _, [] => none
  | depth, glyph :: rest =>
    let more (depth : Nat) :=
      (takeClosed? opening closing depth rest).map fun (taken, after) => (glyph :: taken, after)
    if glyph.shown = opening then more (depth + 1)
    else if glyph.shown = closing then
      if depth ≤ 1 then some ([glyph], rest) else more (depth - 1)
    else more depth

/-- The glyphs do not start with a character of an identifier. -/
def endsWord (glyphs : List Glyph) : Bool :=
  !(glyphs.head?.any fun glyph => isAsciiIdentifierChar glyph.shown)

/-- A declaration at the start of glyphs, in parts. -/
structure Declaration where
  lead : List Glyph
  name : List Glyph
  /-- From the name through the bracket that closes the parameters. -/
  parameters : List Glyph
  /-- From the parameters to the body. -/
  result : List Glyph
  body : List Glyph
  after : List Glyph

/-- Number of glyphs of the declaration. -/
def Declaration.length (declaration : Declaration) : Nat :=
  declaration.lead.length + declaration.name.length + declaration.parameters.length +
    declaration.result.length + declaration.body.length

/-- What stands at the start of glyphs. -/
inductive Attempt where
  | found (declaration : Declaration)
  /-- A declaration starts here and one of its brackets does not close. -/
  | unbalanced
  | absent

/-- Reads parameters and body after a name. -/
def readBody (lead name gap glyphs : List Glyph) : Attempt :=
  if glyphs.head?.map (·.shown) = some '(' then
    match takeClosed? '(' ')' 0 glyphs with
    | none => .unbalanced
    | some (parameters, rest) =>
      let result := rest.takeWhile fun glyph =>
        glyph.shown ≠ '{' ∧ glyph.shown ≠ ';' ∧ glyph.shown ≠ '\x7d'
      let rest := rest.drop result.length
      if rest.head?.map (·.shown) = some '{' then
        match takeClosed? '{' '\x7d' 0 rest with
        | none => .unbalanced
        | some (body, after) => .found ⟨lead, name, gap ++ parameters, result, body, after⟩
      else .absent
  else .absent

/-- Reads a declaration at the start of glyphs. -/
def readDeclaration (form : EntryForm) (glyphs : List Glyph) : Attempt :=
  match form with
  | .function keyword name =>
    match takePhrase? keyword glyphs with
    | none => .absent
    | some (taken, rest) =>
      if rest.head?.any fun glyph => isAsciiBlank glyph.shown then
        let (gap, rest) := takeBlanks rest
        match takePhrase? name rest with
        | none => .absent
        | some (name, rest) =>
          if endsWord rest then
            readBody (taken ++ gap) name (takeBlanks rest).1 (takeBlanks rest).2
          else .absent
      else .absent
  | .constant name =>
    match takePhrase? name glyphs with
    | none => .absent
    | some (name, rest) =>
      if endsWord rest then
        let (gap, rest) := takeBlanks rest
        match takePhrase? "::" rest with
        | none => .absent
        | some (colons, rest) =>
          readBody [] name (gap ++ colons ++ (takeBlanks rest).1) (takeBlanks rest).2
      else .absent

/-- Takes `pub` and the blanks after it off the end of glyphs given in reverse; with it comes what
was taken, in order. -/
def takeVisibility (before : List Glyph) : List Glyph × List Glyph :=
  let isGap (glyph : Glyph) : Bool := glyph.shown = ' ' ∨ glyph.shown = '\t'
  let gap := before.takeWhile isGap
  match takePhrase? "bup" (before.dropWhile isGap) with
  | some (word, rest) =>
    if rest.head?.any fun glyph => isIdentifierChar glyph.shown then (before, [])
    else (rest, (gap ++ word).reverse)
  | none => (before, [])

/-- The entry point made of a declaration and the glyphs before it, in reverse. -/
def entryOf (form : EntryForm) (before : List Glyph) (declaration : Declaration) : EntryPoint :=
  let (before, visibility) :=
    match form with
    | .function _ _ => takeVisibility before
    | .constant _ => (before, [])
  { before := Glyph.sourceText before.reverse
    lead := Glyph.sourceText (visibility ++ declaration.lead)
    name := Glyph.sourceText declaration.name
    tail := Glyph.sourceText (declaration.parameters ++ declaration.result ++ declaration.body)
    after := Glyph.sourceText declaration.after
    returns := Text.trim (Glyph.sourceText declaration.result) }

/-- The declarations at depth zero, or none if one of them does not close. The glyphs before are in
reverse; as many of the next ones as are skipped belong to a declaration found already. -/
def declarations? (form : EntryForm) :
    (skipped : Nat) → (before : List Glyph) → (depth : Int) → List Glyph → Option (List EntryPoint)
  | _, _, _, [] => some []
  | skipped + 1, before, depth, glyph :: rest =>
    declarations? form skipped (glyph :: before) depth rest
  | 0, before, depth, glyph :: rest =>
    let c := glyph.shown
    if c = '{' ∨ c = '(' ∨ c = '[' then declarations? form 0 (glyph :: before) (depth + 1) rest
    else if c = '\x7d' ∨ c = ')' ∨ c = ']' then
      declarations? form 0 (glyph :: before) (depth - 1) rest
    else if depth = 0 ∧ ¬ before.head?.any fun glyph => isAsciiIdentifierChar glyph.shown then
      match readDeclaration form (glyph :: rest) with
      | .found declaration =>
        (declarations? form (declaration.length - 1) (glyph :: before) depth rest).map
          (entryOf form before declaration :: ·)
      | .unbalanced => none
      | .absent => declarations? form 0 (glyph :: before) depth rest
    else declarations? form 0 (glyph :: before) depth rest

/-- The entry point that a source declares, if it is the only one. -/
def entryPoint? (lexicon : Lexicon) (form : EntryForm) (source : Text) : Option EntryPoint :=
  match declarations? form 0 [] 0 (glyphs lexicon source) with
  | some [entry] => some entry
  | _ => none

end Notebook.Source
