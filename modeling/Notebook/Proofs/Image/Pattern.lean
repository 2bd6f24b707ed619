import Notebook.Image
import Notebook.Proofs.Text.Trim

/-! # Images of a text

An image stands where the pattern of an image fits, and the text between its quotes is the source
with a version at its end if it has one. Reading a text from left to right takes every image that
starts outside the ones before it, and what is read is the whole text again.
-/

namespace Notebook

namespace Image

/-! ## Parts of an image -/

/-- The text up to the quote that opens a source. -/
def IsHead (head : Text) : Prop :=
  ∃ name equals quote : Text, name.isBlank = true ∧ equals.isBlank = true ∧ quote.isBlank = true ∧
    head = "<img" ++ (name ++ "src") ++ (equals ++ "=") ++ (quote ++ "\"")

/-- The number of a version, in decimal digits of any script. -/
structure IsVersion (digits : Text) : Prop where
  filled : digits ≠ []
  digit : ∀ c ∈ digits, isDigit c = true

/-- The version as it is written behind a source. -/
def versionText : Option Text → Text
  | some digits => versionMark ++ digits
  | none => []

/-- A source and its version: a source without one does not end like one that has a version. -/
structure IsVersioned (source : Text) (version : Option Text) : Prop where
  number : ∀ digits, version = some digits → IsVersion digits
  plain : version = none → ∀ start digits, source = start ++ (versionMark ++ digits) →
    ¬IsVersion digits

/-- An image as it may stand in a text. -/
structure IsWhole (image : Image) : Prop where
  isHead : IsHead image.head
  unquoted : '"' ∉ image.source
  versioned : IsVersioned image.source image.version

theorem render_eq (image : Image) :
    image.render = image.head ++ (image.source ++ versionText image.version ++ ['"']) := by
  cases version : image.version <;> simp [render, versionText, version]

theorem IsVersion.not_mem {digits : Text} (number : IsVersion digits) {c : Char}
    (other : isDigit c = false) : c ∉ digits := by
  intro member
  rw [number.digit c member] at other
  cases other

theorem IsVersioned.not_mem_versionText {source : Text} {version : Option Text}
    (versioned : IsVersioned source version) : '"' ∉ versionText version := by
  cases version with
  | none => exact List.not_mem_nil
  | some digits =>
    rw [versionText, List.mem_append, not_or]
    exact ⟨by decide, (versioned.number digits rfl).not_mem (by decide)⟩

/-! ## Source and version -/

theorem isVersioned_nil : IsVersioned [] none where
  number := nofun
  plain _ start digits split := by
    have filled := (List.append_eq_nil_iff.mp split.symm).2
    cases filled

theorem splitVersion_spec (body : Text) :
    body = (splitVersion body).1 ++ versionText (splitVersion body).2 ∧
      IsVersioned (splitVersion body).1 (splitVersion body).2 := by
  induction body with
  | nil => exact ⟨rfl, isVersioned_nil⟩
  | cons c rest ih =>
    obtain ⟨split, versioned⟩ := ih
    have kept (ahead : ∀ digits, versionMark ++ digits = c :: rest → ¬IsVersion digits) :
        c :: rest = c :: (splitVersion rest).1 ++ versionText (splitVersion rest).2 ∧
          IsVersioned (c :: (splitVersion rest).1) (splitVersion rest).2 := by
      refine ⟨congrArg (c :: ·) split, versioned.number, fun none start digits parts => ?_⟩
      cases start with
      | nil =>
        refine ahead digits ?_
        rw [split, none]
        simpa [versionText] using parts.symm
      | cons d start => exact versioned.plain none start digits (List.tail_eq_of_cons_eq parts)
    rw [splitVersion]
    split
    next digits found =>
      have opens := List.isPrefixOf?_eq_some_iff_append_eq.mp found
      split_ifs with number
      · refine ⟨opens.symm, ?_, nofun⟩
        rintro _ ⟨⟩
        exact ⟨number.1, List.all_eq_true.mp number.2⟩
      · refine kept fun other same isNumber => number ?_
        obtain rfl := List.append_cancel_left (opens.trans same.symm)
        exact ⟨isNumber.filled, List.all_eq_true.mpr isNumber.digit⟩
    next missed =>
      refine kept fun digits same _ => ?_
      rw [List.isPrefixOf?_eq_some_iff_append_eq.mpr same] at missed
      cases missed

/-- The mark of a version stands once ahead of its digits. -/
theorem IsVersion.eq_of_append {digits other start : Text} (number : IsVersion digits)
    (same : versionMark ++ digits = start ++ (versionMark ++ other)) :
    start = [] ∧ digits = other := by
  have first : start = [] := by
    cases start with
    | nil => rfl
    | cons c start =>
      have behind := List.tail_eq_of_cons_eq same
      have member : '?' ∈ ("version=" : Text) ++ digits := by
        rw [show ("version=" : Text) ++ digits = start ++ (versionMark ++ other) from behind]
        exact List.mem_append_right _ (List.mem_append_left _ (by decide))
      rw [List.mem_append] at member
      exact absurd member (not_or.mpr ⟨by decide, number.not_mem (by decide)⟩)
  rw [first, List.nil_append] at same
  exact ⟨first, List.append_cancel_left same⟩

/-- A text between quotes is a source and its version in one way. -/
theorem IsVersioned.inj {source other : Text} {version otherVersion : Option Text}
    (versioned : IsVersioned source version) (otherVersioned : IsVersioned other otherVersion)
    (same : source ++ versionText version = other ++ versionText otherVersion) :
    source = other ∧ version = otherVersion := by
  cases version with
  | none =>
    cases otherVersion with
    | none => simpa [versionText] using same
    | some digits =>
      simp only [versionText, List.append_nil] at same
      exact absurd (otherVersioned.number digits rfl) (versioned.plain rfl other digits same)
  | some digits =>
    have number := versioned.number digits rfl
    cases otherVersion with
    | none =>
      simp only [versionText, List.append_nil] at same
      exact absurd number (otherVersioned.plain rfl source digits same.symm)
    | some otherDigits =>
      have otherNumber := otherVersioned.number otherDigits rfl
      obtain ⟨start, rfl, behind⟩ | ⟨start, rfl, behind⟩ := List.append_eq_append_iff.mp same
      · obtain ⟨rfl, rfl⟩ := number.eq_of_append behind
        exact ⟨(List.append_nil _).symm, rfl⟩
      · obtain ⟨rfl, rfl⟩ := otherNumber.eq_of_append behind
        exact ⟨List.append_nil _, rfl⟩

theorem splitVersion_eq_iff {body source : Text} {version : Option Text} :
    splitVersion body = (source, version) ↔
      body = source ++ versionText version ∧ IsVersioned source version := by
  obtain ⟨split, versioned⟩ := splitVersion_spec body
  constructor
  · intro same
    rw [same] at split versioned
    exact ⟨split, versioned⟩
  · rintro ⟨other, otherVersioned⟩
    obtain ⟨first, second⟩ := versioned.inj otherVersioned (split.symm.trans other)
    exact Prod.ext first second

/-! ## The start of an image -/

theorem dropSpaced?_eq_some_iff {c : Char} {phrase text taken rest : Text}
    (visible : Notebook.isBlank c = false) :
    dropSpaced? (c :: phrase) text = some (taken, rest) ↔
      ∃ blanks : Text, blanks.isBlank = true ∧ taken = blanks ++ c :: phrase ∧
        text = taken ++ rest := by
  rw [dropSpaced?, Option.map_eq_some_iff]
  constructor
  · rintro ⟨behind, found, same⟩
    cases same
    refine ⟨text.takeWhile isBlank, Text.isBlank_takeWhile text, rfl, ?_⟩
    rw [List.append_assoc, List.isPrefixOf?_eq_some_iff_append_eq.mp found]
    exact List.takeWhile_append_dropWhile.symm
  · rintro ⟨blanks, blank, rfl, rfl⟩
    have all := List.all_eq_true.mp blank
    refine ⟨rest, ?_, ?_⟩
    · rw [List.append_assoc, Text.trimStart_append blank, List.isPrefixOf?_eq_some_iff_append_eq,
        Text.trimStart, List.cons_append, List.dropWhile_cons_of_neg (by simp [visible])]
    · rw [List.append_assoc, List.takeWhile_append_of_pos all, List.cons_append,
        List.takeWhile_cons_of_neg (by simp [visible]), List.append_nil]

/-- What is taken off the start of a text: what opens an image, what stands between its quotes and
the second quote. -/
theorem match?_eq_some_iff_cut {text rest : Text} {image : Image} :
    match? text = some (image, rest) ↔
      ∃ head body, IsHead head ∧ '"' ∉ body ∧ text = head ++ (body ++ '"' :: rest) ∧
        image = ⟨head, (splitVersion body).1, (splitVersion body).2⟩ := by
  simp only [match?, bind, Option.bind_eq_some_iff, pure, Option.some.injEq, Prod.mk.injEq,
    Prod.exists]
  constructor
  · rintro ⟨afterTag, tag, name, afterName, named, equals, afterEquals, equalled, quote, afterQuote,
      quoted, body, _, cut, rfl, rfl⟩
    obtain ⟨first, blankFirst, rfl, rfl⟩ := (dropSpaced?_eq_some_iff (by decide)).mp named
    obtain ⟨second, blankSecond, rfl, rfl⟩ := (dropSpaced?_eq_some_iff (by decide)).mp equalled
    obtain ⟨third, blankThird, rfl, rfl⟩ := (dropSpaced?_eq_some_iff (by decide)).mp quoted
    obtain ⟨rfl, unquoted⟩ := Text.cut?_eq_some_iff.mp cut
    refine ⟨_, body, ⟨first, second, third, blankFirst, blankSecond, blankThird, rfl⟩, unquoted, ?_,
      rfl⟩
    rw [← List.isPrefixOf?_eq_some_iff_append_eq.mp tag]
    simp only [List.append_assoc]
    rfl
  · rintro ⟨_, body, ⟨first, second, third, blankFirst, blankSecond, blankThird, rfl⟩, unquoted,
      rfl, rfl⟩
    refine ⟨_, List.isPrefixOf?_eq_some_iff_append_eq.mpr ?_, first ++ "src", _,
      (dropSpaced?_eq_some_iff (by decide)).mpr ⟨first, blankFirst, rfl, rfl⟩, second ++ "=", _,
      (dropSpaced?_eq_some_iff (by decide)).mpr ⟨second, blankSecond, rfl, rfl⟩, third ++ "\"", _,
      (dropSpaced?_eq_some_iff (by decide)).mpr ⟨third, blankThird, rfl, rfl⟩, body, rest,
      Text.cut?_append unquoted rest, rfl, rfl⟩
    simp only [List.append_assoc]

/-- What is taken off the start of a text is an image, and every image at the start is found. -/
theorem match?_eq_some_iff {text rest : Text} {image : Image} :
    match? text = some (image, rest) ↔ image.IsWhole ∧ text = image.render ++ rest := by
  rw [match?_eq_some_iff_cut]
  constructor
  · rintro ⟨head, body, isHead, unquoted, rfl, rfl⟩
    obtain ⟨split, versioned⟩ := splitVersion_spec body
    refine ⟨⟨isHead, fun member => unquoted ?_, versioned⟩, ?_⟩
    · rw [split]
      exact List.mem_append_left _ member
    · rw [render_eq]
      dsimp only
      rw [← split]
      simp only [List.append_assoc, List.singleton_append]
  · rintro ⟨whole, rfl⟩
    refine ⟨image.head, image.source ++ versionText image.version, whole.isHead, ?_, ?_, ?_⟩
    · rw [List.mem_append, not_or]
      exact ⟨whole.unquoted, whole.versioned.not_mem_versionText⟩
    · rw [render_eq]
      simp only [List.append_assoc, List.singleton_append]
    · rw [splitVersion_eq_iff.mpr ⟨rfl, whole.versioned⟩]

/-! ## Where an image starts -/

/-- The pattern of an image fits at the start of the text. -/
def StartsImage (text : Text) : Prop :=
  ∃ head body rest, IsHead head ∧ '"' ∉ body ∧ text = head ++ (body ++ '"' :: rest)

theorem startsImage_iff {text : Text} :
    StartsImage text ↔ ∃ head rest, IsHead head ∧ '"' ∈ rest ∧ text = head ++ rest := by
  constructor
  · rintro ⟨head, body, rest, isHead, _, rfl⟩
    exact ⟨head, _, isHead, List.mem_append_right _ (List.mem_cons_self ..), rfl⟩
  · rintro ⟨head, rest, isHead, member, rfl⟩
    cases cut : Text.cut? '"' rest with
    | none => exact absurd member (Text.cut?_eq_none_iff.mp cut)
    | some parts =>
      obtain ⟨body, after⟩ := parts
      obtain ⟨rfl, unquoted⟩ := Text.cut?_eq_some_iff.mp cut
      exact ⟨head, body, after, isHead, unquoted, rfl⟩

theorem match?_eq_none_iff {text : Text} : match? text = none ↔ ¬StartsImage text := by
  rw [Option.eq_none_iff_forall_ne_some, Prod.forall]
  constructor
  · rintro missed ⟨head, body, rest, isHead, unquoted, rfl⟩
    exact missed _ rest (match?_eq_some_iff_cut.mpr ⟨head, body, isHead, unquoted, rfl, rfl⟩)
  · intro elsewhere image rest found
    obtain ⟨head, body, isHead, unquoted, rfl, _⟩ := match?_eq_some_iff_cut.mp found
    exact elsewhere ⟨head, body, rest, isHead, unquoted, rfl⟩

/-- What opens an image has one `<` and ends with a quote. -/
theorem IsHead.exists_tail {head : Text} (isHead : IsHead head) :
    ∃ tail, head = '<' :: tail ∧ '<' ∉ tail ∧ '"' ∈ tail := by
  obtain ⟨name, equals, quote, blankName, blankEquals, blankQuote, rfl⟩ := isHead
  refine ⟨"img" ++ (name ++ "src") ++ (equals ++ "=") ++ (quote ++ "\""), rfl, ?_, ?_⟩
  · have first := Text.not_mem_of_isBlank blankName (c := '<') (by decide)
    have second := Text.not_mem_of_isBlank blankEquals (c := '<') (by decide)
    have third := Text.not_mem_of_isBlank blankQuote (c := '<') (by decide)
    simp only [List.mem_append, not_or]
    exact ⟨⟨⟨by decide, first, by decide⟩, second, by decide⟩, third, by decide⟩
  · exact List.mem_append_right _ (List.mem_append_right _ (List.mem_singleton_self _))

/-- Whether an image starts ahead of another one does not depend on what follows the opening of the
other one. -/
theorem startsImage_ahead {before head : Text} (filled : before ≠ []) (isHead : IsHead head)
    (rest : Text) :
    StartsImage (before ++ (head ++ rest)) ↔ ∃ start, IsHead start ∧ start <+: before := by
  obtain ⟨tail, rfl, _, quoted⟩ := isHead.exists_tail
  rw [startsImage_iff]
  constructor
  · rintro ⟨start, more, isStart, _, same⟩
    refine ⟨start, isStart, ?_⟩
    obtain ⟨behind, rfl, parts⟩ | ⟨behind, rfl, parts⟩ := List.append_eq_append_iff.mp same
    · -- The opening of an image holds no second `<`.
      obtain ⟨startTail, whole, single, _⟩ := isStart.exists_tail
      obtain ⟨c, before, rfl⟩ := List.exists_cons_of_ne_nil filled
      cases behind with
      | nil => exact (List.append_nil _).symm ▸ List.prefix_refl _
      | cons d behind =>
        have opens : '<' = d := (List.cons.inj parts).1
        rw [← List.tail_eq_of_cons_eq whole, ← opens] at single
        exact absurd (List.mem_append_right _ (List.mem_cons_self ..)) single
    · exact List.prefix_append _ _
  · rintro ⟨start, isStart, more, rfl⟩
    refine ⟨start, more ++ ('<' :: tail ++ rest), isStart, ?_, List.append_assoc ..⟩
    simp [quoted]

end Image

namespace ImageText

/-! ## Reading a text -/

/-- A text is read as pieces: an image is taken where the pattern fits, and a character where it
does not. -/
inductive Reads : Text → List ImageText → Prop where
  | nil : Reads [] []
  | char {c : Char} {text : Text} {pieces : List ImageText}
      (elsewhere : ¬Image.StartsImage (c :: text)) (rest : Reads text pieces) :
      Reads (c :: text) (.char c :: pieces)
  | image {shown : Image} {text : Text} {pieces : List ImageText} (whole : shown.IsWhole)
      (rest : Reads text pieces) : Reads (shown.render ++ text) (.image shown :: pieces)

theorem Reads.scan_eq {text : Text} {pieces : List ImageText} (reads : Reads text pieces) :
    scan text = pieces := by
  induction reads with
  | nil => rw [scan]
  | @char c text pieces elsewhere _ ih =>
    rw [scan]
    split
    next found => cases (Image.match?_eq_none_iff.mpr elsewhere).symm.trans found
    next => rw [ih]
  | @image shown text pieces whole _ ih =>
    have found := Image.match?_eq_some_iff.mpr ⟨whole, rfl (a := shown.render ++ text)⟩
    obtain ⟨tail, opens, _⟩ := whole.isHead.exists_tail
    have filled : shown.render ++ text ≠ [] := by
      rw [Image.render_eq, opens]
      exact List.cons_ne_nil _ _
    obtain ⟨c, rest, same⟩ := List.exists_cons_of_ne_nil filled
    rw [same] at found ⊢
    rw [scan]
    split
    next other =>
      obtain ⟨rfl, rfl⟩ := Prod.mk.inj (Option.some_inj.mp (found.symm.trans other))
      rw [ih]
    next missed => cases found.symm.trans missed

theorem reads_scan (text : Text) : Reads text (scan text) := by
  fun_induction scan text with
  | case1 => exact .nil
  | case2 c rest shown after found ih =>
    obtain ⟨whole, same⟩ := Image.match?_eq_some_iff.mp found
    rw [same]
    exact .image whole ih
  | case3 c rest missed ih => exact .char (Image.match?_eq_none_iff.mp missed) ih

/-- What a text is read as, by the rules of an image alone. -/
theorem reads_iff {text : Text} {pieces : List ImageText} :
    Reads text pieces ↔ scan text = pieces :=
  ⟨Reads.scan_eq, fun same => same ▸ reads_scan text⟩

theorem Reads.eq_flatMap {text : Text} {pieces : List ImageText} (reads : Reads text pieces) :
    text = pieces.flatMap render := by
  induction reads with
  | nil => rfl
  | char _ _ ih => exact congrArg (_ :: ·) ih
  | image _ _ ih => exact congrArg (_ ++ ·) ih

/-- An image is read exactly if the pattern fits somewhere. -/
theorem Reads.any_isImage_iff {text : Text} {pieces : List ImageText} (reads : Reads text pieces) :
    pieces.any isImage = true ↔ ∃ part, part <:+ text ∧ Image.StartsImage part := by
  induction reads with
  | nil =>
    constructor
    · nofun
    · rintro ⟨part, ends, head, _, _, isHead, _, rfl⟩
      obtain ⟨tail, rfl, _⟩ := isHead.exists_tail
      cases List.suffix_nil.mp ends
  | char elsewhere _ ih =>
    rw [List.any_cons, isImage, Bool.false_or, ih]
    constructor
    · rintro ⟨part, ends, starts⟩
      exact ⟨part, ends.trans (List.suffix_cons _ _), starts⟩
    · rintro ⟨part, ends, starts⟩
      rcases List.suffix_cons_iff.mp ends with rfl | ends
      · exact absurd starts elsewhere
      · exact ⟨part, ends, starts⟩
  | @image shown text pieces whole _ _ =>
    refine iff_of_true rfl ⟨_, List.suffix_refl _, ?_⟩
    by_contra elsewhere
    cases (Image.match?_eq_none_iff.mpr elsewhere).symm.trans
      (Image.match?_eq_some_iff.mpr ⟨whole, rfl⟩)

end ImageText

end Notebook
