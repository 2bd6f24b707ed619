import Notebook.Proofs.Image.Pattern

/-! # Counting up versions

Giving the images of a text other versions changes nothing else: the text is then read as the same
pieces with these versions. So every time a text is bumped each of its images counts up by one, and
none of them gets past the largest number.
-/

namespace Notebook

namespace Image

/-- The number of the version, or 0 if there is none. -/
def currentVersion (image : Image) : Nat :=
  (image.version.bind versionNumber?).getD 0

/-- The image with another version. -/
def withVersion (image : Image) (n : Nat) : Image :=
  { image with version := some (Text.ofNat n) }

theorem versionNumber?_eq_some_iff {digits : Text} {n : Nat} :
    versionNumber? digits = some n ↔
      (∀ c ∈ digits, c.isDigit = true) ∧ Nat.ofDigitChars 10 digits 0 = n ∧ n ≤ maxVersion := by
  rw [← List.all_eq_true, Nat.ofDigitChars_eq_foldl, versionNumber?]
  dsimp only
  split_ifs with digit bound
  · rw [Option.some_inj]
    constructor
    · rintro rfl
      exact ⟨digit, rfl, bound⟩
    · exact fun same => same.2.1
  · refine iff_of_false nofun ?_
    rintro ⟨_, rfl, within⟩
    exact bound within
  · exact iff_of_false nofun fun same => digit same.1

theorem isDigit_of_mem_ofNat {n : Nat} {c : Char} (member : c ∈ Text.ofNat n) :
    c.isDigit = true := by
  rw [Text.ofNat, Nat.toList_repr] at member
  exact Nat.isDigit_of_mem_toDigits (by decide) (by decide) member

theorem isVersion_ofNat (n : Nat) : IsVersion (Text.ofNat n) where
  filled := by
    rw [Text.ofNat, Nat.toList_repr]
    exact Nat.toDigits_ne_nil
  digit _ member := isDigit_of_isDigit (isDigit_of_mem_ofNat member)

/-- A version that is written is read as its number. -/
theorem versionNumber?_ofNat {n : Nat} (bound : n ≤ maxVersion) :
    versionNumber? (Text.ofNat n) = some n := by
  rw [versionNumber?_eq_some_iff]
  refine ⟨fun _ => isDigit_of_mem_ofNat, ?_, bound⟩
  rw [Text.ofNat, Nat.toList_repr, Nat.ofDigitChars_ten_toDigits]

theorem currentVersion_withVersion (image : Image) {n : Nat} (bound : n ≤ maxVersion) :
    (image.withVersion n).currentVersion = n := by
  rw [currentVersion, withVersion, Option.bind_some, versionNumber?_ofNat bound, Option.getD_some]

theorem nextVersion_eq (image : Image) :
    image.nextVersion = min (image.currentVersion + 1) maxVersion := by
  rw [nextVersion, currentVersion]
  cases image.version.bind versionNumber? <;> rfl

theorem IsWhole.withVersion {image : Image} (whole : image.IsWhole) (n : Nat) :
    (image.withVersion n).IsWhole where
  isHead := whole.isHead
  unquoted := whole.unquoted
  versioned := {
    number := by
      rintro _ ⟨⟩
      exact isVersion_ofNat n
    plain := nofun }

end Image

namespace ImageText

variable {text : Text} {pieces : List ImageText}

/-! ## Other versions -/

/-- The piece with another version if it is an image. -/
def renumber (version : Image → Nat) : ImageText → ImageText
  | .char c => .char c
  | .image shown => .image (shown.withVersion (version shown))

/-- Where an image starts does not depend on the versions behind it. -/
theorem Reads.startsImage_renumber (version : Image → Nat) (reads : Reads text pieces)
    {before : Text} (filled : before ≠ []) :
    Image.StartsImage (before ++ (pieces.map (renumber version)).flatMap render) ↔
      Image.StartsImage (before ++ text) := by
  induction reads generalizing before with
  | nil => rfl
  | @char c text pieces _ _ ih =>
    have step := ih (List.append_ne_nil_of_left_ne_nil filled [c])
    rw [List.append_assoc, List.append_assoc] at step
    exact step
  | @image shown text pieces whole _ _ =>
    -- Both texts have the opening of the image behind `before`.
    have ahead (rest : Text) := Image.startsImage_ahead filled whole.isHead rest
    rw [List.map_cons, List.flatMap_cons, renumber, render, Image.render_eq, Image.render_eq,
      List.append_assoc, List.append_assoc shown.head]
    exact (ahead _).trans (ahead _).symm

/-- With other versions in its images the text is read as the same pieces. -/
theorem Reads.renumber (version : Image → Nat) (reads : Reads text pieces) :
    Reads ((pieces.map (renumber version)).flatMap render) (pieces.map (renumber version)) := by
  induction reads with
  | nil => exact .nil
  | @char c text pieces elsewhere rest ih =>
    refine .char ?_ ih
    have same := rest.startsImage_renumber version (List.cons_ne_nil c [])
    exact fun starts => elsewhere (same.mp starts)
  | image whole _ ih => exact .image (whole.withVersion _) ih

/-! ## Counting -/

/-- The piece after its text has been bumped a number of times. -/
def counted (n : Nat) : ImageText → ImageText :=
  renumber fun shown => min (shown.currentVersion + n) Image.maxVersion

theorem bump_eq_counted : bump = counted 1 := by
  funext piece
  cases piece with
  | char => rfl
  | image shown =>
    rw [bump, Image.bump, Image.nextVersion_eq]
    rfl

theorem counted_counted (m n : Nat) (piece : ImageText) :
    counted m (counted n piece) = counted (n + m) piece := by
  cases piece with
  | char => rfl
  | image shown =>
    simp only [counted, ImageText.renumber]
    rw [Image.currentVersion_withVersion _ (min_le_right _ _)]
    have same (v top : Nat) : min (min (v + n) top + m) top = min (v + (n + m)) top := by omega
    rw [same]
    rfl

theorem any_isImage_counted (n : Nat) (pieces : List ImageText) :
    (pieces.map (counted n)).any isImage = pieces.any isImage := by
  rw [List.any_map]
  congr 1
  funext piece
  cases piece <;> rfl

theorem Reads.bumpImages?_eq (reads : Reads text pieces) (shown : pieces.any isImage = true) :
    bumpImages? text = some ((pieces.map (counted 1)).flatMap render) := by
  rw [bumpImages?, reads.scan_eq, if_pos shown, bump_eq_counted, List.flatMap_map]

theorem Reads.bumpImages?_eq_none_iff (reads : Reads text pieces) :
    bumpImages? text = none ↔ pieces.any isImage = false := by
  rw [bumpImages?, reads.scan_eq]
  split_ifs with shown
  · exact iff_of_false nofun (by simp [shown])
  · exact iff_of_true rfl (Bool.eq_false_iff.mpr shown)

end ImageText

/-- The text after a number of bumps one after another, each of what the one before it gave. -/
def bumpTimes? : Nat → Text → Option Text
  | 0, text => some text
  | n + 1, text => (bumpTimes? n text).bind bumpImages?

open ImageText in
theorem ImageText.Reads.bumpTimes?_eq {text : Text} {pieces : List ImageText}
    (reads : Reads text pieces) (shown : pieces.any isImage = true) {n : Nat} (many : 1 ≤ n) :
    bumpTimes? n text = some ((pieces.map (counted n)).flatMap render) := by
  induction n, many using Nat.le_induction with
  | base => exact reads.bumpImages?_eq shown
  | succ n _ ih =>
    have later : Reads ((pieces.map (counted n)).flatMap render) (pieces.map (counted n)) :=
      reads.renumber _
    rw [bumpTimes?, ih, Option.bind_some, later.bumpImages?_eq, List.map_map]
    · congr 3
      funext piece
      exact counted_counted 1 n piece
    · rw [any_isImage_counted, shown]

open ImageText in
/-- A text has no next version exactly if the pattern of an image fits nowhere in it. Otherwise it
can be bumped any number of times; it is then read as the pieces it was read as at first, in which
each image has counted up by that number, up to the largest version. -/
theorem bumpImages?_counts (text : Text) :
    ∃ pieces, text = pieces.flatMap render ∧ (∀ other, Reads text other ↔ other = pieces) ∧
      (bumpImages? text = none ↔ ¬∃ part, part <:+ text ∧ Image.StartsImage part) ∧
      (bumpImages? text ≠ none → ∀ n, 1 ≤ n →
        ∃ bumped, bumpTimes? n text = some bumped ∧
          bumped = (pieces.map (counted n)).flatMap render ∧
          ∀ other, Reads bumped other ↔ other = pieces.map (counted n)) := by
  have unique {text : Text} {pieces : List ImageText} (reads : Reads text pieces)
      (other : List ImageText) : Reads text other ↔ other = pieces := by
    rw [reads_iff, reads.scan_eq, eq_comm]
  have reads := reads_scan text
  refine ⟨scan text, reads.eq_flatMap, unique reads, ?_, fun shown n many => ?_⟩
  · rw [reads.bumpImages?_eq_none_iff, ← reads.any_isImage_iff, Bool.not_eq_true]
  · rw [Ne, reads.bumpImages?_eq_none_iff, Bool.not_eq_false] at shown
    exact ⟨_, reads.bumpTimes?_eq shown many, rfl, unique (reads.renumber _)⟩

open ImageText in
/-- One image comes to the largest version and stays there, and the other one had no version. -/
theorem bumpImages?_counts_limit :
    bumpTimes? 2 "<img src=\"a.png?version=18446744073709551614\"> <img src = \"b.svg\">" =
      some "<img src=\"a.png?version=18446744073709551615\"> <img src = \"b.svg?version=2\">" := by
  obtain ⟨pieces, _, unique, _, counts⟩ := bumpImages?_counts
    "<img src=\"a.png?version=18446744073709551614\"> <img src = \"b.svg\">"
  obtain ⟨bumped, found, rfl, _⟩ := counts (by decide +kernel) 2 (by decide)
  obtain rfl := (unique _).mp (reads_scan _)
  exact found.trans (by decide +kernel)

end Notebook
