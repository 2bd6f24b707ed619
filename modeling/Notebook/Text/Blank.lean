/-! # Blank characters

The characters with the Unicode property `White_Space`. Trimming, word splitting and the test for
an empty prose stretch all go by this class; the lexers of source code use the smaller class of
ASCII blanks instead.
-/

namespace Notebook

/-- The Unicode property `White_Space`. -/
def isBlank (c : Char) : Bool :=
  let n := c.toNat
  (9 ≤ n && n ≤ 13) || n == 0x20 || n == 0x85 || n == 0xA0 || n == 0x1680 ||
    (0x2000 ≤ n && n ≤ 0x200A) || n == 0x2028 || n == 0x2029 || n == 0x202F || n == 0x205F ||
    n == 0x3000

/-- The blanks of ASCII, without the vertical tab. -/
def isAsciiBlank (c : Char) : Bool :=
  c == ' ' || c == '\t' || c == '\n' || c == '\x0c' || c == '\r'

theorem isBlank_of_isAsciiBlank {c : Char} (blank : isAsciiBlank c = true) :
    isBlank c = true := by
  simp only [isAsciiBlank, Bool.or_eq_true, beq_iff_eq] at blank
  rcases blank with (((rfl | rfl) | rfl) | rfl) | rfl <;> decide

end Notebook
