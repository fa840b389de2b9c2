/-!
# `FieldRules.Text.Blank` — blank characters and trimming

Every text that a person writes for this library (an interval, a group name, a date) may be padded.
Padding is what Unicode calls `White_Space`, not the five characters of ASCII.

## Contents
- **`isBlank`**, the character class.
- **`trim`** on character lists, with `trimStart` and `trimEnd`.
- **`allBlank`**, which decides whether a text holds nothing but padding.
-/

namespace FieldRules.Text

/-- Blank characters: the code points with the Unicode property `White_Space`. -/
def isBlank (c : Char) : Bool :=
  let n := c.toNat
  (9 ≤ n && n ≤ 13) || n == 0x20 || n == 0x85 || n == 0xA0 || n == 0x1680 ||
    (0x2000 ≤ n && n ≤ 0x200A) || n == 0x2028 || n == 0x2029 || n == 0x202F ||
    n == 0x205F || n == 0x3000

/-- Drops the blanks in front. -/
def trimStart (cs : List Char) : List Char :=
  cs.dropWhile isBlank

/-- Drops the blanks at the end. -/
def trimEnd (cs : List Char) : List Char :=
  (cs.reverse.dropWhile isBlank).reverse

/-- Drops the blanks on both sides. -/
def trim (cs : List Char) : List Char :=
  trimEnd (trimStart cs)

/-- A text of blanks only; the empty text is one. -/
def allBlank (s : String) : Bool :=
  s.toList.all isBlank

/-! ## Small facts -/

/-- Nothing blank is left in front. -/
theorem trimStart_cons_not_blank {c : Char} (cs : List Char) (h : isBlank c = false) :
    trimStart (c :: cs) = c :: cs := by
  simp [trimStart, h]

theorem trimStart_cons_blank {c : Char} (cs : List Char) (h : isBlank c = true) :
    trimStart (c :: cs) = trimStart cs := by
  simp [trimStart, h]

end FieldRules.Text
