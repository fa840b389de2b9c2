import FieldRules.Unicode.Derived

/-!
# `FieldRules.Unicode.Recent` — what the latest edition adds

The properties that a pattern can ask for are those of the sixteenth edition of the standard. The
seventeenth has more characters; what is asked of a character here takes them into account.

## Contents
- **`isAlphabetic`**, **`isNumeric`**, **`isJoiningMark`** and **`isPrintable`**.
-/

namespace FieldRules.Unicode

/-- The characters that the seventeenth edition adds. -/
def recentChars : Spans :=
  .decode
    "88F C5C CDC 1ACF-1ADD 1AE0-1AEB 20C1 2B96 A7CE-A7CF A7D2 A7D4 A7F1 FBC3-FBD2 FD90-FD91
    FDC8-FDCE 10940-10959 10EC5-10EC7 10ED0-10ED8 10EFA-10EFB 11B60-11B67 11DB0-11DDB 11DE0-11DE9
    16EA0-16EB8 16EBB-16ED3 16FF2-16FF6 187F8-187FF 18D09-18D1E 18D80-18DF2 1CCFA-1CCFC
    1CEBA-1CED0 1CEE0-1CEF0 1E6C0-1E6DE 1E6E0-1E6F5 1E6FE-1E6FF 1F6D8 1F777-1F77A 1F8D0-1F8D8
    1FA54-1FA57 1FA8A 1FA8E 1FAC8 1FACD 1FAEA 1FAEF 1FBFA 2B73A-2B73F 2CEA2-2CEAD 323B0-33479"

/-- The alphabetic ones among them. -/
def recentAlphabetic : Spans :=
  .decode
    "88F C5C CDC A7CE-A7CF A7D2 A7D4 A7F1 10940-10959 10EC5-10EC7 10EFA-10EFB 11B60-11B67
    11DB0-11DDB 16EA0-16EB8 16EBB-16ED3 16FF2-16FF6 187F8-187FF 18D09-18D1E 18D80-18DF2
    1E6C0-1E6DE 1E6E0-1E6F5 1E6FE-1E6FF 2B73A-2B73F 2CEA2-2CEAD 323B0-33479"

/-- The digits and letter numbers among them. -/
def recentNumbers : Spans :=
  .decode
    "11DE0-11DE9 16FF4-16FF6"

/-- Those among them that extend a grapheme. -/
def recentExtenders : Spans :=
  .decode
    "1ACF-1ADD 1AE0-1AEB 10EFA-10EFB 11B60 11B62-11B64 11B66 1E6E3 1E6E6 1E6EE-1E6EF 1E6F5"

/-- All characters of numbers, decimal digits and others. -/
def numberChars : Spans :=
  (Category.chars Category.numbers).union recentNumbers

/-- Whether a character is alphabetic. -/
def isAlphabetic (c : Char) : Bool :=
  alphabeticChars.contains c.toNat || recentAlphabetic.contains c.toNat

/-- Whether a character belongs to a number. -/
def isNumeric (c : Char) : Bool :=
  numberChars.contains c.toNat

/-- Whether a character is a mark that joins the character before it. The letters that extend a
grapheme, which are the sound marks of halfwidth katakana, show by themselves. -/
def isJoiningMark (c : Char) : Bool :=
  recentExtenders.contains c.toNat ||
    (Category.marks.contains (category c) && graphemeExtendChars.contains c.toNat)

/-- Whether a character shows by itself: it is no control, format, private or unassigned character,
and no separator but the space. -/
def isPrintable (c : Char) : Bool :=
  c = ' ' || recentChars.contains c.toNat ||
    !(Category.others ++ Category.separators).contains (category c)

end FieldRules.Unicode
