import FieldRules.Unicode.Spans

/-!
# `FieldRules.Pattern.Encoding` — sets of characters as sequences of byte ranges

A text is matched by the bytes of its characters. An interval of characters falls into pieces whose
encodings are all the sequences that take their first byte from one range, their second byte from
another, and so on.

## Contents
- **`encode`**, the bytes of a character.
- **`pieces`**, an interval cut at the surrogates, where the number of bytes changes, and where a
  byte would not run through all its values.
- **`sequences`**, the byte ranges of all pieces of a set, in ascending order.
-/

namespace FieldRules.Pattern

open FieldRules.Unicode

/-- A range of bytes. -/
abbrev ByteRange := Nat × Nat

/-- The bytes of a character. A byte after the first one carries six bits. -/
def encode (n : Nat) : List Nat :=
  if n < 0x80 then [n]
  else if n < 0x800 then [0xC0 + n / 64, 0x80 + n % 64]
  else if n < 0x10000 then [0xE0 + n / 4096, 0x80 + n / 64 % 64, 0x80 + n % 64]
  else [0xF0 + n / 262144, 0x80 + n / 4096 % 64, 0x80 + n / 64 % 64, 0x80 + n % 64]

/-- An interval without its surrogates. -/
def withoutSurrogates : Span → List Span
  | (a, b) =>
    if a ≤ lastSurrogate ∧ firstSurrogate ≤ b then
      (if a < firstSurrogate then [(a, firstSurrogate - 1)] else []) ++
        (if lastSurrogate < b then [(lastSurrogate + 1, b)] else [])
    else [(a, b)]

/-- An interval cut after a code point. -/
def cutAfter (n : Nat) : Span → List Span
  | (a, b) => if a ≤ n ∧ n < b then [(a, n), (n + 1, b)] else [(a, b)]

/-- An interval cut so that what reaches over several blocks of a size consists of whole blocks. -/
def cutBlocks (size : Nat) : Span → List Span
  | (a, b) =>
    if a / size = b / size then [(a, b)]
    else
      let start := if a % size = 0 then a else (a / size + 1) * size
      let finish := if b % size = size - 1 then b + 1 else b / size * size
      (if a < start then [(a, start - 1)] else []) ++
        (if start < finish then [(start, finish - 1)] else []) ++
        (if finish ≤ b then [(finish, b)] else [])

/-- The pieces of an interval. A single byte needs no blocks. -/
def pieces (s : Span) : List Span :=
  let lengths := (((withoutSurrogates s).flatMap (cutAfter 0x7F)).flatMap
    (cutAfter 0x7FF)).flatMap (cutAfter 0xFFFF)
  lengths.flatMap fun s =>
    if s.2 < 0x80 then [s]
    else ((cutBlocks 64 s).flatMap (cutBlocks 4096)).flatMap (cutBlocks 262144)

/-- The byte ranges of a piece. -/
def byteRanges (s : Span) : List ByteRange :=
  (encode s.1).zip (encode s.2)

/-- The sequences of byte ranges that make up a set. -/
def sequences (s : Spans) : List (List ByteRange) :=
  s.toList.flatMap fun span => (pieces span).map byteRanges

end FieldRules.Pattern
