import FieldRules.Unicode.Runs

/-!
# `FieldRules.Unicode.Spans` — sets of characters as intervals

A set of characters is kept as the list of its intervals, sorted and apart from each other, so that
membership is a binary search and every operation on sets is one pass over the intervals.

## Contents
- **`Span`**, first and last member, and **`next`** and **`previous`**, which pass over the
  surrogates.
- **Lists of intervals**: `joined`, `common`, `without` and `gaps`, each linear in its input.
- **`Spans`**: `contains`, `ofList`, `union`, `inter`, `diff`, `symmDiff`, `compl`, and `decode` for
  tables such as `30-39 41-46 5F`.
-/

namespace FieldRules.Unicode

/-- First and last member of a run of code points. -/
abbrev Span := Nat × Nat

/-- The first surrogate. Surrogates are code points without a character. -/
def firstSurrogate : Nat := 0xD800

/-- The last surrogate. -/
def lastSurrogate : Nat := 0xDFFF

/-- The character after a code point. -/
def next (n : Nat) : Nat :=
  if n + 1 = firstSurrogate then lastSurrogate + 1 else n + 1

/-- The character before a code point. -/
def previous (n : Nat) : Nat :=
  if n = lastSurrogate + 1 then firstSurrogate - 1 else n - 1

/-! ## Lists of intervals -/

/-- Puts an interval before intervals that start no earlier, and joins it with those it touches. -/
def absorb : Span → List Span → List Span
  | (a, b), [] => [(a, b)]
  | (a, b), (c, d) :: rest =>
    if c ≤ b + 1 then absorb (a, max b d) rest else (a, b) :: (c, d) :: rest

/-- Intervals in the order of their starts, brought apart. -/
def joined (spans : List Span) : List Span :=
  spans.foldr absorb []

/-- The members that two lists of intervals have in common. -/
def common : List Span → List Span → List Span
  | [], _ => []
  | _, [] => []
  | (a, b) :: s, (c, d) :: t =>
    let rest := if b < d then common s ((c, d) :: t) else common ((a, b) :: s) t
    if max a c ≤ min b d then (max a c, min b d) :: rest else rest
termination_by s t => s.length + t.length

/-- The members of the first list that are missing from the second. -/
def without : List Span → List Span → List Span
  | [], _ => []
  | s, [] => s
  | (a, b) :: s, (c, d) :: t =>
    if d < a then without ((a, b) :: s) t
    else if b < c then (a, b) :: without s ((c, d) :: t)
    else
      let before := if a < c then [(a, previous c)] else []
      if d < b then before ++ without ((next d, b) :: s) t
      else before ++ without s ((c, d) :: t)
termination_by s t => s.length + t.length

/-- The gaps after each interval of a list. The ends of a gap are put in order, which matters only
where no character lies between two intervals because the surrogates do. -/
def gaps : List Span → List Span
  | [] => []
  | [(_, b)] => if b < lastCode then [(next b, lastCode)] else []
  | (_, b) :: (c, d) :: rest =>
    (min (next b) (previous c), max (next b) (previous c)) :: gaps ((c, d) :: rest)

/-! ## Sets -/

/-- A set of characters, as its intervals in ascending order; no two of them touch. -/
abbrev Spans := Runs Nat

namespace Spans

/-- The empty set. -/
def empty : Spans := #[]

/-- Membership. -/
def contains (s : Spans) (n : Nat) : Bool :=
  (Runs.at? s n).any (n ≤ ·)

/-- The set of the intervals in a list, in whatever order they stand there. -/
def ofList (spans : List Span) : Spans :=
  (joined (spans.mergeSort fun x y => x.1 ≤ y.1)).toArray

/-- The set of one interval. -/
def range (first last : Nat) : Spans := #[(first, last)]

/-- The set of one character. -/
def single (c : Char) : Spans := range c.toNat c.toNat

/-- Union. -/
def union (s t : Spans) : Spans :=
  (joined (s.toList.merge t.toList fun x y => x.1 ≤ y.1)).toArray

/-- The union of many sets. -/
def unions (sets : List Spans) : Spans :=
  ofList (sets.flatMap Array.toList)

/-- Intersection. -/
def inter (s t : Spans) : Spans :=
  (common s.toList t.toList).toArray

/-- Difference. -/
def diff (s t : Spans) : Spans :=
  (without s.toList t.toList).toArray

/-- The members of one set but not of both. -/
def symmDiff (s t : Spans) : Spans :=
  (s.union t).diff (s.inter t)

/-- Complement. -/
def compl (s : Spans) : Spans :=
  match s.toList with
  | [] => range 0 lastCode
  | (a, b) :: rest =>
    let before := if 0 < a then [(0, previous a)] else []
    (before ++ gaps ((a, b) :: rest)).toArray

/-- Whether all members are ASCII characters. -/
def isAscii (s : Spans) : Bool :=
  s.all fun (_, last) => last < 0x80

/-- Decodes one interval, `first-last` or a single code point. -/
def decodeOne (word : List Char) : Span :=
  let first := word.takeWhile (· != '-')
  match word.dropWhile (· != '-') with
  | [] => (hexValue first, hexValue first)
  | _ :: last => (hexValue first, hexValue last)

/-- Decodes a table text. -/
def decode (text : String) : Spans :=
  ((words text.toList).map decodeOne).toArray

end Spans

end FieldRules.Unicode
