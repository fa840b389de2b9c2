/-!
# `FieldRules.Unicode.Runs` — tables over the code points

A Unicode property is a function on the code points that is constant on long runs. A table is kept
as text, each run as its label followed by its length in hexadecimal digits, and decoded once into a
sorted array.

## Contents
- **`words`** and **`hexValue`**, the two layers of a table text.
- **`Runs`**: the code points from nought upwards cut into labelled runs, as in `Cc20 Zs1 Po3`, with
  the look-up **`Runs.at?`** and **`Runs.spans`**, the intervals where a test of the labels holds.
-/

namespace FieldRules.Unicode

/-! ## Table texts -/

/-- The value of one hexadecimal digit; other characters count as nought. -/
def hexDigit (c : Char) : Nat :=
  if c.isDigit then c.toNat - '0'.toNat
  else if 'a' ≤ c ∧ c ≤ 'f' then c.toNat - 'a'.toNat + 10
  else if 'A' ≤ c ∧ c ≤ 'F' then c.toNat - 'A'.toNat + 10
  else 0

/-- Hexadecimal digits read as a number, most significant first. -/
def hexValue (cs : List Char) : Nat :=
  cs.foldl (fun n c => 16 * n + hexDigit c) 0

/-- The words of a text, separated by spaces and line ends. -/
def words (cs : List Char) : List (List Char) :=
  (cs.foldr step ([], [])) |> fun (word, done) => if word.isEmpty then done else word :: done
where
  /-- Extends the word under way, or closes it at a space or line end. -/
  step (c : Char) : List Char × List (List Char) → List Char × List (List Char)
    | (word, done) =>
      if c = ' ' ∨ c = '\n' then ([], if word.isEmpty then done else word :: done)
      else (c :: word, done)

/-! ## Labelled runs -/

/-- The greatest code point. -/
def lastCode : Nat := 0x10FFFF

/-- A table whose entry `(n, a)` says that the run labelled `a` starts at code point `n`.
Entries are sorted by their start. -/
abbrev Runs (α : Type) := Array (Nat × α)

namespace Runs

variable {α : Type}

/-- Decodes a table text whose labels are `width` characters long. -/
def decode (width : Nat) (text : String) : Runs (List Char) :=
  ((words text.toList).foldl
    (fun (table, start) word =>
      (table.push (start, word.take width), start + hexValue (word.drop width)))
    (#[], 0)).1

/-- Binary search for the last entry that starts at or before `n`, among the entries from `lo`
up to but excluding `hi`; `fuel` bounds the number of halvings. -/
def searchIn (table : Runs α) (n : Nat) : Nat → Nat → Nat → Option α
  | 0, _, _ => none
  | fuel + 1, lo, hi =>
    if hi ≤ lo + 1 then
      match table[lo]? with
      | some (start, a) => if start ≤ n then some a else none
      | none => none
    else
      let mid := (lo + hi) / 2
      match table[mid]? with
      | some (start, _) =>
        if start ≤ n then searchIn table n fuel mid hi else searchIn table n fuel lo mid
      | none => none

/-- The label of the run that holds code point `n`. -/
def at? (table : Runs α) (n : Nat) : Option α :=
  table.searchIn n (table.size + 1) 0 table.size

/-- The intervals on which the label satisfies a test, in ascending order. Neighbouring runs that
both satisfy it make up one interval. -/
def spans (table : Runs α) (test : α → Bool) : List (Nat × Nat) :=
  (table.foldr step ([], lastCode)).1
where
  /-- Puts the run before `found` if it is wanted; `last` is where the run ends. -/
  step : Nat × α → List (Nat × Nat) × Nat → List (Nat × Nat) × Nat
    | (start, a), (found, last) =>
      let found :=
        if test a then
          match found with
          | (first, finish) :: more =>
            if first = last + 1 then (start, finish) :: more else (start, last) :: found
          | [] => [(start, last)]
        else found
      (found, start - 1)

end Runs

end FieldRules.Unicode
