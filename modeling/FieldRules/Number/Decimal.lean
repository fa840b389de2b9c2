import FieldRules.Number.Numeral

/-!
# `FieldRules.Number.Decimal` — decimal fractions as text

## Contents
- **`Decimal`**, a sign, a coefficient and a power of ten.
- **`Decimal.read?`** for the usual notation: an optional sign, digits with an optional point that
  has a digit on at least one side, and an optional exponent.
-/

namespace FieldRules.Number

/-- The number `coefficient · 10 ^ exponent`, negated where `negative` says so. The sign of nought
is kept. -/
structure Decimal where
  negative : Bool
  coefficient : Nat
  exponent : Int
  deriving DecidableEq, Repr

namespace Decimal

/-- Reads the part after the digits: nothing, or an `e` with a whole number. -/
def readExponent? : List Char → Option Int
  | [] => some 0
  | c :: cs => if c = 'e' ∨ c = 'E' then readInt? cs else none

/-- Reads digits with an optional point and an optional exponent. -/
def readUnsigned? (negative : Bool) (cs : List Char) : Option Decimal :=
  let whole := cs.takeWhile Char.isDigit
  let rest := cs.dropWhile Char.isDigit
  let (part, rest) := match rest with
    | '.' :: rest => (rest.takeWhile Char.isDigit, rest.dropWhile Char.isDigit)
    | rest => ([], rest)
  if whole.isEmpty && part.isEmpty then none
  else
    (readExponent? rest).map fun e => ⟨negative, value (whole ++ part), e - part.length⟩

/-- Reads a decimal fraction; the whole text has to be one. -/
def read? (cs : List Char) : Option Decimal :=
  let (negative, rest) := splitSign cs
  readUnsigned? negative rest

example : read? "-12.50e3".toList = some ⟨true, 1250, 1⟩ := by decide
example : read? ".5".toList = some ⟨false, 5, -1⟩ := by decide
example : read? "5.".toList = some ⟨false, 5, 0⟩ := by decide
example : read? ".".toList = none := by decide
example : read? "1e".toList = none := by decide

end Decimal

end FieldRules.Number
