import FieldRules.Json.Basic

/-!
# `FieldRules.Json.Number` — numbers of JSON texts

A whole number of 64 bits is kept as it is. Any other number is rounded in steps: its leading
digits, as many as fit into 64 bits, are rounded to a floating-point number, which is then
multiplied or divided by a rounded power of ten. The result may miss the nearest number by a little.

## Contents
- **`Numeral`**, a number as it is written, and **`takeNumeral?`**.
- **`Numeral.json?`**, its value. A number beyond the greatest finite one has none.
-/

namespace FieldRules.Json

open Number

/-! ## Powers of ten -/

/-- The product of a number and a rounded power of ten, rounded. -/
def timesPower (x : Finite64) (k : Nat) : Binary64 :=
  match Format.double.round (Nat.pow 10 k) 1 with
  | some (m, e) =>
    let exponent := x.exponent + e
    .ofQuotient x.negative (x.mantissa * m * Nat.pow 2 exponent.toNat) (Nat.pow 2 (-exponent).toNat)
  | none => .infinity x.negative

/-- The quotient of a number and a rounded power of ten, rounded. -/
def overPower (x : Finite64) (k : Nat) : Binary64 :=
  match Format.double.round (Nat.pow 10 k) 1 with
  | some (m, e) =>
    let exponent := x.exponent - e
    .ofQuotient x.negative (x.mantissa * Nat.pow 2 exponent.toNat) (m * Nat.pow 2 (-exponent).toNat)
  | none => .infinity x.negative

/-- The greatest power of ten that is a finite number. -/
def topPower : Nat := 308

/-- A number times `10 ^ exponent`, in steps of the greatest power of ten. Nothing but nought is
left after two steps downwards, which bounds their number. -/
def scale : Nat → Binary64 → Int → Option Binary64
  | _, .nan, _ => none
  | _, .infinity _, _ => none
  | steps, .finite x, exponent =>
    if exponent.natAbs ≤ topPower then
      if 0 ≤ exponent then some (timesPower x exponent.toNat) |>.filter Binary64.isFinite
      else some (overPower x exponent.natAbs)
    else if x.mantissa = 0 then some (.finite x)
    else if 0 ≤ exponent then none
    else
      match steps with
      | 0 => none
      | steps + 1 => scale steps (overPower x topPower) (exponent + topPower)

/-! ## Numerals -/

/-- A number as it is written. -/
structure Numeral where
  negative : Bool
  whole : List Char
  fraction : List Char
  exponent : Int
  /-- Whether neither a point nor an exponent was written. -/
  plain : Bool
  deriving DecidableEq, Repr

/-- Takes in digits as long as the number fits into 64 bits. The digits that are left over are
returned with the number. -/
def absorb (significand : Nat) : List Char → Nat × List Char
  | [] => (significand, [])
  | d :: ds =>
    let next := 10 * significand + digitValue d
    if fitsUnsigned64 next then absorb next ds else (significand, d :: ds)

/-- The value of a numeral. -/
def Numeral.json? (n : Numeral) : Option Json :=
  let (significand, dropped) := absorb 0 n.whole
  let whole : Int := if n.negative then -significand else significand
  if n.plain && dropped.isEmpty && leastSigned64 ≤ whole && (!n.negative || whole ≠ 0) then
    some (.int whole)
  else
    -- Digits that are dropped before the point still count as places, those after it do not.
    let (significand, unread) := absorb significand n.fraction
    let exponent : Int :=
      n.exponent + dropped.length - (n.fraction.length - unread.length : Nat)
    (scale 2 (.ofQuotient n.negative significand 1) exponent).map .float

/-! ## Reading -/

/-- Takes at least one digit. -/
def takeDigits? (cs : List Char) : Option (List Char × List Char) :=
  let ds := cs.takeWhile Char.isDigit
  if ds.isEmpty then none else some (ds, cs.dropWhile Char.isDigit)

/-- Takes digits without superfluous noughts in front. -/
def takeWhole? : List Char → Option (List Char × List Char)
  | '0' :: cs => if cs.head?.any Char.isDigit then none else some (['0'], cs)
  | cs => takeDigits? cs

/-- Takes a point and digits, if there is a point. -/
def takeFraction? : List Char → Option (List Char × List Char)
  | '.' :: cs => takeDigits? cs
  | cs => some ([], cs)

/-- Takes an exponent, if there is one. -/
def takeExponent? : List Char → Option (Option Int × List Char)
  | [] => some (none, [])
  | c :: cs =>
    if c = 'e' ∨ c = 'E' then do
      let (negative, cs) := splitSign cs
      let (ds, cs) ← takeDigits? cs
      return (some (if negative then -(value ds : Int) else value ds), cs)
    else some (none, c :: cs)

/-- Takes a number. -/
def takeNumeral? (cs : List Char) : Option (Numeral × List Char) := do
  let (negative, cs) := match cs with
    | '-' :: cs => (true, cs)
    | cs => (false, cs)
  let (whole, cs) ← takeWhole? cs
  let (fraction, cs) ← takeFraction? cs
  let (exponent?, cs) ← takeExponent? cs
  return (⟨negative, whole, fraction, exponent?.getD 0, fraction.isEmpty && exponent?.isNone⟩, cs)

end FieldRules.Json
