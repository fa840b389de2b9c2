import FieldRules.Number.Decimal

/-!
# `FieldRules.Number.Binary` — floating-point numbers as exact fractions

A floating-point number is kept as what it denotes: not a number, an infinity, or a signed whole
mantissa times a power of two. Nothing here rounds except where a decimal text is read.

## Contents
- **`Format`**, the precision and exponent range of a binary format; `double` and `single`.
- **`Finite64`**, a finite number of the double format in its one canonical form, and
  **`Binary64`**.
- **Rounding.** `Format.round` takes a quotient of whole numbers to the nearest number of a format,
  a tie to the even mantissa.
- **Reading.** `Binary64.read?` for decimal texts and the words for infinity and not-a-number;
  `Binary64.readSingle?` rounds to the single format first.
- **Order.** `Binary64.compare?` and, for whole numbers of at most 128 bits, `Binary64.compareInt?`,
  which goes by the floor. Neither rounds.
-/

namespace FieldRules.Number

/-! ## Formats -/

/-- A binary format: mantissas below `2 ^ precision`, exponents between the two bounds. -/
structure Format where
  precision : Nat
  minExponent : Int
  maxExponent : Int
  deriving DecidableEq, Repr

namespace Format

/-- The 64-bit interchange format. -/
def double : Format := ⟨53, -1074, 971⟩

/-- The 32-bit interchange format. -/
def single : Format := ⟨24, -149, 104⟩

/-- The form in which a format holds a number: the mantissa uses the full precision, unless the
exponent is already the least one. Each number has one such form. -/
def Canonical (f : Format) (mantissa : Nat) (exponent : Int) : Prop :=
  mantissa < Nat.pow 2 f.precision ∧ f.minExponent ≤ exponent ∧ exponent ≤ f.maxExponent ∧
    (Nat.pow 2 (f.precision - 1) ≤ mantissa ∨ exponent = f.minExponent)

instance (f : Format) (mantissa : Nat) (exponent : Int) :
    Decidable (f.Canonical mantissa exponent) :=
  inferInstanceAs (Decidable (_ ∧ _ ∧ _ ∧ _))

end Format

/-! ## Rounding -/

/-- The whole number nearest to `num / den`, a tie going to the even one. -/
def nearestEven (num den : Nat) : Nat :=
  let quotient := num / den
  let twice := 2 * (num % den)
  if twice < den then quotient
  else if den < twice then quotient + 1
  else quotient + quotient % 2

/-- The exponent of the greatest power of two that is not above `num / den`. -/
def floorLog2 (num den : Nat) : Int :=
  let k : Int := (num.log2 : Int) - den.log2
  if den * Nat.pow 2 k.toNat ≤ num * Nat.pow 2 (-k).toNat then k else k - 1

/-- The mantissa and exponent of the number of the format nearest to `num / den`, or `none` where
that number is beyond the greatest finite one. -/
def Format.round (f : Format) (num den : Nat) : Option (Nat × Int) :=
  if num = 0 then some (0, f.minExponent)
  else
    let e := max f.minExponent (floorLog2 num den - (f.precision - 1 : Nat))
    let m := nearestEven (num * Nat.pow 2 (-e).toNat) (den * Nat.pow 2 e.toNat)
    let (m, e) :=
      if m = Nat.pow 2 f.precision then (Nat.pow 2 (f.precision - 1), e + 1) else (m, e)
    if e ≤ f.maxExponent then some (m, e) else none

/-! ## Numbers -/

/-- A finite number of the double format: `mantissa · 2 ^ exponent`, negated where `negative` says
so. There are two noughts. -/
structure Finite64 where
  negative : Bool
  mantissa : Nat
  exponent : Int
  canonical : Format.double.Canonical mantissa exponent
  deriving DecidableEq, Repr

/-- A number of the double format, an infinity, or not a number. -/
inductive Binary64 where
  | nan
  | infinity (negative : Bool)
  | finite (x : Finite64)
  deriving DecidableEq, Repr

namespace Finite64

/-- The number times `2 ^ shift`, cut to a whole number; exact where `exponent + shift ≥ 0`. -/
def scaled (x : Finite64) (shift : Nat) : Int :=
  let magnitude := x.mantissa * Nat.pow 2 (x.exponent + shift).toNat
  if x.negative then -(magnitude : Int) else magnitude

/-- Exact comparison. Both noughts are equal. -/
def compare (x y : Finite64) : Ordering :=
  let shift := max (-x.exponent).toNat (-y.exponent).toNat
  Ord.compare (x.scaled shift) (y.scaled shift)

/-- Exact comparison with a whole number. -/
def compareInt (x : Finite64) (n : Int) : Ordering :=
  let shift := (-x.exponent).toNat
  Ord.compare (x.scaled shift) (n * Nat.pow 2 shift)

/-- The greatest whole number that is not above the number. -/
def floor (x : Finite64) : Int :=
  let shift := (-x.exponent).toNat
  x.scaled shift / Nat.pow 2 shift

/-- Whether the number is whole. -/
def isWhole (x : Finite64) : Bool :=
  let shift := (-x.exponent).toNat
  x.scaled shift % Nat.pow 2 shift = 0

/-- Comparison with a whole number of at most 128 bits. A number whose floor lies outside of their
range is beyond all of them; otherwise the floor decides, and where it is the whole number itself,
the fraction. -/
def compareByFloor (x : Finite64) (n : Int) : Ordering :=
  -- As a floating-point number, the greatest whole number of 128 bits is rounded up.
  if greatestSigned128 + 1 ≤ x.floor then .gt
  else if x.floor < leastSigned128 then .lt
  else
    match Ord.compare x.floor n with
    | .eq => if x.isWhole then .eq else .gt
    | ordering => ordering

end Finite64

namespace Binary64

/-- Whether the number is neither infinite nor undefined. -/
def isFinite : Binary64 → Bool
  | .finite _ => true
  | _ => false

/-- The number of the double format nearest to `num / den`. -/
def ofQuotient (negative : Bool) (num den : Nat) : Binary64 :=
  match Format.double.round num den with
  | some (m, e) =>
    if h : Format.double.Canonical m e then .finite ⟨negative, m, e, h⟩ else .infinity negative
  | none => .infinity negative

/-- The number nearest to a whole number. -/
def ofInt (n : Int) : Binary64 :=
  ofQuotient (n < 0) n.natAbs 1

/-! ## Reading -/

/-- Decimals whose leading digit stands above this power of ten are beyond every format. -/
def greatestPower : Int := 310

/-- Decimals whose leading digit stands below this power of ten round to nought in every format. -/
def leastPower : Int := -345

/-- A decimal as a quotient of whole numbers, or `none` where its mere size puts it beyond every
finite number. One too small to matter counts as nought. -/
def quotientOf (d : Decimal) : Option (Nat × Nat) :=
  let top := d.exponent + (digits d.coefficient).length
  if d.coefficient = 0 ∨ top < leastPower then some (0, 1)
  else if greatestPower < top then none
  else some (d.coefficient * Nat.pow 10 d.exponent.toNat, Nat.pow 10 (-d.exponent).toNat)

/-- The number of the double format nearest to a decimal. -/
def ofDecimal (d : Decimal) : Binary64 :=
  match quotientOf d with
  | some (num, den) => ofQuotient d.negative num den
  | none => .infinity d.negative

/-- The number of the single format nearest to a decimal. -/
def ofDecimalSingle (d : Decimal) : Binary64 :=
  match quotientOf d with
  | some (num, den) =>
    match Format.single.round num den with
    | some (m, e) => ofQuotient d.negative (m * Nat.pow 2 e.toNat) (Nat.pow 2 (-e).toNat)
    | none => .infinity d.negative
  | none => .infinity d.negative

/-- The words for what is not a finite number, in any case of letters. -/
def word? (negative : Bool) (cs : List Char) : Option Binary64 :=
  let low := cs.map Char.toLower
  if low = "inf".toList ∨ low = "infinity".toList then some (.infinity negative)
  else if low = "nan".toList then some .nan
  else none

/-- Reads a signed decimal or word, rounding decimals as given. -/
def readWith? (ofDecimal : Decimal → Binary64) (cs : List Char) : Option Binary64 :=
  let (negative, rest) := splitSign cs
  match word? negative rest with
  | some x => some x
  | none => (Decimal.readUnsigned? negative rest).map ofDecimal

/-- Reads a number of the double format. -/
def read? (cs : List Char) : Option Binary64 :=
  readWith? ofDecimal cs

/-- Reads a number of the single format. -/
def readSingle? (cs : List Char) : Option Binary64 :=
  readWith? ofDecimalSingle cs

/-! ## Order -/

/-- Exact comparison; what is not a number compares with nothing. -/
def compare? : Binary64 → Binary64 → Option Ordering
  | .nan, _ => none
  | _, .nan => none
  | .infinity true, .infinity true => some .eq
  | .infinity false, .infinity false => some .eq
  | .infinity true, _ => some .lt
  | .infinity false, _ => some .gt
  | .finite _, .infinity true => some .gt
  | .finite _, .infinity false => some .lt
  | .finite x, .finite y => some (x.compare y)

/-- Comparison with a whole number of at most 128 bits, without rounding it. -/
def compareInt? : Binary64 → Int → Option Ordering
  | .nan, _ => none
  | .infinity true, _ => some .lt
  | .infinity false, _ => some .gt
  | .finite x, n => some (x.compareByFloor n)

end Binary64

end FieldRules.Number
