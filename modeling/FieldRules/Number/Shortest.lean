import FieldRules.Number.Binary

/-!
# `FieldRules.Number.Shortest` — the shortest decimal that reads back

A floating-point number is written with the fewest digits that still read back as the same number,
and of those with the digits nearest to it. The digits are written out by position, whatever the
size of the number: no exponent is ever used.

## Contents
- **`Reach`**: the interval of numbers that round to a given one.
- **`shortest`**: on the coarsest grid of powers of ten that has a point in the interval, the point
  nearest to the number, of two equally near ones the greater.
- **`positional`** and **`Binary64.text`**.
-/

namespace FieldRules.Number

/-! ## The interval that rounds to a number -/

/-- The numbers that round to `centre / unit`: those from `low / unit` to `high / unit`, with the
ends where `closed` holds. -/
structure Reach where
  low : Nat
  centre : Nat
  high : Nat
  unit : Nat
  closed : Bool

namespace Reach

/-- The reach of `m · 2 ^ e` in a format. It ends halfway to the neighbours. The lower neighbour is
only half as far away where the mantissa is the least one of full precision. Ends round to the even
mantissa, so they belong to an even one. -/
def of (f : Format) (m : Nat) (e : Int) : Reach :=
  let nearer := m = Nat.pow 2 (f.precision - 1) ∧ e ≠ f.minExponent
  let scale := Nat.pow 2 (e - 2).toNat
  { low := (if nearer then 4 * m - 1 else 4 * m - 2) * scale
    centre := 4 * m * scale
    high := (4 * m + 2) * scale
    unit := Nat.pow 2 (2 - e).toNat
    closed := m % 2 = 0 }

/-- Whether `num / den` lies in the reach. -/
def contains (r : Reach) (num den : Nat) : Bool :=
  let x := num * r.unit
  if r.closed then r.low * den ≤ x && x ≤ r.high * den
  else r.low * den < x && x < r.high * den

/-- The point of the grid of multiples of `10 ^ k` that lies in the reach nearest to its centre, as
a multiple, if there is one. Only the neighbours of the centre on the grid can be nearest. -/
def onGrid? (r : Reach) (k : Int) : Option Nat :=
  let num := Nat.pow 10 k.toNat
  let den := Nat.pow 10 (-k).toNat
  let below := r.centre * den / (r.unit * num)
  let hit (a : Nat) : Bool := r.contains (a * num) den
  match hit below, hit (below + 1) with
  | false, false => none
  | true, false => some below
  | false, true => some (below + 1)
  | true, true =>
    -- Both neighbours read back, so the nearer one is taken.
    let rest := r.centre * den - below * (r.unit * num)
    some (if 2 * rest < r.unit * num then below else below + 1)

/-- The first grid with a point in the reach, from `10 ^ k` downwards, with that point. -/
def search (r : Reach) : Nat → Int → Nat × Int
  | 0, k => ((r.onGrid? k).getD 0, k)
  | fuel + 1, k =>
    match r.onGrid? k with
    | some a => (a, k)
    | none => search r fuel (k - 1)

end Reach

/-- The shortest decimal `a · 10 ^ k` that reads back as `m · 2 ^ e`, for a mantissa above nought.
The search ends at `10 ^ e` or at the units at the latest, because there the number itself is a
point of the grid. -/
def shortest (f : Format) (m : Nat) (e : Int) : Nat × Int :=
  let r := Reach.of f m e
  let top : Int := (digits (r.centre / r.unit)).length
  r.search (top - min e 0).toNat top

/-! ## Writing -/

/-- The decimal `a · 10 ^ k` by position: noughts are filled in on either side, and a point stands
only before a fraction. -/
def positional (a : Nat) (k : Int) : List Char :=
  let ds := digits a
  if 0 ≤ k then ds ++ List.replicate k.toNat '0'
  else
    let places := (-k).toNat
    if places < ds.length then ds.take (ds.length - places) ++ '.' :: ds.drop (ds.length - places)
    else '0' :: '.' :: (List.replicate (places - ds.length) '0' ++ ds)

namespace Finite64

/-- The text of a finite number. -/
def chars (x : Finite64) : List Char :=
  let magnitude :=
    if x.mantissa = 0 then ['0']
    else
      let (a, k) := shortest .double x.mantissa x.exponent
      positional a k
  if x.negative then '-' :: magnitude else magnitude

end Finite64

namespace Binary64

/-- The text of a number: shortest digits by position, `NaN`, `inf` or `-inf`. -/
def chars : Binary64 → List Char
  | .nan => ['N', 'a', 'N']
  | .infinity negative => if negative then ['-', 'i', 'n', 'f'] else ['i', 'n', 'f']
  | .finite x => x.chars

/-- The text of a number, as a string. -/
def text (x : Binary64) : String :=
  String.ofList x.chars

end Binary64

end FieldRules.Number
