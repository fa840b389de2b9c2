import FieldRules.Value

/-!
# `FieldRules.Interval.Basic` — intervals and what lies in them

## Contents
- **`Scalar`**, a point of the number line or of time, with the exact and partial `Scalar.compare?`.
- **`Bound`** and **`Interval`**. The two sides of a range are open, the evaluation instant, or a
  literal, and a range carries the domain under which it is evaluated; `past` and `future` are the
  instants strictly on either side of the evaluation instant.
- **`Interval.matchesAt`**, membership of a field value at an instant. Whole numbers count as
  milliseconds where the interval is one of time.
- **`Interval.isTimeDependent`**, whether membership asks for the instant at all.
-/

namespace FieldRules

open Calendar Number

/-! ## Scalars -/

/-- What kind of values an interval ranges over. -/
inductive Domain where
  /-- Whole and floating-point numbers. -/
  | numeric
  /-- Instants, or whole numbers read as milliseconds. -/
  | temporal
  deriving DecidableEq, Repr

/-- A point that a bound can name or a value can hold. -/
inductive Scalar where
  | int (n : Int)
  | float (x : Binary64)
  | time (t : Instant)
  deriving DecidableEq, Repr

namespace Scalar

/-- The domain of a scalar. -/
def domain : Scalar → Domain
  | .int _ => .numeric
  | .float _ => .numeric
  | .time _ => .temporal

/-- Exact comparison within a domain. Instants compare by their milliseconds. -/
def compare? : Scalar → Scalar → Option Ordering
  | .int a, .int b => some (compare a b)
  | .int a, .float b => (b.compareInt? a).map Ordering.swap
  | .float a, .int b => a.compareInt? b
  | .float a, .float b => a.compare? b
  | .time a, .time b => some (compare a.millis b.millis)
  | _, _ => none

/-- A scalar as it is written in an interval. -/
def chars : Scalar → List Char
  | .int n => ofInt n
  | .float x => x.chars
  | .time t => '\'' :: t.chars ++ ['\'']

end Scalar

/-! ## Bounds -/

/-- Which side of an interval a bound limits. -/
inductive Side where
  | lower
  | upper
  deriving DecidableEq, Repr

/-- One side of an interval. -/
inductive Bound where
  /-- No limit. -/
  | unbounded
  /-- The evaluation instant, itself inside where `inclusive` holds. -/
  | now (inclusive : Bool)
  /-- A number or an instant, itself inside where `inclusive` holds. -/
  | literal (value : Scalar) (inclusive : Bool)
  deriving DecidableEq, Repr

namespace Bound

/-- The domain that a bound belongs to; an open side belongs to both. -/
def domain? : Bound → Option Domain
  | .unbounded => none
  | .now _ => some .temporal
  | .literal value _ => some value.domain

/-- Whether the bound itself is inside. -/
def inclusive : Bound → Bool
  | .unbounded => false
  | .now inclusive => inclusive
  | .literal _ inclusive => inclusive

/-- The point that the bound names at an instant. -/
def limit? (now : Instant) : Bound → Option Scalar
  | .unbounded => none
  | .now _ => some (.time now)
  | .literal value _ => some value

/-- Whether a scalar lies on the inner side of the bound. What cannot be compared lies outside. -/
def admits (b : Bound) (side : Side) (now : Instant) (x : Scalar) : Bool :=
  match b.limit? now with
  | none => true
  | some limit =>
    match x.compare? limit with
    | some .eq => b.inclusive
    | some .gt => side = .lower
    | some .lt => side = .upper
    | none => false

/-- The bound as it is written. -/
def chars : Bound → List Char
  | .unbounded => ['n', 'u', 'l', 'l']
  | .now _ => ['n', 'o', 'w']
  | .literal value _ => value.chars

end Bound

/-! ## Intervals -/

/-- A set of numbers or instants. -/
inductive Interval where
  /-- All between two bounds, for values that are compared in a domain. A range that carries none
  admits numbers and instants alike. -/
  | range (lower upper : Bound) (domain : Option Domain)
  /-- Strictly before the evaluation instant. -/
  | past
  /-- Strictly after the evaluation instant. -/
  | future
  deriving DecidableEq, Repr

namespace Interval

/-- The domain that two bounds belong to: that of a side that is not open. -/
def domainOf? (lower upper : Bound) : Option Domain :=
  lower.domain?.or upper.domain?

/-- The number that a value holds. -/
def numeric? : Value → Option Scalar
  | .int n => some (.int n.toInt)
  | .uint n => some (.int n.toNat)
  | .float .nan => none
  | .float x => some (.float x)
  | _ => none

/-- The instant that a value holds or that its number of milliseconds denotes. -/
def temporal? : Value → Option Scalar
  | .timestamp t => some (.time t)
  | .int n => (Instant.ofMillis? n.toInt).map .time
  | .uint n =>
    if fitsSigned64 n.toNat then (Instant.ofMillis? n.toNat).map .time else none
  | _ => none

/-- The scalar under which a value is compared with bounds of a domain. -/
def scalarFor? : Option Domain → Value → Option Scalar
  | some .numeric, v => numeric? v
  | some .temporal, v => temporal? v
  | none, v => (numeric? v).or (temporal? v)

/-- Whether a value lies in the interval when the evaluation instant is `now`. Values that hold
neither a number nor an instant lie in none. -/
def matchesAt (i : Interval) (v : Value) (now : Instant) : Bool :=
  match i with
  | .past => (temporal? v).any fun t => t.compare? (.time now) = some .lt
  | .future => (temporal? v).any fun t => t.compare? (.time now) = some .gt
  | .range lower upper domain =>
    (scalarFor? domain v).any fun x =>
      lower.admits .lower now x && upper.admits .upper now x

/-- Whether membership depends on the evaluation instant. -/
def isTimeDependent : Interval → Bool
  | .range (.now _) _ _ => true
  | .range _ (.now _) _ => true
  | .range _ _ _ => false
  | .past => true
  | .future => true

/-! ## Writing -/

/-- The interval as it is written: a square bracket for a bound that is inside, a round one for a
bound that is outside and for an open side. -/
def chars : Interval → List Char
  | .past => ['p', 'a', 's', 't']
  | .future => ['f', 'u', 't', 'u', 'r', 'e']
  | .range lower upper _ =>
    (if lower.inclusive then '[' else '(') :: lower.chars ++ ',' :: ' ' :: upper.chars ++
      [if upper.inclusive then ']' else ')']

/-- The interval as it is written, as a string. -/
def text (i : Interval) : String :=
  String.ofList i.chars

end Interval

end FieldRules
