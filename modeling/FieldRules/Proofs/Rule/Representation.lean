import FieldRules.Proofs.Calendar.ReadBack
import FieldRules.Proofs.Interval.Epoch
import FieldRules.Rule.Matcher

/-!
# `Proofs.Rule.Representation` — how a number or an instant is held

A field may hold a whole number with a sign or without one, and an instant as such or as its number
of milliseconds. A matcher looks at a value in four ways: whether it is absent, what its text is, what
number it holds and what instant it denotes. Whole numbers agree in all four. An instant and its
milliseconds differ in their texts, and only one of them is a number, but they denote instants of the
same millisecond; and an interval of time asks for nothing else, because instants are compared by
their milliseconds.

## Contents
- **`Interval.scalarOf?`** and **`Interval.holds`**: what an interval looks at, and its condition on
  that.
- **`Interval.holds_of_millis`**: instants of one millisecond satisfy the same conditions.
- **`Matcher.hits_congr`**: values that look alike in all four ways are hit alike.
- **`temporal?_millis`**: outside of leap seconds, milliseconds denote the instant, cut to the
  millisecond.
- **`representation_irrelevant`**.
-/

namespace FieldRules

open Calendar Number

/-! ## The parts of an evaluation -/

namespace Interval

/-- The scalar under which a value is compared with the bounds of an interval. -/
def scalarOf? (i : Interval) (v : Value) : Option Scalar :=
  match i with
  | .past => temporal? v
  | .future => temporal? v
  | .range _ _ domain => scalarFor? domain v

/-- Whether a scalar satisfies the conditions of an interval at an instant. -/
def holds (i : Interval) (now : Instant) (x : Scalar) : Bool :=
  match i with
  | .past => x.compare? (.time now) = some .lt
  | .future => x.compare? (.time now) = some .gt
  | .range lower upper _ => lower.admits .lower now x && upper.admits .upper now x

theorem matchesAt_eq_any (i : Interval) (v : Value) (now : Instant) :
    i.matchesAt v now = (i.scalarOf? v).any (i.holds now) := by
  cases i <;> rfl

/-- An interval of time looks at the instant that a value denotes. -/
theorem Temporal.scalarOf? {i : Interval} (temporal : i.Temporal) (v : Value) :
    i.scalarOf? v = temporal? v := by
  cases i with
  | past => rfl
  | future => rfl
  | range lower upper domain =>
      obtain rfl : domain = some .temporal := temporal
      rw [Interval.scalarOf?, scalarFor?]

/-- Any interval looks at the number and the instant of a value only. -/
theorem scalarOf?_congr {v v' : Value} (hnumber : numeric? v' = numeric? v)
    (hinstant : temporal? v' = temporal? v) (i : Interval) : i.scalarOf? v' = i.scalarOf? v := by
  cases i with
  | past => exact hinstant
  | future => exact hinstant
  | range lower upper domain =>
      rw [scalarOf?, scalarOf?]
      cases domain with
      | none => rw [scalarFor?, scalarFor?, hnumber, hinstant]
      | some d =>
          cases d with
          | numeric => exact hnumber
          | temporal => exact hinstant

/-- An interval looks at instants or passes them all over. -/
theorem scalarOf?_timestamp (i : Interval) :
    (∀ t, i.scalarOf? (.timestamp t) = none) ∨
      ∀ t, i.scalarOf? (.timestamp t) = some (.time t) := by
  cases i with
  | past => exact .inr fun _ => rfl
  | future => exact .inr fun _ => rfl
  | range lower upper domain =>
      simp only [scalarOf?]
      cases domain with
      | none => exact .inr fun _ => rfl
      | some d =>
          cases d with
          | numeric => exact .inl fun _ => rfl
          | temporal => exact .inr fun _ => rfl

end Interval

/-! ## Instants of one millisecond -/

variable {s t now now' : Instant}

/-- Instants of one millisecond lie on the same side of every bound, and it makes no difference
either at which instant of a millisecond the bound is looked at. -/
theorem Bound.admits_of_millis (same : t.millis = s.millis) (hnow : now'.millis = now.millis)
    (b : Bound) (side : Side) : b.admits side now' (.time t) = b.admits side now (.time s) := by
  cases b with
  | unbounded => rfl
  | now inclusive => simp only [admits, limit?, Scalar.compare?, same, hnow]
  | literal value inclusive =>
      cases value with
      | int n => rfl
      | float x => rfl
      | time limit => simp only [admits, limit?, Scalar.compare?, same]

/-- **Only milliseconds are compared.** -/
theorem Interval.holds_of_millis (same : t.millis = s.millis) (hnow : now'.millis = now.millis)
    (i : Interval) : i.holds now' (.time t) = i.holds now (.time s) := by
  cases i with
  | past => rw [holds, holds, Scalar.compare?, Scalar.compare?, same, hnow]
  | future => rw [holds, holds, Scalar.compare?, Scalar.compare?, same, hnow]
  | range lower upper domain =>
      rw [holds, holds, lower.admits_of_millis same hnow, upper.admits_of_millis same hnow]

namespace Calendar.Instant

/-- The milliseconds of an instant are its nanoseconds since 1970, divided towards minus infinity. -/
theorem millis_eq_div (t : Instant) :
    t.millis = (t.seconds * 1000000000 + t.nanos) / 1000000 := by
  unfold millis
  omega

/-- The calendar reaches the milliseconds of its own instants, outside of leap seconds. -/
theorem reaches_millis (regular : t.isLeapSecond = false) : Reaches t.millis := by
  obtain ⟨hlo, hhi, -⟩ := t.valid
  have hnanos := nanos_lt_of_regular regular
  unfold Reaches millis
  omega

/-- They fit into 64 bits. -/
theorem toInt_millis (regular : t.isLeapSecond = false) :
    (Int64.ofInt t.millis).toInt = t.millis := by
  obtain ⟨hlo, hhi⟩ := reaches_millis regular
  unfold earliest at hlo
  unfold latest at hhi
  exact Int64.toInt_ofInt_of_le (by omega) (by omega)

end Calendar.Instant

/-- **The milliseconds of an instant denote the instant,** cut to the millisecond, outside of leap
seconds. -/
theorem temporal?_millis (regular : t.isLeapSecond = false) :
    Interval.temporal? (.int (Int64.ofInt t.millis)) = some (.time t.cut) := by
  have hwhole : (Value.int (Int64.ofInt t.millis)).whole? = some t.millis :=
    congrArg some (Instant.toInt_millis regular)
  rw [Interval.temporal?_of_whole? hwhole, Instant.ofMillis?_millis regular, Option.map_some]

/-! ## Values that look alike -/

/-- **Values that look alike are hit alike.** -/
theorem Matcher.hits_congr {v v' : Value} (habsent : v'.isNull = v.isNull)
    (htext : v'.literalText? = v.literalText?)
    (hnumber : Interval.numeric? v' = Interval.numeric? v)
    (hinstant : Interval.temporal? v' = Interval.temporal? v) (m : Matcher) (now : Instant) :
    m.hits v' now = m.hits v now := by
  cases m with
  | literals set polarity =>
      show set.contains v' = set.contains v
      rw [LiteralSet.contains, LiteralSet.contains, habsent, htext]
  | interval i =>
      show i.matchesAt v' now = i.matchesAt v now
      rw [i.matchesAt_eq_any, i.matchesAt_eq_any, i.scalarOf?_congr hnumber hinstant]
  | pattern p polarity =>
      show v'.literalText?.any p.isMatch = v.literalText?.any p.isMatch
      rw [htext]

/-- A whole number is hit alike with a sign and without one. -/
theorem Matcher.hits_uint {a : Int64} {b : UInt64} (same : a.toInt = b.toNat) (m : Matcher)
    (now : Instant) : m.hits (.uint b) now = m.hits (.int a) now := by
  have hwhole : (Value.uint b).whole? = some a.toInt := congrArg some same.symm
  refine Matcher.hits_congr ?_ ?_ ?_ ?_ m now
  · rfl
  · rw [Value.literalText?, Value.literalText?, same]
  · rw [Interval.numeric?, Interval.numeric?, same]
  · rw [Interval.temporal?_of_whole? hwhole]
    rfl

/-- **The representation does not matter.** A whole number from zero on that 63 bits hold gets the
same answer from every matcher at every instant, whether it is held with a sign or without one. An
instant outside of leap seconds gets the same answer from every interval of time as its number of
milliseconds. That number is rounded towards minus infinity, and whatever the interval, two instants
with the same number cannot be told apart. -/
theorem representation_irrelevant :
    (∀ n : Nat, n < 2 ^ 63 → ∀ (m : Matcher) (now : Instant),
      m.hits (.uint (.ofNat n)) now = m.hits (.int (.ofNat n)) now ∧
        m.passes (.uint (.ofNat n)) now = m.passes (.int (.ofNat n)) now) ∧
    (∀ t : Instant, t.isLeapSecond = false →
      (Int64.ofInt t.millis).toInt = t.millis ∧
        ∀ i : Interval, i.Temporal → ∀ now,
          i.matchesAt (.int (.ofInt t.millis)) now = i.matchesAt (.timestamp t) now) ∧
    ∀ t : Instant, t.millis = (t.seconds * 1000000000 + t.nanos) / 1000000 ∧
      ∀ s : Instant, s.millis = t.millis → ∀ (i : Interval) (now : Instant),
        i.matchesAt (.timestamp s) now = i.matchesAt (.timestamp t) now := by
  refine ⟨fun n hn m now => ?_, fun t regular => ⟨Instant.toInt_millis regular, ?_⟩,
    fun t => ⟨t.millis_eq_div, ?_⟩⟩
  · have same : (Int64.ofNat n).toInt = (UInt64.ofNat n).toNat := by
      rw [Int64.toInt_ofNat_of_lt hn, UInt64.toNat_ofNat_of_lt' (by unfold UInt64.size; omega)]
    have hhits := m.hits_uint same now
    exact ⟨hhits, by rw [Matcher.passes, Matcher.passes, hhits]⟩
  · intro i temporal now
    rw [i.matchesAt_eq_any, i.matchesAt_eq_any, temporal.scalarOf?, temporal.scalarOf?,
      temporal?_millis regular]
    exact i.holds_of_millis t.millis_cut rfl
  · intro s same i now
    rw [i.matchesAt_eq_any, i.matchesAt_eq_any]
    rcases i.scalarOf?_timestamp with hnone | hsome
    · rw [hnone, hnone]
    · rw [hsome, hsome]
      exact i.holds_of_millis same rfl

/-- Half a millisecond before 1970. -/
def justBefore : Instant := ⟨-1, 999500000, by decide⟩

/-- The last millisecond before 1970 and all that are earlier. -/
def untilLast : Interval :=
  .range .unbounded (.literal (.time ⟨-1, 999000000, by decide⟩) true) (some .temporal)

/-- Although the instant is after the bound, it lies in the range, with the bound itself and with
the number −1. The same goes for a number under a rule that rejects it. -/
theorem just_before_lies_inside :
    Interval.parse "(null, '1969-12-31 23:59:59.999']" = .ok untilLast ∧ untilLast.Temporal ∧
      justBefore.isLeapSecond = false ∧ justBefore.millis = -1 ∧
      untilLast.matchesAt (.timestamp justBefore) ⟨0, 0, by decide⟩ = true ∧
      untilLast.matchesAt (.int (.ofInt (-1))) ⟨0, 0, by decide⟩ = true ∧ 7 < 2 ^ 63 ∧
      (Matcher.literals (.ofList ["7"]) .reject).passes (.uint (.ofNat 7)) ⟨0, 0, by decide⟩ =
        false := by
  have temporal : untilLast.Temporal := rfl
  have regular : justBefore.isLeapSecond = false := by decide
  have hmillis : justBefore.millis = -1 := by decide
  have inside : untilLast.matchesAt (.timestamp justBefore) ⟨0, 0, by decide⟩ = true := by
    rw [← (representation_irrelevant.2.2 justBefore).2 ⟨-1, 999000000, by decide⟩ (by decide)]
    decide
  refine ⟨by decide +kernel, temporal, regular, hmillis, inside, ?_, by decide, ?_⟩
  · rw [← hmillis, (representation_irrelevant.2.1 justBefore regular).2 untilLast temporal]
    exact inside
  · have hsigned := (representation_irrelevant.1 7 (by decide)
      (.literals (.ofList ["7"]) .reject) ⟨0, 0, by decide⟩).2
    exact hsigned.trans (by decide +kernel)

end FieldRules
