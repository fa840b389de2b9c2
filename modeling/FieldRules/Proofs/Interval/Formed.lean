import FieldRules.Proofs.Calendar.ReadBack
import FieldRules.Proofs.Interval.Exact

/-!
# `Proofs.Interval.Formed` — what every parsed interval satisfies

Each check of the parser leaves a fact about the bounds behind. Together they say that a range has a
domain unless it is open on both sides, that its bounds are points of that domain which can be
compared, and that they stand in order.

This is what the evaluation of an interval relies on. Where a value and a bound cannot be compared,
the value counts as outside, and nothing is reported; so a malformed interval would not be noticed.
The evaluation that has no answer there, `matchesAt?`, always has one for parsed intervals.

## Contents
- **`Scalar.AtMost`**, the exact order within a domain.
- **`Interval.Formed`**, a well-formed range, and **`formed_of_parse`**.
- **`Scalar.exists_compare?`**: points of one domain are comparable unless one is not a number.
- **`Interval.matchesAt?`**, evaluation that fails with a comparison, and
  **`parsed_interval_compares`**.
-/

namespace FieldRules

open Calendar Number

/-! ## Points in order -/

/-- The exact order of points: numbers as extended reals, instants by their nanoseconds. -/
inductive Scalar.AtMost : Scalar → Scalar → Prop where
  | number {a b : Scalar} {x y : EReal} (left : a.number? = some x) (right : b.number? = some y)
      (le : x ≤ y) : AtMost a b
  | time {s t : Instant}
      (le : s.seconds * 1000000000 + s.nanos ≤ t.seconds * 1000000000 + t.nanos) :
      AtMost (.time s) (.time t)

/-- What milliseconds make has whole milliseconds. -/
theorem Calendar.nanos_of_ofMillis? {ms : Int} {t : Instant} (h : Instant.ofMillis? ms = some t) :
    t.nanos % 1000000 = 0 := by
  have hnanos : t.nanos / 1000000 * 1000000 = t.nanos := congrArg Instant.nanos (cut_of_ofMillis? h)
  omega

/-- Readable literals of one domain that do not compare as the wrong way around are in order. -/
theorem Scalar.Readable.atMost {a b : Scalar} (ha : a.Readable) (hb : b.Readable)
    (same : a.domain = b.domain) (ordered : a.compare? b ≠ some .gt) : a.AtMost b := by
  have hnumber {s : Scalar} (hs : s.Readable) (hdomain : s.domain = .numeric) :
      ∃ x, s.number? = some x := by
    have numeric : (Bound.literal s true).Numeric := by
      refine ⟨hs, ?_⟩
      rw [Bound.domain?, hdomain]
      decide
    exact numeric.number?
  cases hdomain : a.domain with
  | numeric =>
      obtain ⟨x, hx⟩ := hnumber ha hdomain
      obtain ⟨y, hy⟩ := hnumber hb (same ▸ hdomain)
      rw [compare?_of_number? hx hy ha.fits hb.fits] at ordered
      refine .number hx hy (not_lt.mp fun hgt => ordered ?_)
      rw [(cmp_eq_gt_iff x y).mpr hgt]
  | temporal =>
      rw [hdomain] at same
      cases a with
      | int n => cases hdomain
      | float x => cases hdomain
      | time s =>
          cases b with
          | int n => cases same
          | float x => cases same
          | time t =>
              obtain ⟨ms, hs⟩ := ha
              obtain ⟨ms', ht⟩ := hb
              have hmillis : ¬t.millis < s.millis := by
                intro hgt
                exact ordered (congrArg some (compare_gt_iff_gt.mpr hgt))
              have hwhole := nanos_of_ofMillis? hs
              have hwhole' := nanos_of_ofMillis? ht
              unfold Instant.millis at hmillis
              exact .time (by omega)

/-! ## Well-formed ranges -/

namespace Interval

/-- A well-formed range. -/
structure Formed (lower upper : Bound) (domain : Option Domain) : Prop where
  /-- A range without a domain is open on both sides. -/
  open_iff : domain = none ↔ lower = .unbounded ∧ upper = .unbounded
  /-- A side that is not open has the domain of the range. -/
  same : ∀ b ∈ [lower, upper], b ≠ .unbounded → b.domain? = domain
  /-- A floating-point number is finite. -/
  finite : ∀ b ∈ [lower, upper], ∀ x inclusive, b = .literal (.float x) inclusive →
    x.isFinite = true
  /-- An instant has whole milliseconds and lies in no leap second. -/
  whole : ∀ b ∈ [lower, upper], ∀ t inclusive, b = .literal (.time t) inclusive →
    t.nanos % 1000000 = 0 ∧ t.isLeapSecond = false
  /-- Two literals stand in order. -/
  ordered : ∀ a p b q, lower = .literal a p → upper = .literal b q → a.AtMost b

/-- A bound is readable if both are. -/
theorem readable_of_mem {lower upper b : Bound} (hlower : lower.Readable) (hupper : upper.Readable)
    (hb : b ∈ [lower, upper]) : b.Readable := by
  rcases List.mem_pair.mp hb with rfl | rfl
  · exact hlower
  · exact hupper

/-- **Every parsed range is well formed.** -/
theorem formed_of_parse {expression : String} {lower upper : Bound} {domain : Option Domain}
    (parsed : parse expression = .ok (.range lower upper domain)) :
    Formed lower upper domain := by
  obtain ⟨hlower, hupper, joined, rfl⟩ := joined_of_parse parsed
  refine ⟨?_, fun b hb hne => joined.domain?_eq hb hne, ?_, ?_, ?_⟩
  · rw [domainOf?, Option.or_eq_none_iff, Bound.domain?_eq_none_iff, Bound.domain?_eq_none_iff]
  · rintro b hb x inclusive rfl
    exact readable_of_mem hlower hupper hb
  · rintro b hb t inclusive rfl
    obtain ⟨ms, hms⟩ := readable_of_mem hlower hupper hb
    exact ⟨nanos_of_ofMillis? hms, (millis_of_ofMillis? hms).1⟩
  · rintro a p b q rfl rfl
    have hordered : a.compare? b ≠ some .gt := reversed?_literal_iff.mp joined.ordered
    exact hlower.atMost hupper (joined.domains _ _ rfl rfl) hordered

end Interval

/-! ## Comparisons -/

/-- **Points of one domain are comparable** unless one of them is not a number. -/
theorem Scalar.exists_compare? {x y : Scalar} (hx : x ≠ .float .nan) (hy : y ≠ .float .nan)
    (same : x.domain = y.domain) : ∃ order, x.compare? y = some order := by
  -- each comparison that involves a floating-point number distinguishes what kind it is
  have hint {x : Binary64} (hx : Scalar.float x ≠ .float .nan) (n : Int) :
      ∃ order, x.compareInt? n = some order := by
    cases x with
    | nan => exact absurd rfl hx
    | finite x => exact ⟨_, rfl⟩
    | infinity negative => cases negative <;> exact ⟨_, rfl⟩
  cases x with
  | int m =>
      cases y with
      | int n => exact ⟨_, rfl⟩
      | float y =>
          obtain ⟨order, horder⟩ := hint hy m
          exact ⟨order.swap, by rw [compare?, horder, Option.map_some]⟩
      | time t => cases same
  | float x =>
      cases y with
      | int n => exact hint hx n
      | time t => cases same
      | float y =>
          cases x with
          | nan => exact absurd rfl hx
          | finite x =>
              cases y with
              | nan => exact absurd rfl hy
              | finite y => exact ⟨_, rfl⟩
              | infinity negative => cases negative <;> exact ⟨_, rfl⟩
          | infinity negative =>
              cases y with
              | nan => exact absurd rfl hy
              | finite y => cases negative <;> exact ⟨_, rfl⟩
              | infinity negative' => cases negative <;> cases negative' <;> exact ⟨_, rfl⟩
  | time s =>
      cases y with
      | int n => cases same
      | float y => cases same
      | time t => exact ⟨_, rfl⟩

namespace Interval

/-- What a value is compared as in numbers is a number. -/
theorem of_numeric? {v : Value} {x : Scalar} (h : numeric? v = some x) :
    x.domain = .numeric ∧ x ≠ .float .nan := by
  cases v with
  | int n =>
      cases h
      exact ⟨rfl, by simp⟩
  | uint n =>
      cases h
      exact ⟨rfl, by simp⟩
  | float y =>
      cases y with
      | nan => cases h
      | _ =>
          cases h
          exact ⟨rfl, by simp⟩
  | _ => cases h

/-- What a value is compared as in a domain belongs to it, and is not something that is not a
number. -/
theorem of_scalarFor? {d : Option Domain} {v : Value} {x : Scalar} (h : scalarFor? d v = some x) :
    (∀ d', d = some d' → x.domain = d') ∧ x ≠ .float .nan := by
  cases d with
  | none =>
      refine ⟨nofun, ?_⟩
      rcases Option.or_eq_some_iff.mp h with hnumeric | ⟨-, htemporal⟩
      · exact (of_numeric? hnumeric).2
      · obtain ⟨t, rfl⟩ := exists_time_of_temporal? htemporal
        simp
  | some d =>
      cases d with
      | numeric =>
          obtain ⟨hdomain, hnumber⟩ := of_numeric? h
          refine ⟨fun d' hd' => ?_, hnumber⟩
          cases hd'
          exact hdomain
      | temporal =>
          obtain ⟨t, rfl⟩ := exists_time_of_temporal? h
          refine ⟨fun d' hd' => ?_, by simp⟩
          cases hd'
          rfl

/-- **In a well-formed range every comparison has an answer.** -/
theorem Formed.exists_compare? {lower upper : Bound} {domain : Option Domain}
    (formed : Formed lower upper domain) {v : Value} {now : Instant} {x limit : Scalar}
    (held : scalarFor? domain v = some x)
    {b : Bound} (hb : b ∈ [lower, upper]) (hlimit : b.limit? now = some limit) :
    ∃ order, x.compare? limit = some order := by
  obtain ⟨hdomain, hnumber⟩ := of_scalarFor? held
  have hne : b ≠ .unbounded := by
    rintro rfl
    cases hlimit
  have hbound : b.domain? = some limit.domain := by
    cases b with
    | unbounded => cases hlimit
    | now inclusive =>
        cases hlimit
        rfl
    | literal value inclusive =>
        cases hlimit
        rfl
  have hfinite : limit ≠ .float .nan := by
    rintro rfl
    cases b with
    | unbounded => cases hlimit
    | now inclusive => cases hlimit
    | literal value inclusive =>
        cases hlimit
        cases formed.finite _ hb _ _ rfl
  rw [formed.same b hb hne] at hbound
  exact Scalar.exists_compare? hnumber hfinite (hdomain _ hbound)

end Interval

/-! ## Evaluation that fails with a comparison -/

/-- Whether a scalar lies on the inner side of the bound, without an answer where the two cannot be
compared. -/
def Bound.admits? (b : Bound) (side : Side) (now : Instant) (x : Scalar) : Option Bool :=
  match b.limit? now with
  | none => some true
  | some limit =>
    (x.compare? limit).map fun
      | .eq => b.inclusive
      | .gt => side = .lower
      | .lt => side = .upper

/-- Where the comparison has an answer, so has the bound, and it is the usual one. -/
theorem Bound.admits?_eq {b : Bound} {side : Side} {now : Instant} {x : Scalar}
    (comparable : ∀ limit, b.limit? now = some limit → ∃ order, x.compare? limit = some order) :
    b.admits? side now x = some (b.admits side now x) := by
  rw [admits?, admits]
  cases hlimit : b.limit? now with
  | none => rfl
  | some limit =>
      obtain ⟨order, horder⟩ := comparable limit hlimit
      simp only [horder, Option.map_some]
      cases order <;> rfl

namespace Interval

/-- Whether a value lies in the interval, without an answer where a value and a bound that have to be
compared cannot be. The upper bound is looked at only if the lower one admits the value. -/
def matchesAt? (i : Interval) (v : Value) (now : Instant) : Option Bool :=
  match i with
  | .past =>
    match temporal? v with
    | none => some false
    | some t => (t.compare? (.time now)).map (· = .lt)
  | .future =>
    match temporal? v with
    | none => some false
    | some t => (t.compare? (.time now)).map (· = .gt)
  | .range lower upper domain =>
    match scalarFor? domain v with
    | none => some false
    | some x => do
      if ← lower.admits? .lower now x then upper.admits? .upper now x
      else return false

/-- What a value is compared as in time can be compared with the evaluation instant. -/
theorem compare?_now (v : Value) (now : Instant) (order : Ordering) :
    (match temporal? v with
      | none => some false
      | some t => (t.compare? (.time now)).map (· = order)) =
      some ((temporal? v).any fun t => t.compare? (.time now) = some order) := by
  cases held : temporal? v with
  | none => rfl
  | some x =>
      obtain ⟨t, rfl⟩ := exists_time_of_temporal? held
      simp [Scalar.compare?]

/-- **Well-formed ranges are evaluated without a failed comparison.** -/
theorem Formed.matchesAt?_eq {lower upper : Bound} {domain : Option Domain}
    (formed : Formed lower upper domain) (v : Value) (now : Instant) :
    (range lower upper domain).matchesAt? v now =
      some ((range lower upper domain).matchesAt v now) := by
  rw [matchesAt?, matchesAt]
  cases held : scalarFor? domain v with
  | none => rfl
  | some x =>
      have hlower : lower.admits? .lower now x = some (lower.admits .lower now x) :=
        Bound.admits?_eq fun _ => formed.exists_compare? held (by simp)
      have hupper : upper.admits? .upper now x = some (upper.admits .upper now x) :=
        Bound.admits?_eq fun _ => formed.exists_compare? held (by simp)
      simp only [hlower, hupper, Option.bind_eq_bind, Option.bind_some, Option.any_some]
      cases lower.admits .lower now x <;> rfl

/-- **Parsed intervals are well formed and comparable.** The range that an expression is read as has
a domain unless both sides are open, its bounds have that domain, its floating-point numbers are
finite, its instants have whole milliseconds outside of leap seconds, and two literals stand in
order. So whatever value is looked for in a parsed interval, and at whatever instant, no comparison
fails, and the answer is the one that evaluation without failures gives. -/
theorem parsed_interval_compares {expression : String} {i : Interval}
    (parsed : parse expression = .ok i) :
    (∀ lower upper domain, i = .range lower upper domain →
      Formed lower upper domain ∧
      ∀ v now x, scalarFor? domain v = some x →
        ∀ b ∈ [lower, upper], ∀ limit, b.limit? now = some limit →
          ∃ order, x.compare? limit = some order) ∧
    ∀ v now, i.matchesAt? v now = some (i.matchesAt v now) := by
  refine ⟨?_, fun v now => ?_⟩
  · rintro lower upper domain rfl
    have formed := formed_of_parse parsed
    exact ⟨formed, fun v now x held b hb limit hlimit => formed.exists_compare? held hb hlimit⟩
  · cases i with
    | past => exact compare?_now v now .lt
    | future => exact compare?_now v now .gt
    | range lower upper domain => exact (formed_of_parse parsed).matchesAt?_eq v now

/-- From a whole number that no floating-point number is to the floating-point number after it. -/
def oneAbove : Interval :=
  .range (.literal (.int 9007199254740993) true)
    (.literal (.float (.finite ⟨false, 4503599627370497, 1, by decide⟩)) false) (some .numeric)

/-- The two bounds are told apart, as is everything from them. A bound that is not a number could
not be, nor one of another domain than its range; no expression has either. -/
theorem one_above_compares :
    parse "[9007199254740993, 9007199254740994.0)" = .ok oneAbove ∧
      oneAbove.matchesAt? (.uint 9007199254740993) ⟨0, 0, by decide⟩ = some true ∧
      (range (.literal (.float .nan) true) .unbounded (some .numeric)).matchesAt?
        (.uint 9007199254740993) ⟨0, 0, by decide⟩ = none ∧
      (range (.literal (.int 0) true) .unbounded (some .temporal)).matchesAt?
        (.uint 1) ⟨0, 0, by decide⟩ = none := by
  have parsed : parse "[9007199254740993, 9007199254740994.0)" = .ok oneAbove := by decide +kernel
  refine ⟨parsed, ?_, rfl, rfl⟩
  rw [(parsed_interval_compares parsed).2]
  decide +kernel

end Interval

end FieldRules
