import FieldRules.Proofs.Interval.Parsed
import FieldRules.Proofs.Number.Order
import Mathlib

/-!
# `Proofs.Interval.Exact` — numbers in ranges of numbers

A range of numbers is a set of extended reals. A whole number stands for itself, a floating-point
number for its mantissa times the power of two, an infinity for the end of the line. Values and
bounds come in both kinds, and each of the four comparisons between them is that of the extended
reals, as long as whole numbers have at most 128 bits. Values have at most 64, and an expression with
a longer whole number makes it a floating-point bound.

## Contents
- **`Scalar.number?`** and **`Value.number?`**, the extended real numbers that scalars and values
  hold.
- **`Scalar.Fits`**, whole numbers of at most 128 bits, and **`compare?_of_number?`**.
- **`Bound.AdmitsNumber`** and **`admits_number_iff`**: bounds as conditions on extended reals.
- **`matchesAt_number_iff`**, and **`power_lies_above_greatest`**, a float next to the greatest whole
  number of 128 bits.
-/

namespace FieldRules

open Calendar Number

/-! ## Numbers as extended reals -/

/-- The extended real number that a floating-point number stands for. -/
noncomputable def Number.Binary64.number? : Binary64 → Option EReal
  | .nan => none
  | .infinity negative => some (if negative then ⊥ else ⊤)
  | .finite x => some (x.toRat : ℝ)

/-- The extended real number that a scalar stands for. -/
noncomputable def Scalar.number? : Scalar → Option EReal
  | .int n => some (n : ℝ)
  | .float x => x.number?
  | .time _ => none

/-- The extended real number that a value holds. -/
noncomputable def Value.number? : Value → Option EReal
  | .int n => some (n.toInt : ℝ)
  | .uint n => some (n.toNat : ℝ)
  | .float x => x.number?
  | _ => none

/-- Whole numbers have at most 128 bits. -/
def Scalar.Fits : Scalar → Prop
  | .int n => leastSigned128 ≤ n ∧ n ≤ greatestSigned128
  | _ => True

theorem Scalar.Readable.fits {s : Scalar} (h : s.Readable) : s.Fits := by
  cases s with
  | int n => exact h
  | float x => trivial
  | time t => trivial

/-! ## Comparison -/

/-- Rationals lie among the extended reals in their own order. -/
theorem cmp_coe (a b : ℚ) : cmp ((a : ℝ) : EReal) ((b : ℝ) : EReal) = cmp a b := by
  have hmono : StrictMono fun q : ℚ => ((q : ℝ) : EReal) :=
    EReal.coe_strictMono.comp Rat.cast_strictMono
  exact hmono.cmp_map_eq a b

section Infinities

variable (r : ℝ)

theorem cmp_bot_coe : cmp (⊥ : EReal) r = .lt := (cmp_eq_lt_iff _ _).mpr (EReal.bot_lt_coe r)

theorem cmp_coe_bot : cmp (r : EReal) ⊥ = .gt := (cmp_eq_gt_iff _ _).mpr (EReal.bot_lt_coe r)

theorem cmp_top_coe : cmp (⊤ : EReal) r = .gt := (cmp_eq_gt_iff _ _).mpr (EReal.coe_lt_top r)

theorem cmp_coe_top : cmp (r : EReal) ⊤ = .lt := (cmp_eq_lt_iff _ _).mpr (EReal.coe_lt_top r)

theorem cmp_bot_top : cmp (⊥ : EReal) ⊤ = .lt := (cmp_eq_lt_iff _ _).mpr bot_lt_top

theorem cmp_top_bot : cmp (⊤ : EReal) ⊥ = .gt := (cmp_eq_gt_iff _ _).mpr bot_lt_top

end Infinities

/-- Two floating-point numbers are compared as extended reals. -/
theorem Number.Binary64.compare?_of_number? {x y : Binary64} {a b : EReal}
    (hx : x.number? = some a) (hy : y.number? = some b) : x.compare? y = some (cmp a b) := by
  cases x with
  | nan => cases hx
  | finite x =>
      cases hx
      cases y with
      | nan => cases hy
      | finite y =>
          cases hy
          rw [cmp_coe, ← Finite64.compare_eq]
          rfl
      | infinity sign =>
          cases hy
          cases sign with
          | true => exact congrArg some (cmp_coe_bot _).symm
          | false => exact congrArg some (cmp_coe_top _).symm
  | infinity sign =>
      cases hx
      cases y with
      | nan => cases hy
      | finite y =>
          cases hy
          cases sign with
          | true => exact congrArg some (cmp_bot_coe _).symm
          | false => exact congrArg some (cmp_top_coe _).symm
      | infinity sign' =>
          cases hy
          cases sign with
          | true =>
              cases sign' with
              | true => exact congrArg some (cmp_self_eq_eq _).symm
              | false => exact congrArg some cmp_bot_top.symm
          | false =>
              cases sign' with
              | true => exact congrArg some cmp_top_bot.symm
              | false => exact congrArg some (cmp_self_eq_eq _).symm

/-- A floating-point number is compared with a whole one as extended reals are. -/
theorem Number.Binary64.compareInt?_of_number? {x : Binary64} {a : EReal} {n : Int}
    (hx : x.number? = some a) (hn : (Scalar.int n).Fits) :
    x.compareInt? n = some (cmp a ((n : ℝ) : EReal)) := by
  cases x with
  | nan => cases hx
  | finite x =>
      cases hx
      have hcast : ((n : ℝ) : EReal) = (((n : ℚ) : ℝ) : EReal) := by norm_cast
      rw [hcast, cmp_coe, ← x.compareByFloor_eq hn.1 hn.2]
      rfl
  | infinity sign =>
      cases hx
      cases sign with
      | true => exact congrArg some (cmp_bot_coe _).symm
      | false => exact congrArg some (cmp_top_coe _).symm

/-- **Scalars are compared as extended reals,** if their whole numbers have at most 128 bits. -/
theorem Scalar.compare?_of_number? {s t : Scalar} {a b : EReal} (hs : s.number? = some a)
    (ht : t.number? = some b) (fits : s.Fits) (fits' : t.Fits) :
    s.compare? t = some (cmp a b) := by
  cases s with
  | time s => cases hs
  | int m =>
      cases hs
      cases t with
      | time t => cases ht
      | int n =>
          cases ht
          have hcast (k : Int) : ((k : ℝ) : EReal) = (((k : ℚ) : ℝ) : EReal) := by norm_cast
          rw [hcast, hcast, cmp_coe, Finite64.cmp_intCast]
          rfl
      | float y =>
          have hswap := Binary64.compareInt?_of_number? ht fits
          show (y.compareInt? m).map Ordering.swap = _
          rw [hswap, Option.map_some, cmp_swap]
  | float x =>
      cases t with
      | time t => cases ht
      | int n =>
          cases ht
          exact Binary64.compareInt?_of_number? hs fits'
      | float y => exact Binary64.compare?_of_number? hs ht

/-- What stands for no number compares with no number. -/
theorem Scalar.compare?_of_number?_none {s t : Scalar} {b : EReal} (hs : s.number? = none)
    (ht : t.number? = some b) : s.compare? t = none := by
  cases t with
  | time t => cases ht
  | int n =>
      cases s with
      | int m => cases hs
      | time s => rfl
      | float x =>
          cases x with
          | nan => rfl
          | finite x => cases hs
          | infinity sign => cases hs
  | float y =>
      cases s with
      | int m => cases hs
      | time s => rfl
      | float x =>
          cases x with
          | nan => rfl
          | finite x => cases hs
          | infinity sign => cases hs

/-! ## Bounds of ranges of numbers -/

/-- The extended real number that a bound stands for. An open side stands for none. -/
noncomputable def Bound.number? : Bound → Option EReal
  | .unbounded => none
  | .now _ => none
  | .literal value _ => value.number?

/-- A number lies on the inner side of a bound: strictly, or on the bound itself where the bracket
includes it. An open side admits every number. -/
def Bound.AdmitsNumber (b : Bound) (side : Side) (x : EReal) : Prop :=
  ∀ limit, b.number? = some limit →
    (match side with
      | .lower => limit < x
      | .upper => x < limit) ∨
    (x = limit ∧ b.inclusive = true)

/-- A literal of a range of numbers stands for an extended real number. -/
theorem Bound.Numeric.number? {value : Scalar} {inclusive : Bool}
    (h : (Bound.literal value inclusive).Numeric) : ∃ a, value.number? = some a := by
  rcases h.cases with heq | ⟨n, _, heq, -, -⟩ | ⟨x, _, heq⟩
  · cases heq
  · cases heq
    exact ⟨_, rfl⟩
  · cases heq
    exact ⟨_, rfl⟩

/-- **A bound of a range of numbers admits a scalar** if it admits its number. -/
theorem admits_number_iff {b : Bound} (h : b.Numeric) (side : Side) (now : Instant) {s : Scalar}
    {x : EReal} (hs : s.number? = some x) (fits : s.Fits) :
    b.admits side now s = true ↔ b.AdmitsNumber side x := by
  cases b with
  | now inclusive => exact absurd rfl h.2
  | unbounded =>
      refine ⟨fun _ limit hlimit => ?_, fun _ => rfl⟩
      cases hlimit
  | literal value inclusive =>
      obtain ⟨limit, hvalue⟩ := h.number?
      have hcompare := Scalar.compare?_of_number? hs hvalue fits h.1.fits
      have hlimit : (Bound.literal value inclusive).number? = some limit := hvalue
      unfold Bound.AdmitsNumber Bound.admits
      simp only [hlimit, Bound.limit?, hcompare, Option.some.injEq, forall_eq']
      rcases lt_trichotomy x limit with hlt | heq | hgt
      · rw [(cmp_eq_lt_iff _ _).mpr hlt]
        cases side <;> simp [hlt, hlt.ne, hlt.le]
      · rw [(cmp_eq_eq_iff _ _).mpr heq]
        cases side <;> simp [heq]
      · rw [(cmp_eq_gt_iff _ _).mpr hgt]
        cases side <;> simp [hgt, hgt.ne', hgt.le]

/-! ## Values -/

/-- Whole numbers of 64 bits have at most 128. -/
theorem fits_of_int64 (n : Int64) : (Scalar.int n.toInt).Fits := by
  have hlo := n.le_toInt
  have hhi := n.toInt_lt
  show leastSigned128 ≤ n.toInt ∧ n.toInt ≤ greatestSigned128
  unfold leastSigned128 greatestSigned128
  omega

theorem fits_of_uint64 (n : UInt64) : (Scalar.int n.toNat).Fits := by
  have hhi := n.toNat_lt
  show leastSigned128 ≤ (n.toNat : Int) ∧ (n.toNat : Int) ≤ greatestSigned128
  unfold leastSigned128 greatestSigned128
  omega

/-- A value that holds a number is compared as a scalar that stands for it. -/
theorem numeric?_of_number? {v : Value} {x : EReal} (h : v.number? = some x) :
    ∃ s, Interval.numeric? v = some s ∧ s.number? = some x ∧ s.Fits := by
  cases v with
  | int n => exact ⟨.int n.toInt, rfl, h, fits_of_int64 n⟩
  | uint n => exact ⟨.int n.toNat, rfl, h, fits_of_uint64 n⟩
  | float y =>
      cases y with
      | nan => cases h
      | finite y => exact ⟨.float (.finite y), rfl, h, trivial⟩
      | infinity sign => exact ⟨.float (.infinity sign), rfl, h, trivial⟩
  | _ => cases h

/-- A value that holds no number is not compared with numbers. -/
theorem numeric?_of_number?_none {v : Value} (h : v.number? = none) :
    Interval.numeric? v = none := by
  cases v with
  | int n => cases h
  | uint n => cases h
  | float y =>
      cases y with
      | nan => rfl
      | finite y => cases h
      | infinity sign => cases h
  | _ => rfl

/-- What a value is compared as in time is an instant. -/
theorem Interval.exists_time_of_temporal? {v : Value} {x : Scalar} (h : temporal? v = some x) :
    ∃ t, x = .time t := by
  have hinstant {t : Option Instant} (h : t.map Scalar.time = some x) : ∃ t, x = .time t := by
    obtain ⟨t, -, rfl⟩ := Option.map_eq_some_iff.mp h
    exact ⟨t, rfl⟩
  cases v with
  | timestamp t => exact ⟨t, (Option.some.inj h).symm⟩
  | int n => exact hinstant h
  | uint n =>
      rw [temporal?] at h
      split at h
      · exact hinstant h
      · cases h
  | _ => cases h

/-- What a value is compared as has at most 128 bits if it is whole. -/
theorem fits_of_scalarFor? {d : Option Domain} {v : Value} {s : Scalar}
    (h : Interval.scalarFor? d v = some s) : s.Fits := by
  have hnumeric (h : Interval.numeric? v = some s) : s.Fits := by
    cases hv : v.number? with
    | none => rw [numeric?_of_number?_none hv] at h; cases h
    | some x =>
        obtain ⟨s', hread, -, fits⟩ := numeric?_of_number? hv
        rw [hread] at h
        cases h
        exact fits
  have htemporal (h : Interval.temporal? v = some s) : s.Fits := by
    obtain ⟨t, rfl⟩ := Interval.exists_time_of_temporal? h
    trivial
  cases d with
  | none =>
      rcases Option.or_eq_some_iff.mp h with h | ⟨-, h⟩
      · exact hnumeric h
      · exact htemporal h
  | some d =>
      cases d with
      | numeric => exact hnumeric h
      | temporal => exact htemporal h

/-- **Numbers in ranges of numbers.** A value lies in a parsed range of numbers exactly if it holds a
number that lies above the lower bound and below the upper bound, or on a bound with a square
bracket. All numbers are taken exactly. -/
theorem matchesAt_number_iff {expression : String} {lower upper : Bound}
    (parsed : Interval.parse expression = .ok (.range lower upper (some .numeric))) (v : Value)
    (now : Instant) :
    (Interval.range lower upper (some .numeric)).matchesAt v now = true ↔
      ∃ x, v.number? = some x ∧ lower.AdmitsNumber .lower x ∧ upper.AdmitsNumber .upper x := by
  obtain ⟨readableLower, readableUpper, joined, numeric⟩ := Interval.joined_of_parse parsed
  obtain ⟨hlower, hupper⟩ :=
    joined.domain?_ne numeric.symm (show Domain.numeric ≠ .temporal by decide)
  cases hv : v.number? with
  | none =>
      have hnone := numeric?_of_number?_none hv
      simp [Interval.matchesAt, Interval.scalarFor?, hnone]
  | some x =>
      obtain ⟨s, hread, hs, fits⟩ := numeric?_of_number? hv
      have hlower := admits_number_iff ⟨readableLower, hlower⟩ .lower now hs fits
      have hupper := admits_number_iff ⟨readableUpper, hupper⟩ .upper now hs fits
      simp only [Interval.matchesAt, Interval.scalarFor?, hread, Option.any_some,
        Bool.and_eq_true, hlower, hupper, Option.some.injEq, exists_eq_left']

/-- The greatest whole number of 128 bits with a sign, as a bound that is itself outside. -/
def greatestBound : Bound :=
  .literal (.int 170141183460469231731687303715884105727) false

/-- The next whole number, a power of two, is above that bound, although the bound as a
floating-point number would be the power itself. -/
theorem power_lies_above_greatest :
    Interval.parse "(170141183460469231731687303715884105727, null)" =
        .ok (.range greatestBound .unbounded (some .numeric)) ∧
      Binary64.ofInt greatestSigned128 = .finite ⟨false, 2 ^ 52, 75, by decide⟩ ∧
      ∀ now, (Interval.range greatestBound .unbounded (some .numeric)).matchesAt
        (.float (.finite ⟨false, 2 ^ 52, 75, by decide⟩)) now = true := by
  have parsed : Interval.parse "(170141183460469231731687303715884105727, null)" =
      .ok (.range greatestBound .unbounded (some .numeric)) := by decide +kernel
  refine ⟨parsed, by decide +kernel, fun now => ?_⟩
  refine (matchesAt_number_iff parsed _ now).mpr ⟨_, rfl, ?_, ?_⟩
  · rintro limit hlimit
    cases hlimit
    refine .inl (EReal.coe_lt_coe_iff.mpr ?_)
    norm_num [Finite64.toRat]
  · rintro limit hlimit
    cases hlimit

end FieldRules
