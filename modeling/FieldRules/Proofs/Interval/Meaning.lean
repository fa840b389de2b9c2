import FieldRules.Proofs.Interval.Exact
import FieldRules.Proofs.Interval.Printed

/-!
# `Proofs.Interval.Meaning` — whether a printed interval keeps its meaning

A floating-point bound is printed with the shortest decimal that rounds to it. With a point in it,
or beyond 128 bits, that text is read as the same number. Without a point it is read as a whole
number, and nothing is rounded then: the shortest decimal is taken at its word. Below `2 ^ 53` it
is the number itself. Above, noughts may stand in for the last digits, and the bound has moved.

So a range keeps its meaning if no bound moves, and this is the best condition on its bounds alone:
where one of them moves, the bound itself lies on different sides of the two ranges, at least under
one choice of brackets.

## Contents
- **`Finite64.Kept`** and **`Bound.Kept`**, with **`kept_of_exponent_nonpos`**.
- **`compare?_congr`**: literals that stand for one number compare alike.
- **`Interval.ReadsBack`** and **`readsBack_iff`**.
- **`readsBack_of_kept`** and **`kept_of_readsBack`**, put together in
  **`printed_range_keeps_meaning`**.
- **`half_reads_back`**, a range that is kept, and **`power_of_two_lost`**, one that loses its own
  bound.
-/

namespace FieldRules

open Calendar Number

/-! ## Bounds that do not move -/

/-- If the text of the number is read as a whole number, then as the number itself. -/
def Number.Finite64.Kept (x : Finite64) : Prop :=
  ∀ n, readBetween? leastSigned128 greatestSigned128 x.chars = some n → x.compareInt n = .eq

/-- A bound that is a floating-point number is read as the same number again. -/
def Bound.Kept : Bound → Prop
  | .literal (.float (.finite x)) _ => x.Kept
  | _ => True

/-- **Whole numbers below `2 ^ 53` are printed exactly:** where the last place is at most one, no
other whole number rounds to the number. -/
theorem Number.Finite64.kept_of_exponent_nonpos {x : Finite64} (h : x.exponent ≤ 0) : x.Kept := by
  intro n hn
  obtain ⟨c, hc, hreach⟩ := readInt?_chars (Option.filter_eq_some_iff.mp hn).1
  have hmagnitude : (x.mantissa : ℚ) * 2 ^ x.exponent = c := by
    rcases hreach with ⟨hzero, rfl⟩ | ⟨hm, hreach⟩
    · simp [hzero]
    · have hnear := near_of_contains hm Nat.one_pos hreach
      obtain ⟨p, hp⟩ := Int.eq_ofNat_of_zero_le (Int.neg_nonneg.mpr h)
      have hexp : (2 : ℚ) ^ x.exponent = (2 ^ p)⁻¹ := by
        rw [show x.exponent = -(p : Int) by omega, zpow_neg, zpow_natCast]
      have hpow : (0 : ℚ) < 2 ^ p := by positivity
      have hquot : ((c : ℚ) / (1 : Nat)) / 2 ^ x.exponent = (c * 2 ^ p : Nat) := by
        rw [hexp]
        push_cast
        field_simp
      have hlower := hnear.lower
      have hupper := hnear.upper
      rw [hquot] at hlower hupper
      have hle : x.mantissa < c * 2 ^ p + 1 := by
        have : (x.mantissa : ℚ) < (c * 2 ^ p : Nat) + 1 := by linarith
        exact_mod_cast this
      have hge : c * 2 ^ p < x.mantissa + 1 := by
        have : ((c * 2 ^ p : Nat) : ℚ) < x.mantissa + 1 := by linarith
        exact_mod_cast this
      have heq : x.mantissa = c * 2 ^ p := by omega
      rw [hexp, heq]
      push_cast
      field_simp
  rw [x.compareInt_eq, cmp_eq_eq_iff, hc, Finite64.toRat]
  cases x.negative with
  | true => simp [hmagnitude]
  | false => simp [hmagnitude]

/-! ## Literals at the same place -/

/-- Scalars that stand for the same number compare alike with everything. -/
theorem Scalar.compare?_congr {t t' : Scalar} {b : EReal} (ht : t.number? = some b)
    (ht' : t'.number? = some b) (fits : t.Fits) (fits' : t'.Fits) {s : Scalar} (hs : s.Fits) :
    s.compare? t = s.compare? t' := by
  cases hnumber : s.number? with
  | some a => rw [compare?_of_number? hnumber ht hs fits, compare?_of_number? hnumber ht' hs fits']
  | none => rw [compare?_of_number?_none hnumber ht, compare?_of_number?_none hnumber ht']

/-- What the text of a number is read as has at most 128 bits if it is whole. -/
theorem Scalar.Fits.reread {s : Scalar} (h : s.Fits) : s.reread.Fits := by
  cases s with
  | int n => exact h
  | time t => trivial
  | float x =>
      unfold Scalar.reread
      dsimp only
      split
      · next n hread =>
          have hrange := (Option.filter_eq_some_iff.mp hread).2
          show leastSigned128 ≤ n ∧ n ≤ greatestSigned128
          simpa using hrange
      · trivial

/-- A kept bound is read as a literal of the same number. -/
theorem Number.Finite64.Kept.number?_reread {x : Finite64} (h : x.Kept) :
    (Scalar.reread (.float (.finite x))).number? = some (x.toRat : ℝ) := by
  have hchars : (Binary64.finite x).chars = x.chars := rfl
  unfold Scalar.reread
  dsimp only
  rw [hchars]
  cases hread : readBetween? leastSigned128 greatestSigned128 x.chars with
  | none => rfl
  | some n =>
      have heq := h n hread
      rw [x.compareInt_eq, cmp_eq_eq_iff] at heq
      show some ((n : ℝ) : EReal) = some ((x.toRat : ℝ) : EReal)
      rw [heq, Rat.cast_intCast]

/-! ## Ranges that are read back -/

/-- The text of the interval is an expression again, of an interval with the same values. -/
def Interval.ReadsBack (i : Interval) : Prop :=
  ∃ j, Interval.parse i.text = .ok j ∧ ∀ v now, j.matchesAt v now = i.matchesAt v now

theorem readsBack_iff {lower upper : Bound} (hlower : lower.Numeric) (hupper : upper.Numeric)
    {domain : Option Domain} (hdomain : domain = Interval.domainOf? lower upper) :
    (Interval.range lower upper domain).ReadsBack ↔
      Interval.Joined lower.reread upper.reread ∧
        ∀ v now, (Interval.range lower.reread upper.reread domain).matchesAt v now =
          (Interval.range lower upper domain).matchesAt v now := by
  unfold Interval.ReadsBack
  simp only [Interval.parse_text_eq_ok_iff hlower.1 hupper.1, ← hdomain]
  constructor
  · rintro ⟨j, ⟨hjoined, rfl⟩, hsame⟩
    exact ⟨hjoined, hsame⟩
  · rintro ⟨hjoined, hsame⟩
    exact ⟨_, ⟨hjoined, rfl⟩, hsame⟩

/-- A kept literal of a range of numbers stands for the same number again. -/
theorem Bound.Kept.number?_reread {value : Scalar} {inclusive : Bool}
    (hb : (Bound.literal value inclusive).Numeric) (h : (Bound.literal value inclusive).Kept) :
    value.reread.number? = value.number? := by
  rcases hb.cases with heq | ⟨n, _, heq, -, -⟩ | ⟨x, _, heq⟩
  · cases heq
  · cases heq
    rfl
  · cases heq
    exact Finite64.Kept.number?_reread h

/-- A kept bound admits what it admitted. -/
theorem Bound.Kept.admits_reread {b : Bound} (hb : b.Numeric) (h : b.Kept) (side : Side)
    (now : Instant) {s : Scalar} (hs : s.Fits) :
    b.reread.admits side now s = b.admits side now s := by
  cases b with
  | unbounded => rfl
  | now inclusive => rfl
  | literal value inclusive =>
      obtain ⟨a, hvalue⟩ := hb.number?
      have hreread := (h.number?_reread hb).trans hvalue
      have hfits := hb.1.fits
      have hcompare := Scalar.compare?_congr hreread hvalue hfits.reread hfits hs
      show Bound.admits (.literal value.reread inclusive) side now s = _
      unfold Bound.admits
      simp only [Bound.limit?, hcompare, Bound.inclusive]

/-- Kept bounds stand in the same order. -/
theorem reversed?_reread {lower upper : Bound} (hlower : lower.Numeric) (hupper : upper.Numeric)
    (keptLower : lower.Kept) (keptUpper : upper.Kept)
    (h : Interval.reversed? lower upper = none) :
    Interval.reversed? lower.reread upper.reread = none := by
  cases lower with
  | unbounded => rfl
  | now inclusive => rfl
  | literal lo p =>
      cases upper with
      | unbounded => rfl
      | now inclusive => rfl
      | literal hi q =>
          obtain ⟨a, hlo⟩ := hlower.number?
          obtain ⟨b, hhi⟩ := hupper.number?
          have hlo' := (keptLower.number?_reread hlower).trans hlo
          have hhi' := (keptUpper.number?_reread hupper).trans hhi
          have hfits := hlower.1.fits
          have hfits' := hupper.1.fits
          have hsame : lo.reread.compare? hi.reread = lo.compare? hi := by
            rw [Scalar.compare?_of_number? hlo' hhi' hfits.reread hfits'.reread,
              Scalar.compare?_of_number? hlo hhi hfits hfits']
          rw [reversed?_literal_iff] at h
          show Interval.reversed? (.literal lo.reread p) (.literal hi.reread q) = none
          rw [reversed?_literal_iff, hsame]
          exact h

/-- **A range whose bounds are kept keeps its meaning.** -/
theorem readsBack_of_kept {lower upper : Bound} (hlower : lower.Numeric) (hupper : upper.Numeric)
    (joined : Interval.Joined lower upper) {domain : Option Domain}
    (hdomain : domain = Interval.domainOf? lower upper) (keptLower : lower.Kept)
    (keptUpper : upper.Kept) : (Interval.range lower upper domain).ReadsBack := by
  refine (readsBack_iff hlower hupper hdomain).mpr ⟨⟨?_, ?_⟩, ?_⟩
  · rw [Bound.domain?_reread, Bound.domain?_reread]
    exact joined.domains
  · exact reversed?_reread hlower hupper keptLower keptUpper joined.ordered
  · intro v now
    simp only [Interval.matchesAt]
    cases hscalar : Interval.scalarFor? domain v with
    | none => rfl
    | some s =>
        have hfits := fits_of_scalarFor? hscalar
        rw [Option.any_some, Option.any_some, keptLower.admits_reread hlower .lower now hfits,
          keptUpper.admits_reread hupper .upper now hfits]

/-! ## Ranges that lose a bound -/

/-- A number in a range of numbers. -/
theorem matchesAt_float (lower upper : Bound) (x : Finite64) (now : Instant) :
    (Interval.range lower upper (some .numeric)).matchesAt (.float (.finite x)) now =
      (lower.admits .lower now (.float (.finite x)) &&
        upper.admits .upper now (.float (.finite x))) := by
  simp [Interval.matchesAt, Interval.scalarFor?, Interval.numeric?]

/-- A bound admits itself where its bracket includes it. -/
theorem admits_self (x : Finite64) (inclusive : Bool) (side : Side) (now : Instant) :
    (Bound.literal (.float (.finite x)) inclusive).admits side now (.float (.finite x)) =
      inclusive := by
  have hself : (Scalar.float (.finite x)).compare? (.float (.finite x)) = some .eq := by
    have hnumber : (Scalar.float (.finite x)).number? = some (x.toRat : ℝ) := rfl
    rw [Scalar.compare?_of_number? hnumber hnumber trivial trivial, cmp_self_eq_eq]
  simp only [Bound.admits, Bound.limit?, hself, Bound.inclusive]

/-- The lower bound of a range lies within its upper side. -/
theorem Interval.Joined.admits_lower {value : Scalar} {inclusive : Bool} {upper : Bound}
    (hlower : (Bound.literal value inclusive).Numeric) (hupper : upper.Numeric)
    (h : Interval.Joined (.literal value inclusive) upper) (now : Instant) :
    (upper.bracketed true).admits .upper now value = true := by
  cases upper with
  | unbounded => rfl
  | now p => exact absurd rfl hupper.2
  | literal limit p =>
      obtain ⟨a, hvalue⟩ := hlower.number?
      obtain ⟨b, hlimit⟩ := hupper.number?
      have hle := reversed?_literal_iff.mp h.ordered
      have hcompare := Scalar.compare?_of_number? hvalue hlimit hlower.1.fits hupper.1.fits
      rw [hcompare] at hle
      show (Bound.literal limit true).admits .upper now value = true
      simp only [Bound.admits, Bound.limit?, hcompare]
      cases hcmp : cmp a b with
      | lt => rfl
      | eq => rfl
      | gt => exact absurd (congrArg some hcmp) hle

/-- The upper bound of a range lies within its lower side. -/
theorem Interval.Joined.admits_upper {value : Scalar} {inclusive : Bool} {lower : Bound}
    (hlower : lower.Numeric) (hupper : (Bound.literal value inclusive).Numeric)
    (h : Interval.Joined lower (.literal value inclusive)) (now : Instant) :
    (lower.bracketed true).admits .lower now value = true := by
  cases lower with
  | unbounded => rfl
  | now p => exact absurd rfl hlower.2
  | literal limit p =>
      obtain ⟨a, hlimit⟩ := hlower.number?
      obtain ⟨b, hvalue⟩ := hupper.number?
      have hle := reversed?_literal_iff.mp h.ordered
      rw [Scalar.compare?_of_number? hlimit hvalue hlower.1.fits hupper.1.fits, ← cmp_swap] at hle
      have hcompare := Scalar.compare?_of_number? hvalue hlimit hupper.1.fits hlower.1.fits
      show (Bound.literal limit true).admits .lower now value = true
      simp only [Bound.admits, Bound.limit?, hcompare]
      cases hcmp : cmp b a with
      | lt => exact absurd (congrArg (some ∘ Ordering.swap) hcmp) hle
      | eq => rfl
      | gt => rfl

/-- Where the number is inside of the bound that is read again with one bracket and outside of it
with the other one, it is that bound. -/
theorem kept_of_edge {x : Finite64} {side : Side} {now : Instant}
    (inside : (Bound.literal (.float (.finite x)) true).reread.admits side now
      (.float (.finite x)) = true)
    (outside : (Bound.literal (.float (.finite x)) false).reread.admits side now
      (.float (.finite x)) = false) : x.Kept := by
  intro n hread
  have hreread : Scalar.reread (.float (.finite x)) = .int n := by
    unfold Scalar.reread
    dsimp only
    rw [show (Binary64.finite x).chars = x.chars from rfl, hread]
  have hrange : leastSigned128 ≤ n ∧ n ≤ greatestSigned128 := by
    simpa using (Option.filter_eq_some_iff.mp hread).2
  have hcompare : (Scalar.float (.finite x)).compare? (.int n) = some (x.compareInt n) := by
    rw [x.compareInt_eq, ← x.compareByFloor_eq hrange.1 hrange.2]
    rfl
  simp only [Bound.reread, hreread, Bound.admits, Bound.limit?, hcompare, Bound.inclusive]
    at inside outside
  cases hcmp : x.compareInt n with
  | eq => rfl
  | lt =>
      rw [hcmp] at inside outside
      exact absurd inside (by rw [outside]; exact Bool.false_ne_true)
  | gt =>
      rw [hcmp] at inside outside
      exact absurd inside (by rw [outside]; exact Bool.false_ne_true)

theorem Bound.Kept.bracketed {b : Bound} (h : b.Kept) (inclusive : Bool) :
    (b.bracketed inclusive).Kept := by
  cases b with
  | unbounded => trivial
  | now p => trivial
  | literal value p =>
      cases value with
      | int n => trivial
      | time t => trivial
      | float x => cases x <;> exact h

/-- Brackets have no part in whether two bounds belong together. -/
theorem Interval.Joined.bracketed {lower upper : Bound} (h : Interval.Joined lower upper)
    (p q : Bool) : Interval.Joined (lower.bracketed p) (upper.bracketed q) := by
  refine ⟨by simpa using h.domains, ?_⟩
  have hordered := h.ordered
  cases lower with
  | unbounded => rfl
  | now i => rfl
  | literal lo i =>
      cases upper with
      | unbounded => rfl
      | now j => rfl
      | literal hi j => exact reversed?_literal_iff.mpr (reversed?_literal_iff.mp hordered)

/-- Next to a floating-point bound there is no bound of time. -/
theorem Interval.Joined.numeric_of_float {lower upper : Bound} (h : Interval.Joined lower upper)
    (readableLower : lower.Readable) (readableUpper : upper.Readable)
    (float : lower.IsFloat ∨ upper.IsFloat) : lower.Numeric ∧ upper.Numeric := by
  have hdomain {b : Bound} (hb : b.IsFloat) : b.domain? = some .numeric := by
    cases b with
    | unbounded => cases hb
    | now i => cases hb
    | literal value i =>
        cases value with
        | float x => rfl
        | int n => cases hb
        | time t => cases hb
  have hrange {b : Bound} (hmem : b ∈ [lower, upper]) (hb : b.IsFloat) :
      Interval.domainOf? lower upper = some .numeric := by
    have hopen : b ≠ .unbounded := by
      rintro rfl
      cases hb
    rw [← h.domain?_eq hmem hopen, hdomain hb]
  have hnumeric : Interval.domainOf? lower upper = some .numeric :=
    float.elim (hrange (by simp)) (hrange (by simp))
  obtain ⟨hlower, hupper⟩ := h.domain?_ne hnumeric (show Domain.numeric ≠ .temporal by decide)
  exact ⟨⟨readableLower, hlower⟩, ⟨readableUpper, hupper⟩⟩

/-- A range with a floating-point bound is one of numbers. -/
theorem domainOf?_of_float {lower upper : Bound} (hlower : lower.Numeric)
    (h : lower.domain? = some .numeric ∨ upper.domain? = some .numeric) :
    Interval.domainOf? lower upper = some .numeric := by
  unfold Interval.domainOf?
  cases hd : lower.domain? with
  | none =>
      rw [hd] at h
      exact h.resolve_left (by simp)
  | some d =>
      cases d with
      | numeric => rfl
      | temporal => exact absurd hd hlower.2

/-- **A range that keeps its meaning with all brackets has kept its bounds.** A bound itself is
inside with one bracket and outside with the other one, before and after. -/
theorem kept_of_readsBack {lower upper : Bound} (hlower : lower.Numeric) (hupper : upper.Numeric)
    (joined : Interval.Joined lower upper) {domain : Option Domain}
    (hdomain : domain = Interval.domainOf? lower upper)
    (h : ∀ p q, (Interval.range (lower.bracketed p) (upper.bracketed q) domain).ReadsBack) :
    lower.Kept ∧ upper.Kept := by
  have now : Instant := ⟨0, 0, by decide⟩
  -- the sides of a range and of the range that is read, at a number
  have sides (hfloat : lower.domain? = some .numeric ∨ upper.domain? = some .numeric)
      (x : Finite64) (p q : Bool) :
      ((lower.bracketed p).reread.admits .lower now (.float (.finite x)) &&
          (upper.bracketed q).reread.admits .upper now (.float (.finite x))) =
        ((lower.bracketed p).admits .lower now (.float (.finite x)) &&
          (upper.bracketed q).admits .upper now (.float (.finite x))) := by
    have hbracketed := hdomain.trans (Bound.domainOf?_bracketed lower upper p q).symm
    have hsame := ((readsBack_iff (hlower.bracketed p) (hupper.bracketed q) hbracketed).mp
      (h p q)).2 (.float (.finite x)) now
    rwa [hdomain.trans (domainOf?_of_float hlower hfloat), matchesAt_float, matchesAt_float]
      at hsame
  constructor
  · rcases hlower.cases with rfl | ⟨n, inclusive, rfl, -, -⟩ | ⟨x, inclusive, rfl⟩
    · trivial
    · trivial
    · have hother := joined.admits_lower hlower hupper now
      have hclosed := sides (.inl rfl) x true true
      have hopen := sides (.inl rfl) x false true
      simp only [Bound.bracketed] at hclosed hopen hother
      rw [admits_self, hother, Bool.and_true, Bool.and_eq_true] at hclosed
      rw [admits_self, hother, hclosed.2, Bool.and_true, Bool.and_true] at hopen
      exact kept_of_edge hclosed.1 hopen
  · rcases hupper.cases with rfl | ⟨n, inclusive, rfl, -, -⟩ | ⟨x, inclusive, rfl⟩
    · trivial
    · trivial
    · have hother := joined.admits_upper hlower hupper now
      have hclosed := sides (.inr rfl) x true true
      have hopen := sides (.inr rfl) x true false
      simp only [Bound.bracketed] at hclosed hopen hother
      rw [admits_self, hother, Bool.and_true, Bool.and_eq_true] at hclosed
      rw [admits_self, hother, hclosed.1, Bool.true_and, Bool.true_and] at hopen
      exact kept_of_edge hclosed.2 hopen

/-! ## Printed ranges -/

/-- **Printed ranges with a floating-point bound.** If its bounds are kept, the text of a parsed
range is an expression again, with the same values at every instant. No weaker condition on the
bounds does for all brackets. -/
theorem printed_range_keeps_meaning {expression : String} {lower upper : Bound}
    {domain : Option Domain} (parsed : Interval.parse expression = .ok (.range lower upper domain))
    (float : lower.IsFloat ∨ upper.IsFloat) :
    (lower.Kept → upper.Kept → (Interval.range lower upper domain).ReadsBack) ∧
    ((∀ p q, (Interval.range (lower.bracketed p) (upper.bracketed q) domain).ReadsBack) ↔
      lower.Kept ∧ upper.Kept) := by
  obtain ⟨readableLower, readableUpper, joined, hdomain⟩ := Interval.joined_of_parse parsed
  obtain ⟨hlower, hupper⟩ := joined.numeric_of_float readableLower readableUpper float
  refine ⟨readsBack_of_kept hlower hupper joined hdomain,
    kept_of_readsBack hlower hupper joined hdomain, ?_⟩
  rintro ⟨keptLower, keptUpper⟩ p q
  have hbracketed := hdomain.trans (Bound.domainOf?_bracketed lower upper p q).symm
  exact readsBack_of_kept (hlower.bracketed p) (hupper.bracketed q) (joined.bracketed p q)
    hbracketed (keptLower.bracketed p) (keptUpper.bracketed q)

/-- Between two and two and a half, both with a last place below one. -/
def half : Interval :=
  .range (.literal (.float (.finite ⟨false, 4503599627370496, -51, by decide⟩)) true)
    (.literal (.float (.finite ⟨false, 5629499534213120, -51, by decide⟩)) false) (some .numeric)

/-- The lower bound is printed without a point, and is still the same number. -/
theorem half_reads_back :
    Interval.parse "[2.0, 2.5)" = .ok half ∧ half.text = "[2, 2.5)" ∧ half.ReadsBack := by
  have parsed : Interval.parse "[2.0, 2.5)" = .ok half := by decide +kernel
  refine ⟨parsed, by decide +kernel, ?_⟩
  exact (printed_range_keeps_meaning parsed (.inl trivial)).1
    (Finite64.kept_of_exponent_nonpos (by decide))
    (Finite64.kept_of_exponent_nonpos (by decide))

-- Printed, the lower bound is another number, above the upper bound, and the text is refused.
example :
    ((Interval.parse "[1e23, 99999999999999991611392]").map Interval.text).toOption =
        some "[100000000000000000000000, 99999999999999991611392]" ∧
      (Interval.parse "[100000000000000000000000, 99999999999999991611392]").isOk = false := by
  decide +kernel

/-! ## A power of two as a bound -/

/-- The numbers from `2 ^ 60` on. -/
def fromPower : Interval :=
  .range (.literal (.float (.finite ⟨false, 4503599627370496, 8, by decide⟩)) true) .unbounded
    (some .numeric)

/-- What the text of these numbers is read as. -/
def fromAbove : Interval :=
  .range (.literal (.int 1152921504606847000) true) .unbounded (some .numeric)

/-- **A range can lose its own bound.** The shortest decimal for `2 ^ 60` ends in noughts. Read as a
whole number it lies above, and the bound itself is not in the range any more. -/
theorem power_of_two_lost :
    Interval.parse "[1152921504606846976.0, null)" = .ok fromPower ∧
      fromPower.text = "[1152921504606847000, null)" ∧
      Interval.parse "[1152921504606847000, null)" = .ok fromAbove ∧
      (∀ now, fromPower.matchesAt (.int 1152921504606846976) now = true ∧
        fromAbove.matchesAt (.int 1152921504606846976) now = false) ∧
      ¬fromPower.ReadsBack := by
  have htext : fromPower.text = "[1152921504606847000, null)" := by decide +kernel
  have hread : Interval.parse "[1152921504606847000, null)" = .ok fromAbove := by decide +kernel
  have hlost (now : Instant) : fromPower.matchesAt (.int 1152921504606846976) now = true ∧
      fromAbove.matchesAt (.int 1152921504606846976) now = false := ⟨rfl, rfl⟩
  refine ⟨by decide +kernel, htext, hread, hlost, ?_⟩
  rintro ⟨j, hj, hsame⟩
  rw [htext, hread] at hj
  cases hj
  obtain ⟨hin, hout⟩ := hlost ⟨0, 0, by decide⟩
  rw [← hsame, hout] at hin
  cases hin

end FieldRules
