import FieldRules.Number.Shortest
import Mathlib

/-!
# `Proofs.Number.Nearest` — rounding to the nearest number

Rounding works on whole numbers: a quotient is scaled until its whole part has the precision of the
format, and then cut. Read as rationals, the steps are short. `floorLog2` finds the power of two
below the quotient, `nearestEven` the nearest whole number, and the only case in which the mantissa
found is not that of the result is the carry at the top of a binade.

The reach of a number is what rounds to it. `Near` says so in units of the last place, and
`round_of_near` proves it: every quotient in the reach rounds to the number.

## Contents
- **`pow_div_pow`**: a quotient of powers with the exponents cut at nought is one power.
- **`nearestEven_eq`** and **`floorLog2_spec`**, the two steps.
- **`Near`**, with what it says about the binade of the quotient, and **`round_of_near`**.
- **`near_of_contains`**, the reach as rationals, and **`round_of_contains`**.
-/

namespace FieldRules.Number

/-! ## Powers -/

/-- One of the two exponents is nought. -/
theorem pow_div_pow (b : Nat) (k : Int) :
    ((Nat.pow b k.toNat : Nat) : ℚ) / (Nat.pow b (-k).toNat : Nat) = (b : ℚ) ^ k := by
  obtain ⟨n, rfl | rfl⟩ := k.eq_nat_or_neg
  · simp
  · simp [zpow_neg]

theorem two_zpow_pos (k : Int) : (0 : ℚ) < 2 ^ k :=
  zpow_pos (by norm_num) k

/-! ## The nearest whole number -/

/-- A quotient is its whole part and a rest below one. -/
theorem quotient_split (num : Nat) {den : Nat} (hden : 0 < den) :
    (num : ℚ) / den = (num / den : Nat) + (num % den : Nat) / den ∧
      (0 : ℚ) ≤ (num % den : Nat) / den ∧ ((num % den : Nat) : ℚ) / den < 1 := by
  have hden' : (0 : ℚ) < den := by exact_mod_cast hden
  have hsplit : (num : ℚ) = den * (num / den : Nat) + (num % den : Nat) := by
    exact_mod_cast (Nat.div_add_mod num den).symm
  refine ⟨?_, by positivity, ?_⟩
  · rw [div_eq_iff hden'.ne', add_mul, div_mul_cancel₀ _ hden'.ne']
    linarith
  · rw [div_lt_one hden']
    exact_mod_cast Nat.mod_lt num hden

/-- A rest is compared with the half by doubling it. -/
theorem rest_half {r den : Nat} (hden : 0 < den) :
    (2 * r < den → (r : ℚ) / den < 1 / 2) ∧ (den < 2 * r → 1 / 2 < (r : ℚ) / den) ∧
      (2 * r = den → (r : ℚ) / den = 1 / 2) := by
  have hden' : (0 : ℚ) < den := by exact_mod_cast hden
  refine ⟨fun h => ?_, fun h => ?_, fun h => ?_⟩
  · rw [div_lt_iff₀ hden']
    have : (2 * r : ℚ) < den := by exact_mod_cast h
    linarith
  · rw [lt_div_iff₀ hden']
    have : (den : ℚ) < 2 * r := by exact_mod_cast h
    linarith
  · rw [div_eq_iff hden'.ne']
    have : (2 * r : ℚ) = den := by exact_mod_cast h
    linarith

/-- A whole number less than one above another is not above it. -/
theorem le_of_lt_add_one {a b : Nat} (h : (a : ℚ) < b + 1) : a ≤ b := by
  have : a < b + 1 := by exact_mod_cast h
  omega

/-- A whole number within half a unit is the nearest one, an even one also at half a unit. -/
theorem nearestEven_eq {num den m : Nat} (hden : 0 < den)
    (lower : (m : ℚ) - 1 / 2 ≤ num / den) (upper : (num : ℚ) / den ≤ m + 1 / 2)
    (tie : (num : ℚ) / den = m - 1 / 2 ∨ (num : ℚ) / den = m + 1 / 2 → m % 2 = 0) :
    nearestEven num den = m := by
  obtain ⟨hquot, hrest, hrest'⟩ := quotient_split num hden
  unfold nearestEven
  generalize num / den = q at hquot
  generalize num % den = r at hquot hrest hrest'
  obtain ⟨hbelow, habove, hhalf⟩ := @rest_half r den hden
  rw [hquot] at lower upper tie
  -- the whole part is `m` or the number below it
  have hle : q ≤ m := le_of_lt_add_one (by linarith)
  have hge : m ≤ q + 1 := le_of_lt_add_one (by push_cast; linarith)
  dsimp only
  by_cases hlt : 2 * r < den
  · have hrest := hbelow hlt
    have : m ≤ q := le_of_lt_add_one (by linarith)
    rw [if_pos hlt]
    omega
  · rw [if_neg hlt]
    by_cases hgt : den < 2 * r
    · have hrest := habove hgt
      have : q + 1 ≤ m := le_of_lt_add_one (by push_cast; linarith)
      rw [if_pos hgt]
      omega
    · rw [if_neg hgt]
      rw [hhalf (by omega)] at tie
      -- both neighbours are equally near, and `m` is the even one of them
      rcases (by omega : m = q ∨ m = q + 1) with rfl | rfl
      · have heven := tie (.inr rfl)
        omega
      · have heven := tie (.inl (by push_cast; ring))
        omega

/-! ## The power of two below a quotient -/

theorem log2_bounds {n : Nat} (hn : 0 < n) :
    (2 : ℚ) ^ (n.log2 : Int) ≤ n ∧ (n : ℚ) < 2 ^ ((n.log2 : Int) + 1) := by
  constructor
  · rw [zpow_natCast]
    exact_mod_cast Nat.log2_self_le hn.ne'
  · rw [show (n.log2 : Int) + 1 = ((n.log2 + 1 : Nat) : Int) by push_cast; rfl, zpow_natCast]
    exact_mod_cast Nat.lt_log2_self

theorem floorLog2_spec {num den : Nat} (hnum : 0 < num) (hden : 0 < den) :
    (2 : ℚ) ^ floorLog2 num den ≤ num / den ∧ (num : ℚ) / den < 2 ^ (floorLog2 num den + 1) := by
  have hden' : (0 : ℚ) < den := by exact_mod_cast hden
  obtain ⟨hn, hn'⟩ := log2_bounds hnum
  obtain ⟨hd, hd'⟩ := log2_bounds hden
  unfold floorLog2
  generalize hk : (num.log2 : Int) - den.log2 = k
  -- the quotient lies within one binade of the difference of the logarithms
  have hbelow : (2 : ℚ) ^ (k - 1) ≤ num / den := by
    rw [le_div_iff₀ hden']
    calc (2 : ℚ) ^ (k - 1) * den ≤ 2 ^ (k - 1) * 2 ^ ((den.log2 : Int) + 1) := by gcongr
      _ = 2 ^ (num.log2 : Int) := by
          rw [← zpow_add₀ (by norm_num)]
          congr 1
          omega
      _ ≤ num := hn
  have habove : (num : ℚ) / den < 2 ^ (k + 1) := by
    rw [div_lt_iff₀ hden']
    calc (num : ℚ) < 2 ^ ((num.log2 : Int) + 1) := hn'
      _ = 2 ^ (k + 1) * 2 ^ (den.log2 : Int) := by
          rw [← zpow_add₀ (by norm_num)]
          congr 1
          omega
      _ ≤ 2 ^ (k + 1) * den := by gcongr
  have htest : den * Nat.pow 2 k.toNat ≤ num * Nat.pow 2 (-k).toNat ↔
      (2 : ℚ) ^ k ≤ num / den := by
    have hpow : (0 : ℚ) < (Nat.pow 2 (-k).toNat : Nat) := by
      exact_mod_cast Nat.pow_pos (by decide)
    have hcast : ((2 : Nat) : ℚ) ^ k = (2 : ℚ) ^ k := by norm_num
    rw [← hcast, ← pow_div_pow 2 k, div_le_div_iff₀ hpow hden', mul_comm den]
    norm_cast
  dsimp only
  by_cases h : den * Nat.pow 2 k.toNat ≤ num * Nat.pow 2 (-k).toNat
  · rw [if_pos h]
    exact ⟨htest.mp h, habove⟩
  · rw [if_neg h, sub_add_cancel]
    exact ⟨hbelow, lt_of_not_ge fun hge => h (htest.mpr hge)⟩

/-! ## The reach of a number -/

/-- A quotient rounds to `m · 2 ^ e`: it is at most half a unit of the last place away from it, and
not halfway unless the mantissa is even. At the foot of a binade, the unit below is half as large.
-/
structure Near (f : Format) (m : Nat) (e : Int) (q : ℚ) : Prop where
  lower : (m : ℚ) - 1 / 2 ≤ q / 2 ^ e
  upper : q / 2 ^ e ≤ m + 1 / 2
  foot : m = Nat.pow 2 (f.precision - 1) → e ≠ f.minExponent → (m : ℚ) - 1 / 4 ≤ q / 2 ^ e
  tie : q / 2 ^ e = m - 1 / 2 ∨ q / 2 ^ e = m + 1 / 2 → m % 2 = 0

/-- A quotient that is scaled by a power of two on one of its sides. -/
theorem scaled_quotient (num den : Nat) (e : Int) :
    ((num * Nat.pow 2 (-e).toNat : Nat) : ℚ) / (den * Nat.pow 2 e.toNat : Nat) =
      (num / den : ℚ) / 2 ^ e := by
  have hpow := pow_div_pow 2 e
  rw [Nat.cast_ofNat] at hpow
  rw [← hpow]
  push_cast
  rw [div_div_eq_mul_div, div_mul_eq_mul_div, div_div]

/-- The nearest whole number to a quotient that is scaled. -/
theorem nearestEven_scaled {num den m : Nat} (hden : 0 < den) (e : Int)
    (lower : (m : ℚ) - 1 / 2 ≤ (num / den : ℚ) / 2 ^ e)
    (upper : (num / den : ℚ) / 2 ^ e ≤ m + 1 / 2)
    (tie : (num / den : ℚ) / 2 ^ e = m - 1 / 2 ∨ (num / den : ℚ) / 2 ^ e = m + 1 / 2 →
      m % 2 = 0) :
    nearestEven (num * Nat.pow 2 (-e).toNat) (den * Nat.pow 2 e.toNat) = m := by
  rw [← scaled_quotient] at lower upper tie
  exact nearestEven_eq (Nat.mul_pos hden (Nat.pow_pos (by decide))) lower upper tie

/-- A quotient under the foot of a binade is nearest to the top of the binade below, counted in the
units there. -/
theorem nearestEven_carry {n num den : Nat} (hden : 0 < den) {e : Int}
    (hquarter : (2 : ℚ) ^ n - 1 / 4 ≤ (num / den : ℚ) / 2 ^ e)
    (hbelow : (num / den : ℚ) < 2 ^ (e + n)) :
    nearestEven (num * Nat.pow 2 (-(e - 1)).toNat) (den * Nat.pow 2 (e - 1).toNat) =
      2 ^ (n + 1) := by
  have hunder : (num / den : ℚ) / 2 ^ e < 2 ^ n := by
    rw [div_lt_iff₀ (two_zpow_pos e), ← zpow_natCast, ← zpow_add₀ (by norm_num), add_comm]
    exact hbelow
  have htwice : (num / den : ℚ) / 2 ^ (e - 1) = 2 * ((num / den : ℚ) / 2 ^ e) := by
    rw [zpow_sub_one₀ (by norm_num)]
    field_simp
  refine nearestEven_scaled hden (e - 1) ?_ ?_ fun _ => ?_
  · rw [htwice, Nat.cast_pow, pow_succ]
    push_cast
    linarith
  · rw [htwice, Nat.cast_pow, pow_succ]
    push_cast
    linarith
  · rw [pow_succ]
    omega

namespace Near

variable {f : Format} {m : Nat} {e : Int} {q : ℚ}

theorem pos (h : Near f m e q) (hm : 0 < m) : 0 < q := by
  have hm' : (1 : ℚ) ≤ m := by exact_mod_cast hm
  have hscaled : 0 < q / 2 ^ e := by linarith [h.lower]
  exact (div_pos_iff_of_pos_right (two_zpow_pos e)).mp hscaled

/-- What is near to a number is not above its binade by more than the rounding. -/
theorem exponent_le (h : Near f m e q) {n : Nat} (hlt : m < 2 ^ n) {l : Int}
    (hlog : (2 : ℚ) ^ l ≤ q) : l < e + n := by
  have hm : (m : ℚ) + 1 ≤ 2 ^ n := by exact_mod_cast hlt
  have hupper := (div_le_iff₀ (two_zpow_pos e)).mp h.upper
  have hpow : (2 : ℚ) ^ l < 2 ^ (e + n) := by
    rw [zpow_add₀ (by norm_num), zpow_natCast]
    nlinarith [two_zpow_pos e]
  exact (zpow_lt_zpow_iff_right₀ (by norm_num)).mp hpow

/-- What is near to a number with a full mantissa is at most one binade below it. -/
theorem le_exponent (h : Near f m e q) {n : Nat} (hfull : 2 ^ (n + 1) ≤ m) {l : Int}
    (hlog : q < (2 : ℚ) ^ (l + 1)) : e + n ≤ l := by
  have hm : (2 : ℚ) ^ n * 2 ≤ m := by exact_mod_cast hfull
  have hone : (1 : ℚ) ≤ 2 ^ n := one_le_pow₀ (by norm_num)
  have hlower := (le_div_iff₀ (two_zpow_pos e)).mp h.lower
  have hpow : (2 : ℚ) ^ (e + n) < 2 ^ (l + 1) := by
    refine lt_of_le_of_lt ?_ hlog
    rw [zpow_add₀ (by norm_num), zpow_natCast]
    nlinarith [two_zpow_pos e]
  have := (zpow_lt_zpow_iff_right₀ (by norm_num : (1 : ℚ) < 2)).mp hpow
  omega

/-- If it is below, the number is the foot of its binade. -/
theorem eq_foot (h : Near f m e q) {n : Nat} (hfull : 2 ^ n ≤ m)
    (hbelow : q < (2 : ℚ) ^ (e + n)) : m = 2 ^ n := by
  have hunder : q / 2 ^ e < 2 ^ n := by
    rw [div_lt_iff₀ (two_zpow_pos e), ← zpow_natCast, ← zpow_add₀ (by norm_num), add_comm]
    exact hbelow
  have hle : m ≤ 2 ^ n := le_of_lt_add_one (by push_cast; linarith [h.lower])
  exact le_antisymm hle hfull

end Near

/-- **What is near to a number rounds to it.** The power of two below the quotient gives the
exponent of the number, or the one below it. The latter happens only right under the foot of a
binade, and then the mantissa is carried. -/
theorem round_of_near {f : Format} (hp : 2 ≤ f.precision) {m : Nat} {e : Int} (hm : 0 < m)
    (hc : f.Canonical m e) {num den : Nat} (hden : 0 < den) (h : Near f m e (num / den)) :
    f.round num den = some (m, e) := by
  obtain ⟨hlt, hmin, hmax, hnormal⟩ := hc
  obtain ⟨p, hprecision⟩ : ∃ p, f.precision = p + 2 := ⟨f.precision - 2, by omega⟩
  have hone : p + 2 - 1 = p + 1 := rfl
  have hfoot := h.foot
  simp only [hprecision, Nat.pow_eq, hone] at hlt hnormal hfoot
  have hnum : 0 < num := by
    rcases Nat.eq_zero_or_pos num with rfl | hpos
    · simpa using h.pos hm
    · exact hpos
  obtain ⟨hlog, hlog'⟩ := floorLog2_spec hnum hden
  unfold Format.round
  rw [if_neg hnum.ne']
  simp only [hprecision, hone]
  generalize floorLog2 num den = l at hlog hlog'
  have hexp := h.exponent_le hlt hlog
  by_cases hsame : max f.minExponent (l - ((p + 1 : Nat) : Int)) = e
  · have hcarry : m ≠ Nat.pow 2 (p + 2) := by
      rw [Nat.pow_eq]
      omega
    rw [hsame, nearestEven_scaled hden e h.lower h.upper h.tie]
    simp only [if_neg hcarry, if_pos hmax]
  · -- the quotient is in the binade below, although it rounds to the foot of this one
    have hfull : 2 ^ (p + 1) ≤ m := hnormal.resolve_right (by omega)
    have hbelow := h.le_exponent hfull hlog'
    rw [show l + 1 = e + (p + 1 : Nat) by omega] at hlog'
    obtain rfl := h.eq_foot hfull hlog'
    have hquarter := hfoot rfl (by omega)
    rw [Nat.cast_pow, Nat.cast_ofNat] at hquarter
    rw [show max f.minExponent (l - ((p + 1 : Nat) : Int)) = e - 1 by omega,
      nearestEven_carry hden hquarter hlog']
    simp only [Nat.pow_eq, if_true, sub_add_cancel, if_pos hmax]

/-- A reach as rationals: the quotient lies between the ends, and on an end only where it is
closed. -/
theorem Reach.contains_iff (r : Reach) {num den : Nat} (hunit : 0 < r.unit) (hden : 0 < den) :
    r.contains num den = true ↔
      (r.low / r.unit : ℚ) ≤ num / den ∧ (num / den : ℚ) ≤ r.high / r.unit ∧
        ((num / den : ℚ) = r.low / r.unit ∨ (num / den : ℚ) = r.high / r.unit →
          r.closed = true) := by
  have hunit' : (0 : ℚ) < r.unit := by exact_mod_cast hunit
  have hden' : (0 : ℚ) < den := by exact_mod_cast hden
  have hlow : (r.low / r.unit : ℚ) ≤ num / den ↔ r.low * den ≤ num * r.unit := by
    rw [div_le_div_iff₀ hunit' hden']
    norm_cast
  have hhigh : (num / den : ℚ) ≤ r.high / r.unit ↔ num * r.unit ≤ r.high * den := by
    rw [div_le_div_iff₀ hden' hunit']
    norm_cast
  have hlow' : (num / den : ℚ) = r.low / r.unit ↔ num * r.unit = r.low * den := by
    rw [div_eq_div_iff hden'.ne' hunit'.ne']
    norm_cast
  have hhigh' : (num / den : ℚ) = r.high / r.unit ↔ num * r.unit = r.high * den := by
    rw [div_eq_div_iff hden'.ne' hunit'.ne']
    norm_cast
  rw [hlow, hhigh, hlow', hhigh', Reach.contains]
  cases r.closed with
  | true => simp
  | false =>
      simp only [Bool.false_eq_true, if_false, Bool.and_eq_true, decide_eq_true_eq, imp_false,
        not_or]
      omega

/-- The ends of a reach are given in quarters of the last place. -/
theorem quarters (c : Nat) (e : Int) :
    ((c * Nat.pow 2 (e - 2).toNat : Nat) : ℚ) / (Nat.pow 2 (2 - e).toNat : Nat) =
      c / 4 * 2 ^ e := by
  have hpow := pow_div_pow 2 (e - 2)
  rw [neg_sub, Nat.cast_ofNat, zpow_sub₀ (by norm_num)] at hpow
  rw [Nat.cast_mul, mul_div_assoc, hpow]
  norm_num
  ring

namespace Reach

theorem high_div_unit (f : Format) (m : Nat) (e : Int) :
    ((of f m e).high : ℚ) / (of f m e).unit = (m + 1 / 2) * 2 ^ e := by
  refine (quarters (4 * m + 2) e).trans ?_
  push_cast
  ring

/-- The lower end, at the foot of a binade. -/
theorem low_div_unit_of_foot {f : Format} {m : Nat} {e : Int} (hm : 0 < m)
    (h : m = Nat.pow 2 (f.precision - 1) ∧ e ≠ f.minExponent) :
    ((of f m e).low : ℚ) / (of f m e).unit = (m - 1 / 4) * 2 ^ e := by
  have hlow : (of f m e).low = (4 * m - 1) * Nat.pow 2 (e - 2).toNat := by
    simp only [of, if_pos h]
  rw [hlow]
  refine (quarters (4 * m - 1) e).trans ?_
  rw [Nat.cast_sub (by omega)]
  push_cast
  ring

/-- The lower end, elsewhere. -/
theorem low_div_unit {f : Format} {m : Nat} {e : Int} (hm : 0 < m)
    (h : ¬(m = Nat.pow 2 (f.precision - 1) ∧ e ≠ f.minExponent)) :
    ((of f m e).low : ℚ) / (of f m e).unit = (m - 1 / 2) * 2 ^ e := by
  have hlow : (of f m e).low = (4 * m - 2) * Nat.pow 2 (e - 2).toNat := by
    simp only [of, if_neg h]
  rw [hlow]
  refine (quarters (4 * m - 2) e).trans ?_
  rw [Nat.cast_sub (by omega)]
  push_cast
  ring

end Reach

/-- What the reach of a number contains is near to it. -/
theorem near_of_contains {f : Format} {m : Nat} {e : Int} (hm : 0 < m) {num den : Nat}
    (hden : 0 < den) (h : (Reach.of f m e).contains num den = true) :
    Near f m e (num / den) := by
  have hunit : 0 < (Reach.of f m e).unit := Nat.pow_pos (by decide)
  obtain ⟨hlow, hhigh, hends⟩ := ((Reach.of f m e).contains_iff hunit hden).mp h
  have he := two_zpow_pos e
  have hclosed : (Reach.of f m e).closed = true → m % 2 = 0 := by simp [Reach.of]
  rw [Reach.high_div_unit] at hhigh hends
  have upper := (div_le_iff₀ he).mpr hhigh
  by_cases hfoot : m = Nat.pow 2 (f.precision - 1) ∧ e ≠ f.minExponent
  · rw [Reach.low_div_unit_of_foot hm hfoot, ← le_div_iff₀ he] at hlow
    refine ⟨by linarith, upper, fun _ _ => hlow, ?_⟩
    rintro (htie | htie)
    · linarith
    · exact hclosed (hends (.inr ((div_eq_iff he.ne').mp htie)))
  · rw [Reach.low_div_unit hm hfoot] at hlow hends
    refine ⟨(le_div_iff₀ he).mpr hlow, upper, fun hm hexp => absurd ⟨hm, hexp⟩ hfoot, ?_⟩
    rintro (htie | htie)
    · exact hclosed (hends (.inl ((div_eq_iff he.ne').mp htie)))
    · exact hclosed (hends (.inr ((div_eq_iff he.ne').mp htie)))

/-- **What the reach of a number contains rounds to it.** -/
theorem round_of_contains {f : Format} (hp : 2 ≤ f.precision) {m : Nat} {e : Int} (hm : 0 < m)
    (hc : f.Canonical m e) {num den : Nat} (hden : 0 < den)
    (h : (Reach.of f m e).contains num den = true) : f.round num den = some (m, e) :=
  round_of_near hp hm hc hden (near_of_contains hm hden h)

end FieldRules.Number
