import FieldRules.Number.Binary
import Mathlib

/-!
# `Proofs.Number.Order` — finite numbers as rationals

Finite numbers are compared by scaling both to whole numbers. Read as rationals, that is the order
of the rationals, with both noughts in one place.

A whole number is never rounded to be compared. The floor of the number is compared instead, which
is whole itself. Unless the two are equal, the number lies on the same side as its floor, because it
is less than one above it; and where they are equal, the number is above exactly if it is not whole.

## Contents
- **`Finite64.toRat`** and **`scaled_eq`**.
- **`compare_eq`** and **`compareInt_eq`**: comparison is that of the rationals.
- **`floor_bounds`** and **`isWhole_iff`**, what the floor is, and **`compareByFloor_eq`**.
- **`eq_of_toRat_eq`**: the canonical form leaves no choice but the sign of nought.
-/

namespace FieldRules.Number.Finite64

/-- The rational that a finite number stands for. -/
def toRat (x : Finite64) : ℚ :=
  (if x.negative then -1 else 1) * x.mantissa * 2 ^ x.exponent

/-- Scaled far enough, a number is whole. -/
theorem scaled_eq (x : Finite64) {shift : Nat} (h : 0 ≤ x.exponent + shift) :
    (x.scaled shift : ℚ) = x.toRat * 2 ^ shift := by
  have hpow : (2 : ℚ) ^ (x.exponent + shift).toNat = 2 ^ x.exponent * 2 ^ shift := by
    rw [← zpow_natCast, Int.toNat_of_nonneg h, zpow_add₀ (by norm_num), zpow_natCast]
  unfold scaled toRat
  dsimp only
  cases x.negative with
  | true =>
      simp only [if_true, Nat.pow_eq]
      push_cast
      rw [hpow]
      ring
  | false =>
      simp only [Bool.false_eq_true, if_false, Nat.pow_eq]
      push_cast
      rw [hpow]
      ring

theorem cmp_intCast (a b : Int) : cmp (a : ℚ) (b : ℚ) = Ord.compare a b := by
  rw [← cmp_eq_compare]
  exact Int.cast_strictMono.cmp_map_eq a b

/-- **Two finite numbers are compared as rationals.** -/
theorem compare_eq (x y : Finite64) : x.compare y = cmp x.toRat y.toRat := by
  unfold compare
  dsimp only
  rw [← cmp_intCast, x.scaled_eq (by omega), y.scaled_eq (by omega)]
  exact cmp_mul_pos_right (by positivity) _ _

/-- **A finite number is compared with a whole one as rationals are.** -/
theorem compareInt_eq (x : Finite64) (n : Int) : x.compareInt n = cmp x.toRat n := by
  unfold compareInt
  dsimp only
  rw [← cmp_intCast, x.scaled_eq (by omega), Int.cast_mul, Nat.pow_eq]
  push_cast
  exact cmp_mul_pos_right (by positivity) _ _

/-! ## By way of the floor -/

theorem scale_pos (x : Finite64) : (0 : ℚ) < (Nat.pow 2 (-x.exponent).toNat : Nat) := by
  exact_mod_cast Nat.pow_pos (by decide)

/-- A number is what it is when scaled, by the scale. -/
theorem toRat_eq_div (x : Finite64) :
    x.toRat = x.scaled (-x.exponent).toNat / (Nat.pow 2 (-x.exponent).toNat : Nat) := by
  rw [eq_div_iff x.scale_pos.ne', x.scaled_eq (by omega)]
  push_cast [Nat.pow_eq]
  rfl

/-- A number lies at its floor or less than one above it. -/
theorem floor_bounds (x : Finite64) : (x.floor : ℚ) ≤ x.toRat ∧ x.toRat < x.floor + 1 := by
  have hfloor : x.floor = ⌊x.toRat⌋ := by
    rw [toRat_eq_div, Rat.floor_intCast_div_natCast]
    rfl
  rw [hfloor]
  exact ⟨Int.floor_le _, Int.lt_floor_add_one _⟩

/-- A number is whole if it is its floor. -/
theorem isWhole_iff (x : Finite64) : x.isWhole = true ↔ x.toRat = x.floor := by
  have hsplit := Int.emod_add_mul_ediv (x.scaled (-x.exponent).toNat)
    (Nat.pow 2 (-x.exponent).toNat : Nat)
  have hdivides : x.isWhole = true ↔
      x.scaled (-x.exponent).toNat = x.floor * (Nat.pow 2 (-x.exponent).toNat : Nat) := by
    unfold isWhole floor
    rw [decide_eq_true_eq]
    constructor <;> intro h <;> linarith
  rw [hdivides, toRat_eq_div, div_eq_iff x.scale_pos.ne']
  norm_cast

/-- **Comparison by the floor is that of the rationals,** for whole numbers of 128 bits. -/
theorem compareByFloor_eq (x : Finite64) {n : Int} (hlo : leastSigned128 ≤ n)
    (hhi : n ≤ greatestSigned128) : x.compareByFloor n = cmp x.toRat n := by
  obtain ⟨hfloor, hfloor'⟩ := x.floor_bounds
  -- where the floor is not the whole number, the number is on the same side as the floor
  have hbelow (h : x.floor < n) : cmp x.toRat n = .lt := by
    have hstep : ((x.floor + 1 : Int) : ℚ) ≤ n := by exact_mod_cast h
    rw [cmp_eq_lt_iff]
    push_cast at hstep
    linarith
  have habove (h : n < x.floor) : cmp x.toRat n = .gt := by
    have hstep : (n : ℚ) < x.floor := by exact_mod_cast h
    rw [cmp_eq_gt_iff]
    linarith
  unfold compareByFloor
  by_cases hbeyond : greatestSigned128 + 1 ≤ x.floor
  · rw [if_pos hbeyond, habove (by omega)]
  · rw [if_neg hbeyond]
    by_cases hunder : x.floor < leastSigned128
    · rw [if_pos hunder, hbelow (by omega)]
    · rw [if_neg hunder]
      rcases lt_trichotomy x.floor n with hlt | heq | hgt
      · rw [compare_lt_iff_lt.mpr hlt, hbelow hlt]
      · subst heq
        rw [compare_eq_iff_eq.mpr rfl]
        by_cases hwhole : x.toRat = x.floor
        · rw [if_pos (x.isWhole_iff.mpr hwhole), hwhole, cmp_self_eq_eq]
        · have hgt : (x.floor : ℚ) < x.toRat := lt_of_le_of_ne hfloor (Ne.symm hwhole)
          rw [if_neg (mt x.isWhole_iff.mp hwhole), (cmp_eq_gt_iff _ _).mpr hgt]
      · rw [compare_gt_iff_gt.mpr hgt, habove hgt]

/-! ## One form for each number -/

/-- The magnitude of a number. -/
theorem abs_toRat (x : Finite64) : |x.toRat| = x.mantissa * 2 ^ x.exponent := by
  have hpow : (0 : ℚ) < 2 ^ x.exponent := zpow_pos (by norm_num) _
  rw [toRat]
  cases x.negative <;> simp [abs_mul, abs_of_pos hpow]

/-- Of two canonical forms of one magnitude, neither has the greater exponent: its mantissa would
be full and that of the other one twice as large at least. -/
theorem exponent_le_of_eq {x y : Finite64}
    (h : (x.mantissa : ℚ) * 2 ^ x.exponent = y.mantissa * 2 ^ y.exponent) :
    y.exponent ≤ x.exponent := by
  obtain ⟨hlt, hmin, -, -⟩ := x.canonical
  obtain ⟨-, -, -, hfull⟩ := y.canonical
  by_contra hgreater
  obtain ⟨n, hn⟩ : ∃ n : Nat, y.exponent = x.exponent + (n + 1 : Nat) :=
    ⟨(y.exponent - x.exponent - 1).toNat, by omega⟩
  have hmantissa : x.mantissa = y.mantissa * 2 ^ (n + 1) := by
    have hpow : (2 : ℚ) ^ x.exponent ≠ 0 := zpow_ne_zero _ (by norm_num)
    rw [hn, zpow_add₀ (by norm_num), zpow_natCast, ← mul_assoc, mul_right_comm] at h
    exact_mod_cast mul_right_cancel₀ hpow h
  have hfull' : 2 ^ 52 ≤ y.mantissa := hfull.resolve_right (by omega)
  have htwice : y.mantissa * 2 ≤ x.mantissa := by
    rw [hmantissa]
    exact Nat.mul_le_mul_left _ (Nat.le_self_pow (by omega) 2)
  have hlt' : x.mantissa < 2 ^ 53 := hlt
  omega

/-- **A number is known by its sign and the rational that it stands for.** -/
theorem eq_of_toRat_eq {x y : Finite64} (sign : x.negative = y.negative)
    (h : x.toRat = y.toRat) : x = y := by
  have hmagnitude : (x.mantissa : ℚ) * 2 ^ x.exponent = y.mantissa * 2 ^ y.exponent := by
    rw [← abs_toRat, ← abs_toRat, h]
  have hexponent : x.exponent = y.exponent :=
    le_antisymm (exponent_le_of_eq hmagnitude.symm) (exponent_le_of_eq hmagnitude)
  have hmantissa : x.mantissa = y.mantissa := by
    have hpow : (2 : ℚ) ^ y.exponent ≠ 0 := zpow_ne_zero _ (by norm_num)
    rw [hexponent] at hmagnitude
    exact_mod_cast mul_right_cancel₀ hpow hmagnitude
  obtain ⟨negative, mantissa, exponent, canonical⟩ := x
  cases sign
  cases hexponent
  cases hmantissa
  rfl

end FieldRules.Number.Finite64
