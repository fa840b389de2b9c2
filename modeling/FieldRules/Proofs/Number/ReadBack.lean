import FieldRules.Proofs.Number.Nearest

/-!
# `Proofs.Number.ReadBack` — the text of a number reads back as the number

The text of a floating-point number is a decimal that the reader rounds, so the text reads back if
the decimal lies in the reach of the number. The search for it goes through finer and finer grids
and takes the first point that does. It always finds one: on the last grid that it tries, the number
itself is a point.

## Contents
- **`value_append`** and **`digits_bounds`**, digits as numbers.
- **`shortest_spec`**: the decimal that is written lies in the reach.
- **`readUnsigned?_positional`**: what is written by position is read as written.
- **`read?_chars`**: every finite number reads back from its text, and so does every other one
  (**`Binary64.read?_text`**).
-/

namespace FieldRules.Number

/-! ## Digits as numbers -/

theorem value_append (xs ys : List Char) :
    value (xs ++ ys) = value xs * 10 ^ ys.length + value ys := by
  induction ys using List.reverseRecOn with
  | nil => simp [value]
  | append_singleton ys d ih =>
      rw [← List.append_assoc, value_append_singleton, value_append_singleton, ih,
        List.length_append, List.length_singleton, pow_succ]
      ring

theorem value_replicate_zero (n : Nat) : value (List.replicate n '0') = 0 := by
  induction n with
  | zero => rfl
  | succ n ih => rw [List.replicate_succ', value_append_singleton, ih]; rfl

/-- The number of digits is the decimal length of the number. -/
theorem digits_bounds {n : Nat} (hn : 0 < n) :
    10 ^ ((digits n).length - 1) ≤ n ∧ n < 10 ^ (digits n).length := by
  induction n using Nat.strongRecOn with
  | ind n ih =>
      rw [digits_eq]
      split
      · next hsmall => simpa using ⟨hn, hsmall⟩
      · next hlarge =>
          obtain ⟨hlow, hhigh⟩ := ih (n / 10) (by omega) (by omega)
          have hlength : 0 < (digits (n / 10)).length := List.length_pos_of_ne_nil (digits_ne_nil _)
          obtain ⟨l, hl⟩ : ∃ l, (digits (n / 10)).length = l + 1 :=
            ⟨(digits (n / 10)).length - 1, by omega⟩
          rw [hl] at hlow hhigh
          simp only [List.length_append, List.length_singleton, hl, Nat.add_sub_cancel,
            pow_succ] at hlow hhigh ⊢
          omega

/-! ## The point that the search finds -/

namespace Reach

/-- A point that is found on a grid lies in the reach. -/
theorem contains_of_onGrid? {r : Reach} {k : Int} {a : Nat} (h : r.onGrid? k = some a) :
    r.contains (a * Nat.pow 10 k.toNat) (Nat.pow 10 (-k).toNat) = true := by
  unfold onGrid? at h
  dsimp only at h
  split at h
  · cases h
  · next hbelow _ =>
      cases h
      exact hbelow
  · next _ habove =>
      cases h
      exact habove
  · next hbelow habove =>
      cases h
      split
      · exact hbelow
      · exact habove

/-- Where the centre is a point of the grid, a point is found. -/
theorem onGrid?_ne_none {r : Reach} {k : Int} {a : Nat} (hunit : 0 < r.unit)
    (hlow : r.low < r.centre) (hhigh : r.centre < r.high)
    (h : r.centre * Nat.pow 10 (-k).toNat = a * (r.unit * Nat.pow 10 k.toNat)) :
    r.onGrid? k ≠ none := by
  have hnum : 0 < Nat.pow 10 k.toNat := Nat.pow_pos (by decide)
  have hden : 0 < Nat.pow 10 (-k).toNat := Nat.pow_pos (by decide)
  have hbelow : r.centre * Nat.pow 10 (-k).toNat / (r.unit * Nat.pow 10 k.toNat) = a := by
    rw [h]
    exact Nat.mul_div_cancel a (Nat.mul_pos hunit hnum)
  have hhit : r.contains (a * Nat.pow 10 k.toNat) (Nat.pow 10 (-k).toNat) = true := by
    have hx : a * Nat.pow 10 k.toNat * r.unit = r.centre * Nat.pow 10 (-k).toNat := by
      rw [h]
      ring
    have hlow' := Nat.mul_lt_mul_of_pos_right hlow hden
    have hhigh' := Nat.mul_lt_mul_of_pos_right hhigh hden
    rw [contains, hx]
    cases r.closed <;> simp <;> omega
  unfold onGrid?
  dsimp only
  rw [hbelow, hhit]
  split <;> simp_all

/-- The search ends on a grid with a point, if there is one within its fuel, and not below it. -/
theorem search_spec (r : Reach) (fuel : Nat) (k : Int) {k₀ : Int} (hlast : k - fuel ≤ k₀)
    (hfirst : k₀ ≤ k) (h : r.onGrid? k₀ ≠ none) :
    r.onGrid? (r.search fuel k).2 = some (r.search fuel k).1 ∧ k₀ ≤ (r.search fuel k).2 := by
  induction fuel generalizing k with
  | zero =>
      obtain rfl : k₀ = k := by omega
      obtain ⟨a, ha⟩ := Option.ne_none_iff_exists'.mp h
      simp [search, ha]
  | succ fuel ih =>
      rw [search]
      cases hk : r.onGrid? k with
      | some a => exact ⟨hk, hfirst⟩
      | none =>
          have hne : k₀ ≠ k := by
            rintro rfl
            exact h hk
          exact ih (k - 1) (by push_cast at hlast; omega) (by omega)

/-- The number itself is a point of the last grid. -/
theorem onGrid?_of_ne_none (f : Format) {m : Nat} (hm : 0 < m) (e : Int) :
    (Reach.of f m e).onGrid? (min e 0) ≠ none := by
  have hscale : 0 < Nat.pow 2 (e - 2).toNat := Nat.pow_pos (by decide)
  have hlow : (Reach.of f m e).low < (Reach.of f m e).centre := by
    refine Nat.mul_lt_mul_of_pos_right ?_ hscale
    split <;> omega
  have hhigh : (Reach.of f m e).centre < (Reach.of f m e).high :=
    Nat.mul_lt_mul_of_pos_right (by omega) hscale
  have hunit : 0 < (Reach.of f m e).unit := Nat.pow_pos (by decide)
  rcases Int.lt_or_le e 0 with hneg | hpos
  · -- below the units a power of two divides the same power of ten
    rw [min_eq_left hneg.le]
    refine onGrid?_ne_none (a := m * 5 ^ (-e).toNat) hunit hlow hhigh ?_
    have hscale : (e - 2).toNat = 0 := by omega
    have hunits : (2 - e).toNat = 2 + (-e).toNat := by omega
    have hunits' : e.toNat = 0 := by omega
    simp only [of, Nat.pow_eq, hscale, hunits, hunits', pow_add, pow_zero,
      show (10 : Nat) = 2 * 5 from rfl, mul_pow]
    ring
  · rw [min_eq_right hpos]
    refine onGrid?_ne_none (a := m * 2 ^ e.toNat) hunit hlow hhigh ?_
    have hpow : 2 ^ e.toNat * 2 ^ (2 - e).toNat = 4 * 2 ^ (e - 2).toNat := by
      rw [← pow_add, show e.toNat + (2 - e).toNat = 2 + (e - 2).toNat by omega, pow_add]
      rfl
    simp only [of, Nat.pow_eq, neg_zero, Int.toNat_zero, pow_zero, mul_one]
    rw [mul_assoc m, hpow]
    ring

end Reach

/-- **The decimal that is written lies in the reach of the number,** and has no more places than the
number itself. -/
theorem shortest_spec (f : Format) {m : Nat} (hm : 0 < m) (e : Int) :
    (Reach.of f m e).contains ((shortest f m e).1 * Nat.pow 10 (shortest f m e).2.toNat)
        (Nat.pow 10 (-(shortest f m e).2).toNat) = true ∧
      min e 0 ≤ (shortest f m e).2 := by
  obtain ⟨hhit, hlast⟩ := (Reach.of f m e).search_spec
    (((digits ((Reach.of f m e).centre / (Reach.of f m e).unit)).length : Int) - min e 0).toNat
    (digits ((Reach.of f m e).centre / (Reach.of f m e).unit)).length
    (by omega) (by omega) (Reach.onGrid?_of_ne_none f hm e)
  exact ⟨Reach.contains_of_onGrid? hhit, hlast⟩

/-! ## Decimals of moderate size -/

/-- The power of ten of the first digit, as a rational. -/
theorem leading_power {c : Nat} (hc : 0 < c) (k : Int) :
    (10 : ℚ) ^ (k + (digits c).length - 1) ≤ c * 10 ^ k ∧
      (c : ℚ) * 10 ^ k < 10 ^ (k + (digits c).length) := by
  obtain ⟨hlow, hhigh⟩ := digits_bounds hc
  obtain ⟨l, hl⟩ : ∃ l, (digits c).length = l + 1 :=
    ⟨(digits c).length - 1, by have := List.length_pos_of_ne_nil (digits_ne_nil c); omega⟩
  rw [hl] at hlow hhigh ⊢
  have hk : (0 : ℚ) < 10 ^ k := zpow_pos (by norm_num) k
  constructor
  · rw [show k + ((l + 1 : Nat) : Int) - 1 = (l : Int) + k by push_cast; ring,
      zpow_add₀ (by norm_num), zpow_natCast]
    have : (10 : ℚ) ^ l ≤ c := by exact_mod_cast hlow
    gcongr
  · rw [add_comm k, zpow_add₀ (by norm_num), zpow_natCast]
    have : (c : ℚ) < 10 ^ (l + 1) := by exact_mod_cast hhigh
    gcongr

/-- The powers of ten around the double format. -/
theorem double_bounds : (10 : ℚ) ^ (-324 : Int) ≤ 1 / 2 * 2 ^ (-1074 : Int) ∧
    (2 : ℚ) ^ 53 * 2 ^ (971 : Int) < 10 ^ (309 : Int) := by
  have hsmall : (2 : ℚ) ^ 1075 ≤ 10 ^ 324 := by
    exact_mod_cast (by decide +kernel : 2 ^ 1075 ≤ 10 ^ 324)
  have hlarge : (2 : ℚ) ^ 1024 < 10 ^ 309 := by
    exact_mod_cast (by decide +kernel : 2 ^ 1024 < 10 ^ 309)
  constructor
  · rw [zpow_neg, zpow_neg, zpow_ofNat, zpow_ofNat, one_div, ← mul_inv, ← pow_succ']
    exact inv_anti₀ (by positivity) hsmall
  · rw [zpow_ofNat, zpow_ofNat, ← pow_add]
    exact hlarge

/-- What is near to a number of the double format is neither too large nor too small to be read. -/
theorem near_bounds {m : Nat} {e : Int} (hm : 0 < m) (hc : Format.double.Canonical m e) {q : ℚ}
    (h : Near .double m e q) : (10 : ℚ) ^ (-324 : Int) ≤ q ∧ q < 10 ^ (309 : Int) := by
  obtain ⟨hlt, hmin, hmax, -⟩ := hc
  have he := two_zpow_pos e
  have hlow := (le_div_iff₀ he).mp h.lower
  have hhigh := (div_le_iff₀ he).mp h.upper
  constructor
  · have hm' : (1 : ℚ) ≤ m := by exact_mod_cast hm
    calc (10 : ℚ) ^ (-324 : Int) ≤ 1 / 2 * 2 ^ (-1074 : Int) := double_bounds.1
      _ ≤ (m - 1 / 2) * 2 ^ e := by
          have hpow : (2 : ℚ) ^ (-1074 : Int) ≤ 2 ^ e := zpow_le_zpow_right₀ (by norm_num) hmin
          have hhalf : (1 / 2 : ℚ) ≤ m - 1 / 2 := by linarith
          gcongr
      _ ≤ q := hlow
  · have hm' : (m : ℚ) + 1 ≤ 2 ^ 53 := by exact_mod_cast hlt
    calc q ≤ (m + 1 / 2) * 2 ^ e := hhigh
      _ ≤ 2 ^ 53 * 2 ^ (971 : Int) := by
          have hpow : (2 : ℚ) ^ e ≤ 2 ^ (971 : Int) := zpow_le_zpow_right₀ (by norm_num) hmax
          have hhalf : (m : ℚ) + 1 / 2 ≤ 2 ^ 53 := by linarith
          gcongr
      _ < 10 ^ (309 : Int) := double_bounds.2

/-- **A decimal in the reach of a number is read as the number.** -/
theorem ofDecimal_of_contains {m : Nat} {e : Int} (hm : 0 < m) (hc : Format.double.Canonical m e)
    (negative : Bool) {c : Nat} {k : Int}
    (h : (Reach.of .double m e).contains (c * Nat.pow 10 k.toNat) (Nat.pow 10 (-k).toNat) = true) :
    Binary64.ofDecimal ⟨negative, c, k⟩ = .finite ⟨negative, m, e, hc⟩ := by
  have hden : 0 < Nat.pow 10 (-k).toNat := Nat.pow_pos (by decide)
  have hround := round_of_contains (by decide) hm hc hden h
  have hvalue : ((c * Nat.pow 10 k.toNat : Nat) : ℚ) / (Nat.pow 10 (-k).toNat : Nat) =
      c * 10 ^ k := by
    have hpow := pow_div_pow 10 k
    rw [Nat.cast_ofNat] at hpow
    rw [Nat.cast_mul, mul_div_assoc, hpow]
  obtain ⟨hlow, hhigh⟩ := near_bounds hm hc (near_of_contains hm hden h)
  rw [hvalue] at hlow hhigh
  have hc0 : 0 < c := by
    have hten : (0 : ℚ) < 10 ^ (-324 : Int) := zpow_pos (by norm_num) _
    rcases Nat.eq_zero_or_pos c with rfl | hpos
    · rw [Nat.cast_zero, zero_mul] at hlow
      linarith
    · exact hpos
  obtain ⟨hfirst, hfirst'⟩ := leading_power hc0 k
  have hten : (1 : ℚ) < 10 := by norm_num
  have htop := (zpow_lt_zpow_iff_right₀ hten).mp (hfirst.trans_lt hhigh)
  have hbottom := (zpow_lt_zpow_iff_right₀ hten).mp (hlow.trans_lt hfirst')
  have hquotient : Binary64.quotientOf ⟨negative, c, k⟩ =
      some (c * Nat.pow 10 k.toNat, Nat.pow 10 (-k).toNat) := by
    unfold Binary64.quotientOf Binary64.leastPower Binary64.greatestPower
    dsimp only
    rw [if_neg (by omega), if_neg (by omega)]
  rw [Binary64.ofDecimal, hquotient]
  dsimp only
  rw [Binary64.ofQuotient, hround]
  exact dif_pos hc

/-! ## Reading what is written by position -/

theorem takeWhile_digits_append {ds rest : List Char} (hds : ∀ c ∈ ds, c.isDigit = true)
    (hrest : ∀ c ∈ rest.head?, c.isDigit = false) :
    (ds ++ rest).takeWhile Char.isDigit = ds ∧ (ds ++ rest).dropWhile Char.isDigit = rest := by
  rw [List.takeWhile_append_of_pos hds, List.dropWhile_append_of_pos hds]
  cases rest with
  | nil => simp
  | cons c rest =>
      have hc : c.isDigit = false := hrest c rfl
      simp [hc]

/-- A whole number is read as written. -/
theorem readUnsigned?_digits (negative : Bool) {ds : List Char}
    (hds : ∀ c ∈ ds, c.isDigit = true) (hne : ds ≠ []) :
    Decimal.readUnsigned? negative ds = some ⟨negative, value ds, 0⟩ := by
  obtain ⟨htake, hdrop⟩ := @takeWhile_digits_append ds [] hds (by simp)
  rw [List.append_nil] at htake hdrop
  unfold Decimal.readUnsigned?
  rw [htake, hdrop]
  simp [hne, Decimal.readExponent?]

/-- A decimal fraction is read as written. -/
theorem readUnsigned?_point (negative : Bool) {whole part : List Char}
    (hwhole : ∀ c ∈ whole, c.isDigit = true) (hpart : ∀ c ∈ part, c.isDigit = true)
    (hne : whole ≠ []) :
    Decimal.readUnsigned? negative (whole ++ '.' :: part) =
      some ⟨negative, value (whole ++ part), -part.length⟩ := by
  have hpoint : ∀ c ∈ ('.' :: part).head?, c.isDigit = false := by
    rintro c hc
    cases hc
    rfl
  obtain ⟨htake, hdrop⟩ := takeWhile_digits_append hwhole hpoint
  obtain ⟨htake', hdrop'⟩ := @takeWhile_digits_append part [] hpart (by simp)
  rw [List.append_nil] at htake' hdrop'
  unfold Decimal.readUnsigned?
  rw [htake, hdrop]
  simp [htake', hdrop', hne, Decimal.readExponent?]

/-- **A decimal by position is read as written,** with the noughts of a large one in the
coefficient. -/
theorem readUnsigned?_positional (negative : Bool) (a : Nat) (k : Int) :
    Decimal.readUnsigned? negative (positional a k) =
      some ⟨negative, a * Nat.pow 10 k.toNat, min k 0⟩ := by
  have hdigits : ∀ c ∈ digits a, c.isDigit = true := fun c hc => isDigit_of_mem_digits hc
  have hnoughts (n : Nat) : ∀ c ∈ List.replicate n '0', c.isDigit = true := by
    intro c hc
    rw [List.eq_of_mem_replicate hc]
    rfl
  unfold positional
  dsimp only
  split
  · next hk =>
      rw [readUnsigned?_digits negative
        (fun c hc => (List.mem_append.mp hc).elim (hdigits c) (hnoughts _ c)) (by simp [digits_ne_nil]),
        value_append, value_replicate_zero, value_digits, List.length_replicate, min_eq_right hk]
      rfl
  · next hk =>
      have hk0 : k.toNat = 0 := by omega
      have hmin : min k 0 = k := by omega
      rw [hk0, hmin]
      split
      · next hplaces =>
          have hne : (digits a).take ((digits a).length - (-k).toNat) ≠ [] := by
            rw [Ne, List.take_eq_nil_iff]
            rintro (hnone | hnil)
            · omega
            · exact digits_ne_nil a hnil
          rw [readUnsigned?_point negative (fun c hc => hdigits c (List.mem_of_mem_take hc))
            (fun c hc => hdigits c (List.mem_of_mem_drop hc)) hne,
            List.take_append_drop, value_digits, List.length_drop]
          simp
          omega
      · next hplaces =>
          have hvalue : value (['0'] ++ (List.replicate ((-k).toNat - (digits a).length) '0' ++
              digits a)) = a := by
            rw [value_append, value_append, value_replicate_zero, value_digits]
            simp [value, digitValue]
          have hpart : ∀ c ∈ List.replicate ((-k).toNat - (digits a).length) '0' ++ digits a,
              c.isDigit = true :=
            fun c hc => (List.mem_append.mp hc).elim (hnoughts _ c) (hdigits c)
          have hread := @readUnsigned?_point negative ['0'] _ (by simp) hpart (by simp)
          rw [hvalue] at hread
          refine hread.trans ?_
          simp
          omega

/-! ## Reading the text of a number -/

/-- Texts by position begin with a digit. -/
theorem positional_cons (a : Nat) (k : Int) :
    ∃ c cs, positional a k = c :: cs ∧ c.isDigit = true := by
  obtain ⟨d, ds, hds⟩ := List.exists_cons_of_ne_nil (digits_ne_nil a)
  have hd : d.isDigit = true := isDigit_of_mem_digits (hds ▸ List.mem_cons_self)
  unfold positional
  dsimp only
  split
  · exact ⟨d, _, by rw [hds]; rfl, hd⟩
  · split
    · next hplaces =>
        obtain ⟨n, hn⟩ : ∃ n, (digits a).length - (-k).toNat = n + 1 :=
          ⟨(digits a).length - (-k).toNat - 1, by omega⟩
        exact ⟨d, _, by rw [hn, hds]; rfl, hd⟩
    · exact ⟨'0', _, rfl, rfl⟩

namespace Finite64

/-- The text of a number without its sign. -/
def magnitudeChars (x : Finite64) : List Char :=
  if x.mantissa = 0 then ['0']
  else positional (shortest .double x.mantissa x.exponent).1 (shortest .double x.mantissa x.exponent).2

theorem chars_eq (x : Finite64) :
    x.chars = if x.negative then '-' :: x.magnitudeChars else x.magnitudeChars := rfl

theorem magnitudeChars_cons (x : Finite64) :
    ∃ c cs, x.magnitudeChars = c :: cs ∧ c.isDigit = true := by
  unfold magnitudeChars
  split
  · exact ⟨'0', [], rfl, rfl⟩
  · exact positional_cons _ _

/-- Without its sign, the text is a decimal that is read as the number. -/
theorem readUnsigned?_magnitudeChars (x : Finite64) :
    (Decimal.readUnsigned? x.negative x.magnitudeChars).map Binary64.ofDecimal =
      some (.finite x) := by
  obtain ⟨negative, m, e, hc⟩ := x
  unfold magnitudeChars
  dsimp only
  rcases Nat.eq_zero_or_pos m with rfl | hm
  · obtain rfl : e = -1074 := hc.2.2.2.resolve_left (by decide)
    cases negative <;> rfl
  · rw [if_neg hm.ne', readUnsigned?_positional, Option.map_some]
    obtain ⟨hreach, hlast⟩ := shortest_spec .double hm e
    generalize (shortest .double m e).1 = a at hreach
    generalize (shortest .double m e).2 = k at hreach hlast
    have hscale : (min k 0).toNat = 0 := by omega
    have hunit : (-min k 0).toNat = (-k).toNat := by omega
    rw [ofDecimal_of_contains hm hc negative]
    rw [hscale, hunit]
    simpa using hreach

end Finite64

/-- A sign in front of a digit is all that is split off. -/
theorem splitSign_of_digit {c : Char} (cs : List Char) (h : c.isDigit = true) :
    splitSign (c :: cs) = (false, c :: cs) := by
  unfold splitSign
  split
  · next heq => cases heq; cases h
  · next heq => cases heq; cases h
  · rfl

theorem toLower_of_digit {c : Char} (h : c.isDigit = true) : c.toLower = c := by
  unfold Char.isDigit at h
  unfold Char.toLower
  simp only [Bool.and_eq_true, decide_eq_true_eq] at h
  rw [dif_neg]
  rintro ⟨hupper, -⟩
  have hdigit := UInt32.le_iff_toNat_le.mp h.2
  have hupper := UInt32.le_iff_toNat_le.mp hupper
  simp at hdigit hupper
  omega

/-- No word for what is not finite begins with a digit. -/
theorem word?_of_digit (negative : Bool) {c : Char} (cs : List Char) (h : c.isDigit = true) :
    Binary64.word? negative (c :: cs) = none := by
  have hne (d : Char) (ds : List Char) (hd : d.isDigit = false) :
      (c :: cs).map Char.toLower ≠ d :: ds := by
    intro heq
    rw [List.map_cons, toLower_of_digit h] at heq
    injection heq with hc _
    rw [hc, hd] at h
    cases h
  unfold Binary64.word?
  dsimp only
  rw [if_neg, if_neg]
  · exact hne 'n' _ rfl
  · rintro (heq | heq)
    · exact hne 'i' _ rfl heq
    · exact hne 'i' _ rfl heq

/-- The sign of a number is what is split off its text. -/
theorem splitSign_chars (x : Finite64) : splitSign x.chars = (x.negative, x.magnitudeChars) := by
  obtain ⟨c, cs, hchars, hdigit⟩ := x.magnitudeChars_cons
  rw [x.chars_eq, hchars]
  cases x.negative with
  | true => rfl
  | false => exact splitSign_of_digit cs hdigit

/-- **The text of a finite number is read as the number,** nought with its sign included. -/
theorem read?_chars (x : Finite64) : Binary64.read? x.chars = some (.finite x) := by
  obtain ⟨c, cs, hchars, hdigit⟩ := x.magnitudeChars_cons
  have hword : Binary64.word? x.negative x.magnitudeChars = none := by
    rw [hchars]
    exact word?_of_digit x.negative cs hdigit
  unfold Binary64.read? Binary64.readWith?
  rw [splitSign_chars]
  dsimp only
  rw [hword]
  exact x.readUnsigned?_magnitudeChars

/-- Every number is read from its text, what is not finite from the word for it. -/
theorem Binary64.read?_text (x : Binary64) : Binary64.read? x.text.toList = some x := by
  rw [Binary64.text, String.toList_ofList]
  cases x with
  | nan => decide
  | infinity negative => cases negative <;> decide
  | finite x => exact read?_chars x

/-! ## Whole numbers -/

theorem splitSign_ofInt (n : Int) : splitSign (ofInt n) = (decide (n < 0), digits n.natAbs) := by
  cases n with
  | ofNat n =>
      obtain ⟨d, ds, hds⟩ := List.exists_cons_of_ne_nil (digits_ne_nil n)
      have hd : d.isDigit = true := isDigit_of_mem_digits (hds ▸ List.mem_cons_self)
      show splitSign (digits n) = (decide ((n : Int) < 0), digits n)
      rw [hds, splitSign_of_digit ds hd]
      simp
  | negSucc n =>
      rw [decide_eq_true (Int.negSucc_lt_zero n)]
      rfl

/-- A whole number is read as written. -/
theorem readInt?_ofInt (n : Int) : readInt? (ofInt n) = some n := by
  have hall : (digits n.natAbs).all Char.isDigit = true :=
    List.all_eq_true.mpr fun c hc => isDigit_of_mem_digits hc
  unfold readInt?
  rw [splitSign_ofInt]
  simp only [hall, value_digits, List.isEmpty_iff, digits_ne_nil, Bool.not_true, Bool.or_false,
    if_false]
  congr 1
  by_cases hn : n < 0
  · rw [decide_eq_true hn, if_pos rfl]
    omega
  · rw [decide_eq_false hn, if_neg Bool.false_ne_true]
    omega

theorem ofInt_injective {m n : Int} (h : ofInt m = ofInt n) : m = n := by
  have hread := readInt?_ofInt m
  rw [h, readInt?_ofInt] at hread
  exact (Option.some.inj hread).symm

/-! ## Texts without a point -/

/-- A text by position without a point is that of a whole number. -/
theorem positional_whole {a : Nat} {k : Int}
    (h : ∀ c ∈ positional a k, c.isDigit = true) :
    0 ≤ k ∧ value (positional a k) = a * Nat.pow 10 k.toNat := by
  have hpoint : '.' ∉ positional a k := by
    intro hmem
    cases h '.' hmem
  unfold positional at hpoint ⊢
  dsimp only at hpoint ⊢
  split at hpoint
  · next hk =>
      rw [if_pos hk, value_append, value_replicate_zero, value_digits, List.length_replicate]
      exact ⟨hk, rfl⟩
  · split at hpoint
    · exact absurd (List.mem_append_right _ List.mem_cons_self) hpoint
    · exact absurd (List.mem_cons_of_mem _ List.mem_cons_self) hpoint

/-- **The text of a number that is read as a whole number.** The whole number need not be the
number itself, but its magnitude lies in the reach. -/
theorem readInt?_chars {x : Finite64} {n : Int} (h : readInt? x.chars = some n) :
    ∃ c : Nat, n = (if x.negative then -(c : Int) else c) ∧
      (x.mantissa = 0 ∧ c = 0 ∨
        0 < x.mantissa ∧ (Reach.of .double x.mantissa x.exponent).contains c 1 = true) := by
  unfold readInt? at h
  rw [splitSign_chars] at h
  dsimp only at h
  split at h
  · cases h
  · next hdigits =>
      have hall : ∀ c ∈ x.magnitudeChars, c.isDigit = true := by
        simp only [Bool.or_eq_true, not_or, Bool.not_eq_true, Bool.not_eq_false',
          List.all_eq_true] at hdigits
        exact hdigits.2
      refine ⟨value x.magnitudeChars, (Option.some.inj h).symm, ?_⟩
      rcases Nat.eq_zero_or_pos x.mantissa with hzero | hm
      · refine .inl ⟨hzero, ?_⟩
        rw [Finite64.magnitudeChars, if_pos hzero]
        rfl
      · refine .inr ⟨hm, ?_⟩
        rw [Finite64.magnitudeChars, if_neg hm.ne'] at hall ⊢
        obtain ⟨hk, hvalue⟩ := positional_whole hall
        obtain ⟨hreach, -⟩ := shortest_spec .double hm x.exponent
        have hunits : (-(shortest .double x.mantissa x.exponent).2).toNat = 0 := by omega
        rw [hunits] at hreach
        rw [hvalue]
        exact hreach

end FieldRules.Number
