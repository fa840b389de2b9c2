import FieldRules.Pattern.Search
import Mathlib.Data.List.Basic
import Mathlib.Data.Nat.Bitwise

/-!
# `Proofs.Pattern.Positions` — sets of positions as numbers

The search keeps a set of positions as the bits of a number. Here every number that it builds is
given the set that it stands for: the flags of a text, the positions of a set of characters, the
positions where a condition on the neighbouring characters holds, and all positions of a text.

## Contents
- **`testBit_positions`**, flags gathered word by word.
- **`testBit_mask`** and **`testBit_lookMask`**, what is looked up in a text.
- **`testBit_allPositions`**.
-/

namespace FieldRules.Pattern

open FieldRules.Unicode FieldRules.Pattern.Expr

/-! ## Flags -/

/-- A flag set above the positions that are there. -/
theorem testBit_set_above {below width : Nat} (flag : Bool) (h : below < 2 ^ width) (i : Nat) :
    (if flag then below + 1 <<< width else below).testBit i =
      if i < width then below.testBit i else decide (i = width) && flag := by
  have hbelow (hi : ¬i < width) : below.testBit i = false :=
    Nat.testBit_lt_two_pow (lt_of_lt_of_le h (Nat.pow_le_pow_right Nat.two_pos (not_lt.mp hi)))
  cases flag with
  | false =>
      by_cases hi : i < width
      · simp [hi]
      · simp [hi, hbelow hi]
  | true =>
      have hsum : below + 1 <<< width = 2 ^ width * 1 + below := by
        rw [Nat.one_shiftLeft]
        omega
      rw [if_pos rfl, hsum, Nat.testBit_two_pow_mul_add 1 h]
      by_cases hi : i < width
      · rw [if_pos hi, if_pos hi]
      · rw [if_neg hi, if_neg hi, Bool.and_true, Bool.eq_iff_iff,
          Nat.testBit_one_eq_true_iff_self_eq_zero, decide_eq_true_iff]
        omega

/-- Gathered flags come after the positions below them. -/
theorem testBit_gather (flags : List Bool) {below width : Nat} (hbelow : below < 2 ^ width)
    (hwidth : width < wordSize) (i : Nat) :
    (gather below width flags).testBit i =
      if i < width then below.testBit i else flags[i - width]?.getD false := by
  induction flags generalizing below width i with
  | nil =>
      rw [gather]
      by_cases hi : i < width
      · simp [hi]
      · have hle : 2 ^ width ≤ 2 ^ i := Nat.pow_le_pow_right Nat.two_pos (not_lt.mp hi)
        simp [hi, Nat.testBit_lt_two_pow (lt_of_lt_of_le hbelow hle)]
  | cons flag flags ih =>
      rw [gather]
      have hset := testBit_set_above flag hbelow
      have hlt : (if flag then below + 1 <<< width else below) < 2 ^ (width + 1) := by
        rw [Nat.one_shiftLeft, pow_succ]
        split <;> omega
      generalize (if flag then below + 1 <<< width else below) = below' at hset hlt ⊢
      have hcons (hi : ¬i < width + 1) : (flag :: flags)[i - width]? = flags[i - (width + 1)]? := by
        rw [show i - width = i - (width + 1) + 1 by omega, List.getElem?_cons_succ]
      have hflag (hi : i = width) : (flag :: flags)[i - width]? = some flag := by
        rw [hi, Nat.sub_self, List.getElem?_cons_zero]
      have hcases : below'.testBit i = if i < width then below.testBit i else
          decide (i = width) && flag := hset i
      split
      · -- the word is full, and the rest is gathered above it
        next hfull =>
        rw [← hfull, Nat.shiftLeft_eq, Nat.add_comm, Nat.mul_comm,
          Nat.testBit_two_pow_mul_add _ hlt]
        by_cases hi : i < width + 1
        · rw [if_pos hi, hcases]
          split
          · rfl
          · have heq : i = width := by omega
            rw [hflag heq, decide_eq_true heq]
            rfl
        · rw [if_neg hi, if_neg (by omega), ih Nat.one_pos (by decide), if_neg (Nat.not_lt_zero _),
            Nat.sub_zero, hcons hi]
      · rw [ih hlt (by omega)]
        by_cases hi : i < width + 1
        · rw [if_pos hi, hcases]
          split
          · rfl
          · have heq : i = width := by omega
            rw [hflag heq, decide_eq_true heq]
            rfl
        · rw [if_neg hi, if_neg (by omega), hcons hi]

/-- **The positions of flags are those that are set.** -/
theorem testBit_positions (flags : List Bool) (i : Nat) :
    (positions flags).testBit i = flags[i]?.getD false := by
  rw [positions, testBit_gather flags Nat.one_pos (by decide), if_neg (Nat.not_lt_zero i),
    Nat.sub_zero]

/-! ## Characters of a set -/

/-- The positions of a character in a text. -/
theorem testBit_place (text : List Char) (c : Char) (i : Nat) :
    (positions (text.map (· == c))).testBit i = true ↔ text[i]? = some c := by
  rw [testBit_positions, List.getElem?_map]
  cases text[i]? with
  | none => simp
  | some d => simp

theorem testBit_foldl_or {α : Type} (keep : α → Bool) (bits : α → Nat) (xs : List α) (here i : Nat) :
    (xs.foldl (fun here x => if keep x then here ||| bits x else here) here).testBit i = true ↔
      here.testBit i = true ∨ ∃ x ∈ xs, keep x = true ∧ (bits x).testBit i = true := by
  induction xs generalizing here with
  | nil => simp
  | cons x xs ih =>
      rw [List.foldl_cons, ih, List.exists_mem_cons_iff]
      cases hkeep : keep x with
      | true => simp [Nat.testBit_or, or_assoc]
      | false => simp

/-- **A mask holds the positions whose next character lies in the set.** -/
theorem testBit_mask (text : List Char) (s : Spans) (i : Nat) :
    (mask (places text) s).testBit i = true ↔ ∃ c, text[i]? = some c ∧ s.contains c.toNat = true := by
  have hfold := testBit_foldl_or (fun e : Char × Positions => s.contains e.1.toNat) Prod.snd
    (places text) 0 i
  rw [mask, hfold]
  simp only [Nat.zero_testBit, Bool.false_eq_true, false_or, places, List.mem_map,
    List.mem_eraseDups]
  constructor
  · rintro ⟨_, ⟨c, -, rfl⟩, hc, hi⟩
    exact ⟨c, (testBit_place text c i).mp hi, hc⟩
  · rintro ⟨c, hget, hc⟩
    exact ⟨_, ⟨c, List.mem_of_getElem? hget, rfl⟩, hc, (testBit_place text c i).mpr hget⟩

/-! ## Conditions on the neighbouring characters -/

theorem length_lookFlags (test : Option Char → Option Char → Bool) (before : Option Char)
    (text : List Char) : (lookFlags test before text).length = text.length + 1 := by
  induction text generalizing before with
  | nil => rfl
  | cons c text ih => rw [lookFlags, List.length_cons, ih, List.length_cons]

theorem getElem?_lookFlags (test : Option Char → Option Char → Bool) (before : Option Char)
    (text : List Char) {i : Nat} (hi : i ≤ text.length) :
    (lookFlags test before text)[i]? =
      some (test (if i = 0 then before else text[i - 1]?) text[i]?) := by
  induction text generalizing before i with
  | nil =>
      obtain rfl : i = 0 := Nat.le_zero.mp hi
      rfl
  | cons c text ih =>
      cases i with
      | zero => rfl
      | succ i =>
          rw [lookFlags, List.getElem?_cons_succ, ih (some c) (Nat.le_of_succ_le_succ hi)]
          cases i with
          | zero => rfl
          | succ i => rfl

/-- **The positions where a condition holds,** the end of the text included. -/
theorem testBit_lookMask (l : Look) (text : List Char) (i : Nat) :
    (lookMask l.holds text).testBit i = true ↔
      i ≤ text.length ∧ l.holds (before? text i) text[i]? = true := by
  rw [lookMask, testBit_positions]
  by_cases hi : i ≤ text.length
  · rw [getElem?_lookFlags l.holds none text hi, and_iff_right hi]
    rfl
  · have hnone : (lookFlags l.holds none text)[i]? = none := by
      rw [List.getElem?_eq_none_iff, length_lookFlags]
      omega
    simp [hnone, hi]

/-! ## All positions -/

theorem testBit_allPositions (length i : Nat) :
    (allPositions length).testBit i = true ↔ i ≤ length := by
  show (2 ^ (length + 1) - 1).testBit i = true ↔ _
  rw [Nat.testBit_two_pow_sub_one, decide_eq_true_iff, Nat.lt_succ_iff]

end FieldRules.Pattern
