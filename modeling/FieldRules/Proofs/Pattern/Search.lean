import FieldRules.Proofs.Pattern.Positions

/-!
# `Proofs.Pattern.Search` — the search finds the matches

The search goes through an expression once and computes where matches end, for a whole set of starts
at a time. Each operation on sets of positions is shown to compute a relation between starts and
ends; the relations are put together as the expression is, and the one of the whole expression is
`Expr.Matches`.

A repetition without a limit is followed for as many steps as the text has characters. That is
enough, because matches only go forward and a step that stays where it is can be left out.

## Contents
- **`Computes`**, an operation on sets of positions and the relation that it computes.
- **`Chain`**, a relation several times in a row, and **`matches_repetition_iff`**.
- **`Computes.power`** and **`Computes.grow`**, repetition on sets.
- **`Expr.Ordered`**, no repetition that asks for more than it allows.
- **`computes_ends`** and **`occursIn_iff`**.
-/

namespace FieldRules.Pattern

open FieldRules.Unicode

/-! ## Repetition of a relation -/

/-- A relation so many times in a row. -/
def Chain (R : Nat → Nat → Prop) : Nat → Nat → Nat → Prop
  | 0, i, k => i = k
  | n + 1, i, k => ∃ j, R i j ∧ Chain R n j k

/-- A number of times, and then a number of times more. -/
theorem chain_add_iff {R : Nat → Nat → Prop} (m n : Nat) {i k : Nat} :
    Chain R (m + n) i k ↔ ∃ j, Chain R m i j ∧ Chain R n j k := by
  induction m generalizing i with
  | zero => simp [Chain]
  | succ m ih =>
      rw [Nat.add_right_comm]
      simp only [Chain, ih]
      constructor
      · rintro ⟨i', hi, j, hm, hn⟩
        exact ⟨j, ⟨i', hi, hm⟩, hn⟩
      · rintro ⟨j, ⟨i', hi, hm⟩, hn⟩
        exact ⟨i', hi, j, hm, hn⟩

/-- Goes forward only, within a text of the given length. -/
def Forward (length : Nat) (R : Nat → Nat → Prop) : Prop :=
  ∀ i k, i ≤ length → R i k → i ≤ k ∧ k ≤ length

namespace Forward

variable {length : Nat} {R : Nat → Nat → Prop}

theorem chain (h : Forward length R) (n : Nat) : Forward length (Chain R n) := by
  induction n with
  | zero =>
      rintro i k hi rfl
      exact ⟨Nat.le_refl i, hi⟩
  | succ n ih =>
      rintro i k hi ⟨j, hj, hk⟩
      obtain ⟨hij, hjl⟩ := h i j hi hj
      obtain ⟨hjk, hkl⟩ := ih j k hjl hk
      exact ⟨Nat.le_trans hij hjk, hkl⟩

/-- Steps that stay where they are can be left out. -/
theorem exists_short_chain (h : Forward length R) {n i k : Nat} (hi : i ≤ length)
    (hchain : Chain R n i k) : ∃ m ≤ k - i, Chain R m i k := by
  induction n generalizing i with
  | zero => exact ⟨0, Nat.zero_le _, hchain⟩
  | succ n ih =>
      obtain ⟨j, hj, hrest⟩ := hchain
      obtain ⟨hij, hjl⟩ := h i j hi hj
      obtain ⟨hjk, -⟩ := h.chain n j k hjl hrest
      obtain ⟨m, hm, hshort⟩ := ih hjl hrest
      by_cases hstay : i = j
      · subst hstay
        exact ⟨m, hm, hshort⟩
      · exact ⟨m + 1, by omega, j, hj, hshort⟩

end Forward

/-! ## Operations on sets of positions -/

/-- No position beyond the end of a text of the given length. -/
def Within (length : Nat) (here : Positions) : Prop :=
  ∀ i, here.testBit i = true → i ≤ length

/-- The operation leads from a set of positions to all that the relation reaches from it. -/
structure Computes (length : Nat) (step : Positions → Positions) (R : Nat → Nat → Prop) :
    Prop where
  forward : Forward length R
  reached : ∀ here, Within length here → ∀ k,
    (step here).testBit k = true ↔ ∃ i, here.testBit i = true ∧ R i k

namespace Computes

variable {length : Nat} {step step' : Positions → Positions} {R R' : Nat → Nat → Prop}

theorem within (h : Computes length step R) {here : Positions} (hhere : Within length here) :
    Within length (step here) := by
  intro k hk
  obtain ⟨i, hi, hR⟩ := (h.reached here hhere k).mp hk
  exact (h.forward i k (hhere i hi) hR).2

/-- A relation with the same pairs is computed as well. -/
theorem congr (h : Computes length step R)
    (hR : ∀ i k, i ≤ length → (R' i k ↔ R i k)) : Computes length step R' where
  forward i k hi hk := h.forward i k hi ((hR i k hi).mp hk)
  reached here hhere k := by
    rw [h.reached here hhere]
    refine exists_congr fun i => and_congr_right fun hi => ?_
    exact (hR i k (hhere i hi)).symm

/-- One operation after another. -/
theorem comp (h : Computes length step R) (h' : Computes length step' R') :
    Computes length (fun here => step' (step here)) fun i k => ∃ j, R i j ∧ R' j k where
  forward := by
    rintro i k hi ⟨j, hj, hk⟩
    obtain ⟨hij, hjl⟩ := h.forward i j hi hj
    obtain ⟨hjk, hkl⟩ := h'.forward j k hjl hk
    exact ⟨Nat.le_trans hij hjk, hkl⟩
  reached here hhere k := by
    rw [h'.reached _ (h.within hhere)]
    constructor
    · rintro ⟨j, hj, hk⟩
      obtain ⟨i, hi, hij⟩ := (h.reached here hhere j).mp hj
      exact ⟨i, hi, j, hij, hk⟩
    · rintro ⟨i, hi, j, hij, hk⟩
      exact ⟨j, (h.reached here hhere j).mpr ⟨i, hi, hij⟩, hk⟩

/-- What a set closed under a relation reaches stays in the set. -/
theorem mem_of_chain {here : Positions}
    (hclosed : ∀ i j, here.testBit i = true → R i j → here.testBit j = true) {n i k : Nat}
    (hi : here.testBit i = true) (hchain : Chain R n i k) : here.testBit k = true := by
  induction n generalizing i with
  | zero =>
      obtain rfl : i = k := hchain
      exact hi
  | succ n ih =>
      obtain ⟨j, hj, hrest⟩ := hchain
      exact ih (hclosed i j hi hj) hrest

/-- **A number of steps.** Once a step changes nothing, no further step does. -/
theorem power (h : Computes length step R) (n : Nat) :
    Computes length (power step n) (Chain R n) where
  forward := h.forward.chain n
  reached here hhere k := by
    induction n generalizing here with
    | zero => simp [Pattern.power, Chain]
    | succ n ih =>
        have hnext : (Pattern.power step n (step here)).testBit k = true ↔
            ∃ i, here.testBit i = true ∧ Chain R (n + 1) i k := by
          rw [ih _ (h.within hhere)]
          constructor
          · rintro ⟨j, hj, hk⟩
            obtain ⟨i, hi, hij⟩ := (h.reached here hhere j).mp hj
            exact ⟨i, hi, j, hij, hk⟩
          · rintro ⟨i, hi, j, hij, hk⟩
            exact ⟨j, (h.reached here hhere j).mpr ⟨i, hi, hij⟩, hk⟩
        rw [Pattern.power]
        split
        · next hfixed =>
          rw [← hnext, hfixed]
          -- a fixed set is fixed by any number of steps
          have hpower (m : Nat) : Pattern.power step m here = here := by
            cases m with
            | zero => rfl
            | succ m => rw [Pattern.power, if_pos hfixed]
          rw [hpower]
        · exact hnext

/-- **Up to a number of steps.** -/
theorem grow (h : Computes length step R) (n : Nat) :
    Computes length (grow step n) fun i k => ∃ m ≤ n, Chain R m i k where
  forward := by
    rintro i k hi ⟨m, -, hchain⟩
    exact h.forward.chain m i k hi hchain
  reached here hhere k := by
    induction n generalizing here with
    | zero =>
        simp only [Pattern.grow, Nat.le_zero, exists_eq_left, Chain]
        simp
    | succ n ih =>
        have hmem (j : Nat) : (here ||| step here).testBit j = true ↔
            here.testBit j = true ∨ ∃ i, here.testBit i = true ∧ R i j := by
          rw [Nat.testBit_or, Bool.or_eq_true, h.reached here hhere]
        rw [Pattern.grow]
        split
        · next hfixed =>
          have hclosed (i j : Nat) (hi : here.testBit i = true) (hij : R i j) :
              here.testBit j = true := by
            rw [← hfixed, hmem]
            exact .inr ⟨i, hi, hij⟩
          constructor
          · intro hk
            exact ⟨k, hk, 0, Nat.zero_le _, rfl⟩
          · rintro ⟨i, hi, m, -, hchain⟩
            exact mem_of_chain hclosed hi hchain
        · have hwithin : Within length (here ||| step here) := by
            intro j hj
            rcases (hmem j).mp hj with hj | ⟨i, hi, hij⟩
            · exact hhere j hj
            · exact (h.forward i j (hhere i hi) hij).2
          rw [ih _ hwithin]
          constructor
          · rintro ⟨j, hj, m, hm, hchain⟩
            rcases (hmem j).mp hj with hj | ⟨i, hi, hij⟩
            · exact ⟨j, hj, m, Nat.le_succ_of_le hm, hchain⟩
            · exact ⟨i, hi, m + 1, Nat.succ_le_succ hm, j, hij, hchain⟩
          · rintro ⟨i, hi, m, hm, hchain⟩
            cases m with
            | zero => exact ⟨i, (hmem i).mpr (.inl hi), 0, Nat.zero_le _, hchain⟩
            | succ m =>
                obtain ⟨j, hij, hrest⟩ := hchain
                exact ⟨j, (hmem j).mpr (.inr ⟨i, hi, hij⟩), m, Nat.le_of_succ_le_succ hm, hrest⟩

/-- With as many steps as there are positions, any number of steps. -/
theorem grow_all (h : Computes length step R) :
    Computes length (Pattern.grow step (length + 1)) fun i k => ∃ m, Chain R m i k := by
  refine (h.grow (length + 1)).congr fun i k hi => ?_
  constructor
  · rintro ⟨m, hchain⟩
    obtain ⟨-, hk⟩ := h.forward.chain m i k hi hchain
    obtain ⟨m', hm', hshort⟩ := h.forward.exists_short_chain hi hchain
    exact ⟨m', by omega, hshort⟩
  · rintro ⟨m, -, hchain⟩
    exact ⟨m, hchain⟩

end Computes

/-! ## Matches -/

namespace Expr

variable {text : List Char}

/-- A match goes forward and ends within the text. -/
theorem Matches.forward {a : Expr} {i k : Nat} (h : a.Matches text i k) :
    i ≤ k ∧ k ≤ text.length := by
  induction h with
  | empty inside => exact ⟨Nat.le_refl _, inside⟩
  | set at_i member =>
      obtain ⟨hlt, -⟩ := List.getElem?_eq_some_iff.mp at_i
      exact ⟨Nat.le_succ _, hlt⟩
  | look inside holds => exact ⟨Nat.le_refl _, inside⟩
  | seq first second ih ih' => exact ⟨Nat.le_trans ih.1 ih'.1, ih'.2⟩
  | altLeft left ih => exact ih
  | altRight right ih => exact ih
  | done inside => exact ⟨Nat.le_refl _, inside⟩
  | again room once rest ih ih' => exact ⟨Nat.le_trans ih.1 ih'.1, ih'.2⟩

theorem matches_seq_iff {a b : Expr} {i k : Nat} :
    (seq a b).Matches text i k ↔ ∃ j, a.Matches text i j ∧ b.Matches text j k := by
  constructor
  · rintro ⟨⟩
    next first second => exact ⟨_, first, second⟩
  · rintro ⟨j, first, second⟩
    exact .seq first second

/-- A repetition is a number of matches in a row that its counts allow. -/
theorem matches_repetition_iff {least : Nat} {most : Option Nat} {a : Expr} {i k : Nat}
    (hi : i ≤ text.length) :
    (repetition least most a).Matches text i k ↔
      ∃ n, least ≤ n ∧ (∀ m ∈ most, n ≤ m) ∧ Chain (a.Matches text) n i k := by
  constructor
  · intro h
    generalize hrep : repetition least most a = e at h
    induction h generalizing least most with
    | done inside =>
        cases hrep
        exact ⟨0, Nat.le_refl 0, fun _ _ => Nat.zero_le _, rfl⟩
    | again room once rest ih ih' =>
        cases hrep
        obtain ⟨n, hleast, hmost, hchain⟩ := ih' once.forward.2 rfl
        refine ⟨n + 1, by omega, fun m hm => ?_, _, once, hchain⟩
        have hn := hmost (m - 1) (by simp [Option.mem_def.mp hm])
        have hm0 : m ≠ 0 := fun h0 => room (by rw [Option.mem_def.mp hm, h0])
        omega
    | _ => cases hrep
  · rintro ⟨n, hleast, hmost, hchain⟩
    induction n generalizing least most i with
    | zero =>
        obtain rfl : least = 0 := Nat.le_zero.mp hleast
        obtain rfl : i = k := hchain
        exact .done hi
    | succ n ih =>
        obtain ⟨j, once, hrest⟩ := hchain
        refine .again ?_ once (ih once.forward.2 (by omega) ?_ hrest)
        · rintro rfl
          exact absurd (hmost 0 rfl) (by omega)
        · intro m hm
          obtain ⟨m', hm', rfl⟩ := Option.mem_map.mp hm
          have := hmost m' hm'
          omega

/-! ## The search -/

/-- No repetition asks for more than it allows. -/
def Ordered : Expr → Prop
  | .empty => True
  | .set _ => True
  | .look _ => True
  | .seq a b => a.Ordered ∧ b.Ordered
  | .alt a b => a.Ordered ∧ b.Ordered
  | .repetition least most a => (∀ m ∈ most, least ≤ m) ∧ a.Ordered

/-- **The search goes from the starts of matches to their ends.** -/
theorem computes_ends (text : List Char) (a : Expr) (h : a.Ordered) :
    Computes text.length ((a.chart text (places text)).ends text.length) (a.Matches text) := by
  have forward (a : Expr) : Forward text.length (a.Matches text) := fun _ _ _ hm => hm.forward
  induction a with
  | empty =>
      refine ⟨forward _, fun here hhere k => ?_⟩
      constructor
      · intro hk
        exact ⟨k, hk, .empty (hhere k hk)⟩
      · rintro ⟨i, hi, ⟨⟩⟩
        exact hi
  | set s =>
      refine ⟨forward _, fun here hhere k => ?_⟩
      show ((here &&& mask (places text) s) <<< 1).testBit k = true ↔ _
      rw [Nat.testBit_shiftLeft, Bool.and_eq_true, decide_eq_true_iff, Nat.testBit_and,
        Bool.and_eq_true, testBit_mask]
      constructor
      · rintro ⟨hk, hhere, c, hc, hs⟩
        refine ⟨k - 1, hhere, ?_⟩
        have hmatch := Matches.set hc hs
        rwa [Nat.sub_add_cancel hk] at hmatch
      · rintro ⟨i, hi, @⟨⟩⟩
        next c member at_i => exact ⟨Nat.succ_pos i, hi, c, at_i, member⟩
  | look l =>
      refine ⟨forward _, fun here hhere k => ?_⟩
      show (here &&& lookMask l.holds text).testBit k = true ↔ _
      rw [Nat.testBit_and, Bool.and_eq_true, testBit_lookMask]
      constructor
      · rintro ⟨hk, inside, holds⟩
        exact ⟨k, hk, .look inside holds⟩
      · rintro ⟨i, hi, ⟨⟩⟩
        next inside holds => exact ⟨hi, inside, holds⟩
  | seq a b iha ihb =>
      exact ((iha h.1).comp (ihb h.2)).congr fun i k _ => matches_seq_iff
  | alt a b iha ihb =>
      refine ⟨forward _, fun here hhere k => ?_⟩
      show (_ ||| _ : Nat).testBit k = true ↔ _
      rw [Nat.testBit_or, Bool.or_eq_true, (iha h.1).reached here hhere,
        (ihb h.2).reached here hhere, ← exists_or]
      refine exists_congr fun i => ?_
      rw [← and_or_left]
      refine and_congr_right fun _ => ?_
      constructor
      · rintro (left | right)
        · exact .altLeft left
        · exact .altRight right
      · rintro ⟨⟩
        · next left => exact .inl left
        · next right => exact .inr right
  | repetition least most a iha =>
      have hstep := iha h.2
      -- first the matches that are asked for, then those that are allowed
      cases most with
      | none =>
          refine ((hstep.power least).comp hstep.grow_all).congr fun i k hi => ?_
          rw [matches_repetition_iff hi]
          constructor
          · rintro ⟨n, hleast, -, hchain⟩
            rw [← Nat.add_sub_of_le hleast, chain_add_iff] at hchain
            obtain ⟨j, first, more⟩ := hchain
            exact ⟨j, first, _, more⟩
          · rintro ⟨j, first, n, more⟩
            exact ⟨least + n, Nat.le_add_right _ _, by simp, (chain_add_iff _ _).mpr ⟨j, first, more⟩⟩
      | some most =>
          have hcounts : least ≤ most := h.1 most rfl
          refine ((hstep.power least).comp (hstep.grow (most - least))).congr fun i k hi => ?_
          rw [matches_repetition_iff hi]
          constructor
          · rintro ⟨n, hleast, hmost, hchain⟩
            have hn : n ≤ most := hmost most rfl
            rw [← Nat.add_sub_of_le hleast, chain_add_iff] at hchain
            obtain ⟨j, first, more⟩ := hchain
            exact ⟨j, first, n - least, by omega, more⟩
          · rintro ⟨j, first, n, hn, more⟩
            refine ⟨least + n, Nat.le_add_right _ _, ?_, (chain_add_iff _ _).mpr ⟨j, first, more⟩⟩
            rintro m ⟨⟩
            omega

/-- **An expression occurs in a text if it matches some part of it.** -/
theorem occursIn_iff {a : Expr} (h : a.Ordered) (text : List Char) :
    a.occursIn text = true ↔ ∃ i j, a.Matches text i j := by
  have hends := a.computes_ends text h
  have hall : Within text.length (allPositions text.length) := fun i hi =>
    (testBit_allPositions text.length i).mp hi
  rw [occursIn, bne_iff_ne]
  constructor
  · intro hne
    obtain ⟨j, hj⟩ := Nat.exists_testBit_of_ne_zero hne
    obtain ⟨i, -, hm⟩ := (hends.reached _ hall j).mp hj
    exact ⟨i, j, hm⟩
  · rintro ⟨i, j, hm⟩ hzero
    have hi : (allPositions text.length).testBit i = true :=
      (testBit_allPositions text.length i).mpr (Nat.le_trans hm.forward.1 hm.forward.2)
    have hj := (hends.reached _ hall j).mpr ⟨i, hi, hm⟩
    rw [hzero, Nat.zero_testBit] at hj
    cases hj

end Expr

end FieldRules.Pattern
