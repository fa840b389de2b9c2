import FieldRules.Proofs.Number.ReadBack
import FieldRules.Proofs.Text.Trimming

/-!
# `Proofs.Number.Characters` — the characters of numbers

A number is written with digits, signs, a point and the letter of an exponent, and only texts of
these characters are read as finite numbers. None of them is a blank or means anything else to the
readers of larger texts, so a number stands by itself wherever it stands.

## Contents
- **`IsNumeralChar`**, and **`IsNumeral`**, a text of one or more such characters.
- **`isNumeral_ofInt`** and **`isNumeral_chars`**: what is written for a number.
- **`isNumeral_of_readInt?`** and **`isNumeral_of_read?`**: what is read as one.
-/

namespace FieldRules.Number

open Text

/-- The characters of numbers. -/
def IsNumeralChar (c : Char) : Prop :=
  c.isDigit = true ∨ c ∈ ['+', '-', '.', 'e', 'E']

instance (c : Char) : Decidable (IsNumeralChar c) :=
  inferInstanceAs (Decidable (_ ∨ _))

/-- A text that consists of characters of numbers, and of at least one. -/
def IsNumeral (cs : List Char) : Prop :=
  cs ≠ [] ∧ ∀ c ∈ cs, IsNumeralChar c

/-- No character of a number means anything else to the reader of an interval. -/
theorem IsNumeralChar.plain {c : Char} (h : IsNumeralChar c) :
    isBlank c = false ∧ c ≠ ',' ∧ c ≠ '\'' ∧ c ≠ 'n' := by
  rcases h with hdigit | hmark
  · refine ⟨isBlank_of_isDigit hdigit, ?_, ?_, ?_⟩ <;>
      · rintro rfl
        cases hdigit
  · simp only [List.mem_cons, List.not_mem_nil, or_false] at hmark
    rcases hmark with rfl | rfl | rfl | rfl | rfl <;> decide

/-- Numbers have no blank around them. -/
theorem IsNumeral.tight {cs : List Char} (h : IsNumeral cs) : Tight cs :=
  Tight.of_plain fun c hc => (h.2 c hc).plain.1

/-! ## Written numbers -/

theorem isNumeralChar_digits {n : Nat} {c : Char} (h : c ∈ digits n) : IsNumeralChar c :=
  .inl (isDigit_of_mem_digits h)

theorem isNumeral_ofInt (n : Int) : IsNumeral (ofInt n) := by
  cases n with
  | ofNat n => exact ⟨digits_ne_nil n, fun c hc => isNumeralChar_digits hc⟩
  | negSucc n =>
      refine ⟨List.cons_ne_nil _ _, fun c hc => ?_⟩
      rcases List.mem_cons.mp hc with rfl | hc
      · exact .inr (by decide)
      · exact isNumeralChar_digits hc

theorem isNumeralChar_positional {a : Nat} {k : Int} {c : Char} (h : c ∈ positional a k) :
    IsNumeralChar c := by
  unfold positional at h
  dsimp only at h
  have hnought {n : Nat} (h : c ∈ List.replicate n '0') : IsNumeralChar c := by
    rw [List.eq_of_mem_replicate h]
    exact .inl rfl
  have hpoint : IsNumeralChar '.' := .inr (by decide)
  split at h
  · exact (List.mem_append.mp h).elim isNumeralChar_digits hnought
  · split at h
    · rcases List.mem_append.mp h with h | h
      · exact isNumeralChar_digits (List.mem_of_mem_take h)
      · rcases List.mem_cons.mp h with rfl | h
        · exact hpoint
        · exact isNumeralChar_digits (List.mem_of_mem_drop h)
    · rcases List.mem_cons.mp h with rfl | h
      · exact .inl rfl
      · rcases List.mem_cons.mp h with rfl | h
        · exact hpoint
        · exact (List.mem_append.mp h).elim hnought isNumeralChar_digits

theorem isNumeral_chars (x : Finite64) : IsNumeral x.chars := by
  have hmagnitude {c : Char} (h : c ∈ x.magnitudeChars) : IsNumeralChar c := by
    unfold Finite64.magnitudeChars at h
    split at h
    · rw [List.mem_singleton.mp h]
      exact .inl rfl
    · exact isNumeralChar_positional h
  obtain ⟨first, rest, hchars, -⟩ := x.magnitudeChars_cons
  rw [x.chars_eq]
  split
  · refine ⟨List.cons_ne_nil _ _, fun c hc => ?_⟩
    rcases List.mem_cons.mp hc with rfl | hc
    · exact .inr (by decide)
    · exact hmagnitude hc
  · refine ⟨?_, fun c hc => hmagnitude hc⟩
    rw [hchars]
    exact List.cons_ne_nil _ _

/-! ## Read numbers -/

/-- A text is what is left when its sign is split off, with the sign in front if there is one. -/
theorem splitSign_cases (cs : List Char) :
    cs = (splitSign cs).2 ∨ cs = '-' :: (splitSign cs).2 ∨ cs = '+' :: (splitSign cs).2 := by
  unfold splitSign
  split
  · exact .inr (.inl rfl)
  · exact .inr (.inr rfl)
  · exact .inl rfl

/-- A number may have a sign in front. -/
theorem IsNumeral.of_splitSign {cs : List Char} (h : IsNumeral (splitSign cs).2) :
    IsNumeral cs := by
  have hsigned (sign : Char) (hsign : sign ∈ ['+', '-', '.', 'e', 'E']) :
      IsNumeral (sign :: (splitSign cs).2) := by
    refine ⟨List.cons_ne_nil _ _, fun c hc => ?_⟩
    rcases List.mem_cons.mp hc with rfl | hc
    · exact .inr hsign
    · exact h.2 c hc
  rcases splitSign_cases cs with heq | heq | heq
  · rw [heq]
    exact h
  · rw [heq]
    exact hsigned '-' (by decide)
  · rw [heq]
    exact hsigned '+' (by decide)

theorem isNumeral_of_readInt? {cs : List Char} {n : Int} (h : readInt? cs = some n) :
    IsNumeral cs := by
  unfold readInt? at h
  dsimp only at h
  split at h
  · cases h
  · next hdigits =>
      simp only [Bool.or_eq_true, not_or, List.isEmpty_iff, Bool.not_eq_true, Bool.not_eq_false',
        List.all_eq_true] at hdigits
      exact IsNumeral.of_splitSign ⟨hdigits.1, fun c hc => .inl (hdigits.2 c hc)⟩

/-- The exponent is a whole number after its letter. -/
theorem isNumeralChar_of_readExponent? {cs : List Char} {e : Int}
    (h : Decimal.readExponent? cs = some e) {c : Char} (hc : c ∈ cs) : IsNumeralChar c := by
  cases cs with
  | nil => cases hc
  | cons letter rest =>
      rw [Decimal.readExponent?] at h
      split at h
      · next hletter =>
          rcases List.mem_cons.mp hc with rfl | hc
          · refine .inr ?_
            rcases hletter with rfl | rfl <;> decide
          · exact (isNumeral_of_readInt? h).2 c hc
      · cases h

/-- A decimal is digits, perhaps a point and more digits, and perhaps an exponent. -/
theorem isNumeral_of_readUnsigned? {negative : Bool} {cs : List Char} {d : Decimal}
    (h : Decimal.readUnsigned? negative cs = some d) : IsNumeral cs := by
  have hparts (ds : List Char) {c : Char} (hc : c ∈ ds)
      (hrest : c ∈ ds.dropWhile Char.isDigit → IsNumeralChar c) : IsNumeralChar c := by
    rw [← List.takeWhile_append_dropWhile (p := Char.isDigit) (l := ds)] at hc
    exact (List.mem_append.mp hc).elim (fun hdigit => .inl (List.mem_takeWhile_imp hdigit)) hrest
  have hne : cs ≠ [] := by
    rintro rfl
    cases h
  refine ⟨hne, fun c hc => hparts cs hc fun hc => ?_⟩
  unfold Decimal.readUnsigned? at h
  dsimp only at h
  split at h
  · next tail hpoint =>
      split at h
      · cases h
      · obtain ⟨e, hexponent, -⟩ := Option.map_eq_some_iff.mp h
        rw [hpoint] at hc
        rcases List.mem_cons.mp hc with rfl | hc
        · exact .inr (by decide)
        · exact hparts tail hc (isNumeralChar_of_readExponent? hexponent)
  · split at h
    · cases h
    · obtain ⟨e, hexponent, -⟩ := Option.map_eq_some_iff.mp h
      exact isNumeralChar_of_readExponent? hexponent hc

/-- The words for what is not finite are apart. -/
theorem isNumeral_of_read? {cs : List Char} {x : Finite64}
    (h : Binary64.read? cs = some (.finite x)) : IsNumeral cs := by
  unfold Binary64.read? Binary64.readWith? at h
  dsimp only at h
  refine IsNumeral.of_splitSign ?_
  split at h
  · next hword =>
      unfold Binary64.word? at hword
      dsimp only at hword
      cases h
      split at hword
      · cases hword
      · split at hword
        · cases hword
        · cases hword
  · obtain ⟨d, hread, -⟩ := Option.map_eq_some_iff.mp h
    exact isNumeral_of_readUnsigned? hread

end FieldRules.Number
