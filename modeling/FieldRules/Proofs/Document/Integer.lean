import FieldRules.Json.Text
import FieldRules.Proofs.Number.Characters
import FieldRules.Yaml.Text

/-!
# `Proofs.Document.Integer` — whole numbers without quotes

Documents of both formats may state a whole number as such. The readers know it by its digits, JSON
by the place of a value and YAML by the text of a plain scalar. Both keep it as a whole number as
far as 64 bits with a sign reach and round it beyond.

## Contents
- **`digits_head`**: the digits of a number begin with a nought only if it is nought.
- **`Literal.ofInteger`**, what a whole number is as a literal, with **`toText_ofInteger_of_fits`**.
- **`Json.takeValue?_ofInt`** and **`Yaml.plainLiteral?_intText`**, the readers.
- **`Bare`**, the content of a document where a whole number stands without quotes, and
  **`Bare.literal?_eq`**.
-/

namespace FieldRules

open Document Number

/-! ## Digits -/

namespace Number

/-- No nought stands in front of other digits. -/
theorem digits_head {n : Nat} {ds : List Char} (h : digits n = '0' :: ds) : n = 0 ∧ ds = [] := by
  induction n using Nat.strongRecOn generalizing ds with
  | ind n ih =>
      rw [digits_eq] at h
      split at h
      · next hn =>
        injection h with hhead htail
        have hvalue := congrArg digitValue hhead
        rw [digitValue_digitChar hn] at hvalue
        exact ⟨hvalue, htail.symm⟩
      · next hn =>
        obtain ⟨d, front, hfront⟩ := List.exists_cons_of_ne_nil (digits_ne_nil (n / 10))
        rw [hfront, List.cons_append] at h
        injection h with hhead _
        subst hhead
        obtain ⟨hzero, -⟩ := ih (n / 10) (by omega) hfront
        omega

theorem digitValue_lt {c : Char} (h : c.isDigit = true) : digitValue c < 10 := by
  unfold Char.isDigit at h
  simp only [Bool.and_eq_true, decide_eq_true_eq] at h
  have hhigh : c.toNat ≤ 57 := UInt32.le_iff_toNat_le.mp h.2
  show c.toNat - 48 < 10
  omega

theorem ofInt_of_nonneg {n : Int} (h : 0 ≤ n) : ofInt n = digits n.natAbs := by
  cases n with
  | ofNat n => rfl
  | negSucc n => exact absurd h (Int.negSucc_not_nonneg n).mp

theorem ofInt_of_neg {n : Int} (h : n < 0) : ofInt n = '-' :: digits n.natAbs := by
  cases n with
  | ofNat n => exact absurd (Int.natCast_nonneg n) (Int.not_le.mpr h)
  | negSucc n => rfl

end Number

/-! ## As a literal -/

/-- What a whole number of 64 bits is as a literal: itself if it fits with a sign, else the
floating-point number nearest to it. -/
def Literal.ofInteger (n : Int) : Literal :=
  if fitsSigned64 n then .int (Int64.ofInt n) else .float (Binary64.ofInt n)

theorem toInt_ofInt_of_fits {n : Int} (h : fitsSigned64 n = true) : (Int64.ofInt n).toInt = n := by
  rw [fitsSigned64, Bool.and_eq_true, decide_eq_true_iff, decide_eq_true_iff] at h
  exact Int64.toInt_ofInt_of_le h.1 (Int.lt_of_le_of_lt h.2 (by decide))

/-- A whole number that fits with a sign keeps its text. -/
theorem Literal.toText_ofInteger_of_fits {n : Int} (h : fitsSigned64 n = true) :
    (ofInteger n).toText = Value.intText n := by
  rw [ofInteger, if_pos h, toText, toInt_ofInt_of_fits h]

/-- Any other whole number has the text of the number it is rounded to. -/
theorem Literal.toText_ofInteger_of_not_fits {n : Int} (h : ¬fitsSigned64 n = true) :
    (ofInteger n).toText = (Binary64.ofInt n).text := by
  rw [ofInteger, if_neg h, toText]

/-! ## JSON texts -/

namespace Json

/-- What comes after a number does not go on with it. -/
def NumberEnds (rest : List Char) : Prop :=
  ∀ c ∈ rest.head?, c.isDigit = false ∧ c ≠ '.' ∧ c ≠ 'e' ∧ c ≠ 'E'

variable {rest : List Char}

theorem takeDigits?_digits (n : Nat) (ends : NumberEnds rest) :
    takeDigits? (digits n ++ rest) = some (digits n, rest) := by
  obtain ⟨htake, hdrop⟩ := takeWhile_digits_append
    (fun c (hc : c ∈ digits n) => isDigit_of_mem_digits hc) (fun c hc => (ends c hc).1)
  unfold takeDigits?
  dsimp only
  rw [htake, hdrop, if_neg]
  rw [List.isEmpty_iff]
  exact digits_ne_nil n

theorem takeWhole?_digits (n : Nat) (ends : NumberEnds rest) :
    takeWhole? (digits n ++ rest) = some (digits n, rest) := by
  have htaken := takeDigits?_digits n ends
  obtain ⟨d, ds, hds⟩ := List.exists_cons_of_ne_nil (digits_ne_nil n)
  by_cases hd : d = '0'
  · subst hd
    obtain ⟨-, rfl⟩ := digits_head hds
    have hnone : rest.head?.any Char.isDigit = false := by
      rw [Option.any_eq_false]
      intro c hc
      rw [(ends c hc).1]
    rw [hds]
    show (if rest.head?.any Char.isDigit then none else some (['0'], rest)) = _
    rw [hnone, if_neg Bool.false_ne_true]
  · rw [hds, List.cons_append] at htaken ⊢
    unfold takeWhole?
    split
    · next heq => exact absurd (List.cons.inj heq).1 hd
    · exact htaken

theorem takeFraction?_of_ends (ends : NumberEnds rest) : takeFraction? rest = some ([], rest) := by
  unfold takeFraction?
  split
  · next cs => exact absurd rfl (ends '.' rfl).2.1
  · rfl

theorem takeExponent?_of_ends (ends : NumberEnds rest) :
    takeExponent? rest = some (none, rest) := by
  cases rest with
  | nil => rfl
  | cons c cs =>
      obtain ⟨-, -, hlower, hupper⟩ := ends c rfl
      rw [takeExponent?, if_neg]
      rintro (heq | heq)
      · exact hlower heq
      · exact hupper heq

theorem takeNumeral?_ofInt (n : Int) (ends : NumberEnds rest) :
    takeNumeral? (ofInt n ++ rest) =
      some (⟨decide (n < 0), digits n.natAbs, [], 0, true⟩, rest) := by
  unfold takeNumeral?
  by_cases hn : n < 0
  · rw [ofInt_of_neg hn, decide_eq_true hn]
    simp [takeWhole?_digits _ ends, takeFraction?_of_ends ends, takeExponent?_of_ends ends]
  · rw [ofInt_of_nonneg (Int.not_lt.mp hn), decide_eq_false hn]
    split
    next negative cs heq =>
      split at heq
      · -- digits do not begin with a sign
        next tl hsign =>
        obtain ⟨d, ds, hds⟩ := List.exists_cons_of_ne_nil (digits_ne_nil n.natAbs)
        have hd : d.isDigit = true := isDigit_of_mem_digits (hds ▸ List.mem_cons_self)
        rw [hds, List.cons_append] at hsign
        rw [(List.cons.inj hsign).1] at hd
        cases hd
      · cases heq
        simp [takeWhole?_digits _ ends, takeFraction?_of_ends ends, takeExponent?_of_ends ends]

/-- Digits can be taken in up to the end if the number fits. -/
theorem absorb_of_fits {ds : List Char} {start : Nat}
    (h : fitsUnsigned64 (ds.foldl (fun n d => 10 * n + digitValue d) start : Nat) = true) :
    absorb start ds = (ds.foldl (fun n d => 10 * n + digitValue d) start, []) := by
  have grows (ds : List Char) (m : Nat) :
      m ≤ ds.foldl (fun n d => 10 * n + digitValue d) m := by
    induction ds generalizing m with
    | nil => exact Nat.le_refl m
    | cons d ds ih => exact Nat.le_trans (by omega) (ih (10 * m + digitValue d))
  induction ds generalizing start with
  | nil => rfl
  | cons d ds ih =>
      rw [List.foldl_cons] at h
      have hnext : fitsUnsigned64 (10 * start + digitValue d : Nat) = true := by
        have hle := grows ds (10 * start + digitValue d)
        simp only [fitsUnsigned64, Bool.and_eq_true, decide_eq_true_eq] at h ⊢
        omega
      rw [absorb, List.foldl_cons, if_pos hnext]
      exact ih h

/-- **The digits of a whole number of 64 bits** have it as their value. -/
theorem json?_integer {n : Int} (low : leastSigned64 ≤ n) (high : n ≤ 0xFFFFFFFFFFFFFFFF) :
    Numeral.json? ⟨decide (n < 0), digits n.natAbs, [], 0, true⟩ = some (.int n) := by
  have hfits : fitsUnsigned64 (n.natAbs : Int) = true := by
    unfold leastSigned64 at low
    simp only [fitsUnsigned64, Bool.and_eq_true, decide_eq_true_eq]
    omega
  have habsorb : absorb 0 (digits n.natAbs) = (n.natAbs, []) := by
    have hvalue : (digits n.natAbs).foldl (fun n d => 10 * n + digitValue d) 0 = n.natAbs :=
      value_digits n.natAbs
    rw [absorb_of_fits (by rw [hvalue]; exact hfits), hvalue]
  have hwhole : (if decide (n < 0) = true then -(n.natAbs : Int) else n.natAbs) = n := by
    by_cases hn : n < 0
    · rw [decide_eq_true hn, if_pos rfl]
      omega
    · rw [decide_eq_false hn, if_neg Bool.false_ne_true]
      omega
  have hnought : (!decide (n < 0) || decide (n ≠ 0)) = true := by
    rw [Bool.or_eq_true, Bool.not_eq_true', decide_eq_false_iff_not, decide_eq_true_iff]
    omega
  unfold Numeral.json?
  dsimp only
  rw [habsorb]
  dsimp only
  rw [hwhole, hnought, decide_eq_true low]
  rfl

theorem literal?_intAtom (n : Int) : (intAtom n).literal? = some (Literal.ofInteger n) := by
  unfold intAtom Literal.ofInteger
  by_cases h : fitsSigned64 n = true
  · simp only [if_pos h]
  · simp only [if_neg h]

/-- **Where a JSON text has a value,** a whole number of 64 bits is read by its digits. -/
theorem takeValue?_ofInt {n : Int} (low : leastSigned64 ≤ n) (high : n ≤ 0xFFFFFFFFFFFFFFFF)
    {cs : List Char} (here : skipSpace cs = ofInt n ++ rest) (ends : NumberEnds rest) (fuel : Nat) :
    takeValue? (fuel + 1) cs = some (.int n, rest) := by
  have hnumeral := isNumeral_ofInt n
  obtain ⟨c, tl, hcons⟩ := List.exists_cons_of_ne_nil hnumeral.1
  have hchar : IsNumeralChar c := hnumeral.2 c (hcons ▸ List.mem_cons_self)
  have hne (d : Char) (hd : ¬IsNumeralChar d) : c ≠ d := by
    rintro rfl
    exact hd hchar
  have htake := takeNumeral?_ofInt n ends
  rw [hcons, List.cons_append] at here htake
  rw [takeValue?, here]
  dsimp only
  rw [if_neg (hne '"' (by decide)), if_neg (hne '[' (by decide)),
    if_neg (hne '\x7b' (by decide)), if_neg (hne 'n' (by decide)),
    if_neg (hne 't' (by decide)), if_neg (hne 'f' (by decide)), htake]
  show (do return (← Numeral.json? _, rest) : Option (Json × List Char)) = _
  rw [json?_integer low high]
  rfl

end Json

/-! ## YAML scalars -/

namespace Yaml

theorem isPaddedCode_ofInt (n : Int) : isPaddedCode (ofInt n) = false := by
  unfold isPaddedCode
  rw [splitSign_ofInt]
  split
  · next d ds heq =>
    obtain ⟨-, hnil⟩ := digits_head heq
    cases hnil
  · rfl

theorem hexDigit?_of_digit {c : Char} (h : c.isDigit = true) :
    Json.hexDigit? c = some (digitValue c) := by
  rw [Json.hexDigit?, if_pos h]
  rfl

theorem readDigits?_digits (n : Nat) : readDigits? 10 (digits n) = some n := by
  have hvalues {ds : List Char} (hds : ∀ c ∈ ds, c.isDigit = true) :
      ds.mapM Json.hexDigit? = some (ds.map digitValue) := by
    induction ds with
    | nil => rfl
    | cons c ds ih =>
        obtain ⟨hc, hrest⟩ := List.forall_mem_cons.mp hds
        rw [List.mapM_cons, hexDigit?_of_digit hc, ih hrest]
        rfl
  have hdigit (c : Char) (hc : c ∈ digits n) : c.isDigit = true := isDigit_of_mem_digits hc
  have hbelow : ((digits n).map digitValue).all (· < 10) = true := by
    rw [List.all_eq_true]
    intro d hd
    obtain ⟨c, hc, rfl⟩ := List.mem_map.mp hd
    exact decide_eq_true (digitValue_lt (hdigit c hc))
  have hempty : (digits n).isEmpty = false := by
    rw [List.isEmpty_eq_false_iff]
    exact digits_ne_nil n
  unfold readDigits?
  rw [hempty, hvalues hdigit]
  show (if ((digits n).map digitValue).all (· < 10) = true then
    some (((digits n).map digitValue).foldl (fun n d => 10 * n + d) 0) else none) = _
  rw [if_pos hbelow, List.foldl_map]
  exact congrArg some (value_digits n)

theorem readMagnitude?_digits (n : Nat) : readMagnitude? (digits n) = some n := by
  unfold readMagnitude?
  split
  · next heq =>
    obtain ⟨-, hnil⟩ := digits_head heq
    cases hnil
  · next heq =>
    obtain ⟨-, hnil⟩ := digits_head heq
    cases hnil
  · next heq =>
    obtain ⟨-, hnil⟩ := digits_head heq
    cases hnil
  · exact readDigits?_digits n

theorem readWhole?_ofInt (n : Int) : readWhole? (ofInt n) = some n := by
  unfold readWhole?
  rw [isPaddedCode_ofInt, if_neg Bool.false_ne_true, splitSign_ofInt]
  by_cases hn : n < 0
  · rw [decide_eq_true hn]
    dsimp only
    rw [readMagnitude?_digits]
    show some (-(n.natAbs : Int)) = some n
    congr 1
    omega
  · rw [decide_eq_false hn]
    dsimp only
    rw [readMagnitude?_digits]
    show some (n.natAbs : Int) = some n
    congr 1
    omega

/-- A whole number has no other text than its digits. -/
theorem intText_ne {n : Int} {s : String} {c : Char} (hc : c ∈ s.toList) (h : ¬IsNumeralChar c) :
    Value.intText n ≠ s := by
  rintro rfl
  rw [Value.intText, String.toList_ofList] at hc
  exact h ((isNumeral_ofInt n).2 c hc)

theorem bool?_intText (n : Int) : bool? (Value.intText n) = none := by
  unfold bool?
  rw [if_neg, if_neg]
  · rintro (h | h | h)
    · exact intText_ne (c := 'f') (by decide) (by decide) h
    · exact intText_ne (c := 'F') (by decide) (by decide) h
    · exact intText_ne (c := 'F') (by decide) (by decide) h
  · rintro (h | h | h)
    · exact intText_ne (c := 't') (by decide) (by decide) h
    · exact intText_ne (c := 'T') (by decide) (by decide) h
    · exact intText_ne (c := 'T') (by decide) (by decide) h

theorem isNull_intText (n : Int) : isNull (Value.intText n) = false := by
  simp only [isNull, Bool.or_eq_false_iff, decide_eq_false_iff_not]
  refine ⟨⟨⟨?_, ?_⟩, ?_⟩, ?_⟩
  · exact intText_ne (c := '~') (by decide) (by decide)
  · exact intText_ne (c := 'n') (by decide) (by decide)
  · exact intText_ne (c := 'N') (by decide) (by decide)
  · exact intText_ne (c := 'N') (by decide) (by decide)

theorem isEmpty_intText (n : Int) : (Value.intText n).isEmpty = false := by
  rw [Bool.eq_false_iff]
  intro h
  have hchars : ofInt n = "".toList := by
    rw [← String.isEmpty_iff.mp h, Value.intText, String.toList_ofList]
  exact (isNumeral_ofInt n).1 hchars

/-- A whole number of 64 bits is a literal. -/
theorem intLiteral?_eq {n : Int} (low : leastSigned64 ≤ n) (high : n ≤ 0xFFFFFFFFFFFFFFFF) :
    intLiteral? n = some (Literal.ofInteger n) := by
  unfold intLiteral? Literal.ofInteger
  by_cases hsigned : fitsSigned64 n = true
  · rw [if_pos hsigned, if_pos hsigned]
  · rw [if_neg hsigned, if_neg hsigned, if_pos]
    -- what fits without a sign only is not negative
    rw [fitsSigned64, Bool.and_eq_true, decide_eq_true_iff, decide_eq_true_iff] at hsigned
    rw [fitsUnsigned64, Bool.and_eq_true, decide_eq_true_iff, decide_eq_true_iff]
    exact ⟨by omega, high⟩

/-- **The text of a whole number of 64 bits** means the number. -/
theorem plainLiteral?_intText {n : Int} (low : leastSigned64 ≤ n) (high : n ≤ 0xFFFFFFFFFFFFFFFF) :
    plainLiteral? (Value.intText n) = some (Literal.ofInteger n) := by
  have hwide : fitsWide n = true := by
    rw [fitsWide, Bool.and_eq_true, decide_eq_true_iff, decide_eq_true_iff]
    exact ⟨Int.le_trans (by decide) low, Int.le_trans high (by decide)⟩
  have hread : (readWhole? (Value.intText n).toList).filter fitsWide = some n := by
    rw [Value.intText, String.toList_ofList, readWhole?_ofInt, Option.filter_some, if_pos hwide]
  unfold plainLiteral?
  rw [isEmpty_intText, isNull_intText, if_neg (by decide), bool?_intText]
  dsimp only
  rw [hread]
  exact intLiteral?_eq low high

end Yaml

/-! ## Content of documents -/

/-- **A whole number without quotes** in a document: the value where a JSON text goes on with the
digits of the number, and a plain scalar of a YAML text that has no tag and consists of them. -/
inductive Bare (n : Int) : Node → Prop
  | json {fuel : Nat} {cs rest after : List Char} {j : Json}
      (here : Json.skipSpace cs = ofInt n ++ rest) (ends : Json.NumberEnds rest)
      (read : Json.takeValue? fuel cs = some (j, after)) : Bare n j.node
  | yaml {anchors : List (Nat × Yaml.Tree)} {depth left left' : Nat} {anchor : Option Nat}
      {item : Node}
      (read : Yaml.expand? anchors depth left (.scalar anchor none .plain (Value.intText n)) =
        some (item, left')) : Bare n item

/-- Where any literal is welcome, a whole number is read as one. -/
theorem Bare.literal?_eq {n : Int} {item : Node} (bare : Bare n item) (low : leastSigned64 ≤ n)
    (high : n ≤ 0xFFFFFFFFFFFFFFFF) : item.scalar? Atom.literal? = some (Literal.ofInteger n) := by
  cases bare with
  | @json fuel cs rest after j here ends read =>
      cases fuel with
      | zero => cases read
      | succ fuel =>
          rw [Json.takeValue?_ofInt low high here ends] at read
          cases read
          exact Json.literal?_intAtom n
  | yaml read =>
      rw [Yaml.expand?] at read
      cases read
      exact Yaml.plainLiteral?_intText low high

end FieldRules
