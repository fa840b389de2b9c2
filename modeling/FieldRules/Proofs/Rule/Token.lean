import FieldRules.Proofs.Calendar.ReadBack
import FieldRules.Proofs.Number.Characters
import FieldRules.Rule.Matcher

/-!
# `Proofs.Rule.Token` — the word for absence among literals

In a list of literals the word `null` stands for absence, every other text for the values with that
text. The word is kept in the same list as the other texts, and a present value is looked up in the
whole list. So one value more belongs to a set with the word: the string that reads like it. No
number, truth value or instant is written so.

## Contents
- **`StandsFor`**, the values that a list of literals stands for.
- **`literalText?_eq_null_iff`**: only a string has the text of the word.
- **`Matcher.hits_text_iff`**: a present leaf is hit for its text.
- **`literals_admit_iff`**, with **`listed_value_hits`**, and **`null_string_hits`**, the value too
  many.
-/

namespace FieldRules

open Calendar Number

/-- The values that a list of literals stands for: absence by the word for it, a present leaf by any
other text that is its own. -/
def StandsFor (literals : List String) (v : Value) : Prop :=
  if v.isNull then nullLiteral ∈ literals
  else ∃ t ∈ literals, t ≠ nullLiteral ∧ v.literalText? = some t

/-! ## Values with the text of the word -/

theorem Value.eq_null_of_isNull {v : Value} (h : v.isNull = true) : v = .null := by
  cases v with
  | null => rfl
  | _ => cases h

/-- Neither numbers nor instants are written with the letters of the word. -/
theorem ofList_ne_nullLiteral {cs : List Char} (h : 'n' ∉ cs) : String.ofList cs ≠ nullLiteral := by
  intro heq
  have hchars : cs = nullLiteral.toList := by
    rw [← heq, String.toList_ofList]
  rw [hchars] at h
  exact h (by decide)

theorem intText_ne_nullLiteral (n : Int) : Value.intText n ≠ nullLiteral :=
  ofList_ne_nullLiteral fun hmem => ((isNumeral_ofInt n).2 'n' hmem).plain.2.2.2 rfl

/-- The words for what is not finite are other ones. -/
theorem floatText_ne_nullLiteral (x : Binary64) : x.text ≠ nullLiteral := by
  cases x with
  | finite x => exact ofList_ne_nullLiteral fun hmem => ((isNumeral_chars x).2 'n' hmem).plain.2.2.2 rfl
  | nan => decide
  | infinity negative => cases negative <;> decide

theorem instantText_ne_nullLiteral (t : Instant) : t.text ≠ nullLiteral :=
  ofList_ne_nullLiteral fun hmem => (isInstantChar_chars hmem).plain.2 rfl

/-- **Only a string has the text of the word for absence.** -/
theorem literalText?_eq_null_iff {v : Value} :
    v.literalText? = some nullLiteral ↔ v = .str nullLiteral := by
  constructor
  · intro h
    cases v with
    | str s =>
        cases h
        rfl
    | int n => exact absurd (Option.some.inj h) (intText_ne_nullLiteral n.toInt)
    | uint n => exact absurd (Option.some.inj h) (intText_ne_nullLiteral n.toNat)
    | float x => exact absurd (Option.some.inj h) (floatText_ne_nullLiteral x)
    | timestamp t => exact absurd (Option.some.inj h) (instantText_ne_nullLiteral t)
    | bool b =>
        refine absurd (Option.some.inj h) ?_
        cases b <;> decide
    | null => cases h
    | object type fields => cases h
    | seq items => cases h
  · rintro rfl
    rfl

/-! ## Membership -/

namespace LiteralSet

/-- Absence belongs to a set that lists the word for it. -/
theorem contains_null_iff (s : LiteralSet) : s.contains .null = true ↔ nullLiteral ∈ s.values :=
  s.admitsNull_iff

/-- A present value belongs to a set that lists its text. -/
theorem contains_present_iff (s : LiteralSet) {v : Value} (h : v.isNull = false) :
    s.contains v = true ↔ ∃ t ∈ s.values, v.literalText? = some t := by
  unfold contains
  rw [h, if_neg Bool.false_ne_true]
  cases v.literalText? with
  | none => simp
  | some t => simp

end LiteralSet

/-- A rule on literals is compiled to their set. -/
theorem Matcher.eq_literals_of_compile {r : Rule} {literals : List String} {m : Matcher}
    (values : r.condition = .values literals) (compiled : Matcher.compile r = .ok m) :
    m = .literals (.ofList literals) (polarityOf r) := by
  unfold compile at compiled
  rw [values] at compiled
  dsimp only at compiled
  split at compiled
  · cases compiled
  · split at compiled
    · cases compiled
    · cases compiled
      rfl

/-- A rule on literals hits a present leaf if it lists the text of the leaf. -/
theorem Matcher.hits_text_iff {r : Rule} {texts : List String} {m : Matcher}
    (values : r.condition = .values texts) (compiled : compile r = .ok m) {v : Value} {t : String}
    (text : v.literalText? = some t) (now : Instant) : m.hits v now = true ↔ t ∈ texts := by
  have present : v.isNull = false := by
    cases v with
    | null => cases text
    | _ => rfl
  rw [Matcher.eq_literals_of_compile values compiled, hits,
    LiteralSet.contains_present_iff _ present, text]
  constructor
  · rintro ⟨t', ht, heq⟩
    cases heq
    exact LiteralSet.mem_values_ofList.mp ht
  · intro ht
    exact ⟨t, LiteralSet.mem_values_ofList.mpr ht, rfl⟩

/-- **What a set of literals admits.** Besides the values that its list stands for, a set with the
word for absence has the string that reads like the word, and nothing else. Rules on literals hit
just the members of their sets. -/
theorem literals_admit_iff (literals : List String) (v : Value) :
    ((LiteralSet.ofList literals).contains v = true ↔
      StandsFor literals v ∨ (v = .str nullLiteral ∧ nullLiteral ∈ literals)) ∧
    ∀ (r : Rule) (m : Matcher), r.condition = .values literals → Matcher.compile r = .ok m →
      ∀ now, m.hits v now = (LiteralSet.ofList literals).contains v := by
  refine ⟨?_, fun r m values compiled now => ?_⟩
  · rw [← literalText?_eq_null_iff]
    cases hnull : v.isNull with
    | true =>
        obtain rfl := Value.eq_null_of_isNull hnull
        rw [LiteralSet.contains_null_iff, LiteralSet.mem_values_ofList]
        simp [StandsFor, Value.isNull, Value.literalText?]
    | false =>
        have hstands : StandsFor literals v ↔
            ∃ t ∈ literals, t ≠ nullLiteral ∧ v.literalText? = some t := by
          unfold StandsFor
          rw [hnull, if_neg Bool.false_ne_true]
        rw [LiteralSet.contains_present_iff _ hnull, hstands]
        constructor
        · rintro ⟨t, ht, htext⟩
          have hlisted := LiteralSet.mem_values_ofList.mp ht
          by_cases hword : t = nullLiteral
          · exact .inr ⟨hword ▸ htext, hword ▸ hlisted⟩
          · exact .inl ⟨t, hlisted, hword, htext⟩
        · -- the word is looked up like any other text
          rintro (⟨t, hlisted, -, htext⟩ | ⟨htext, hlisted⟩)
          · exact ⟨t, LiteralSet.mem_values_ofList.mpr hlisted, htext⟩
          · exact ⟨nullLiteral, LiteralSet.mem_values_ofList.mpr hlisted, htext⟩
  · rw [Matcher.eq_literals_of_compile values compiled]
    rfl

/-- A rule that admits an open order, or none. -/
def openOrAbsent : Rule where
  condition := .values ["open", "null"]
  groups := []
  accept := true
  disabled := false

/-- An open order is admitted for its own text. -/
theorem listed_value_hits :
    Matcher.compile openOrAbsent = .ok (.literals (.ofList ["open", "null"]) .accept) ∧
      StandsFor ["open", "null"] (.str "open") ∧
      ∀ now, (Matcher.literals (.ofList ["open", "null"]) .accept).hits (.str "open") now = true := by
  have compiled : Matcher.compile openOrAbsent =
      .ok (.literals (.ofList ["open", "null"]) .accept) := rfl
  have stands : StandsFor ["open", "null"] (.str "open") :=
    ⟨"open", by decide, by decide, rfl⟩
  obtain ⟨hcontains, hhits⟩ := literals_admit_iff ["open", "null"] (.str "open")
  refine ⟨compiled, stands, fun now => ?_⟩
  rw [hhits openOrAbsent _ rfl compiled now]
  exact hcontains.mpr (.inl stands)

/-- The string is present, and the list stands for nothing but absence; still the string belongs to
the set, and the compiled rule is hit. -/
theorem null_string_hits :
    ¬StandsFor ["null"] (.str "null") ∧
      (LiteralSet.ofList ["null"]).contains (.str "null") = true ∧
      Matcher.compile ⟨.values ["null"], [], true, false⟩ =
        .ok (.literals (.ofList ["null"]) .accept) ∧
      ∀ now, (Matcher.literals (.ofList ["null"]) .accept).hits (.str "null") now = true := by
  have contained : (LiteralSet.ofList ["null"]).contains (.str "null") = true := by decide
  refine ⟨?_, contained, rfl, fun _ => contained⟩
  rintro ⟨t, hlisted, hother, -⟩
  exact hother (List.mem_singleton.mp hlisted)

end FieldRules
