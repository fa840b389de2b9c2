import FieldRules.Proofs.Interval.Printed
import FieldRules.Proofs.Rule.Representation
import FieldRules.Proofs.Rule.Token

/-!
# `Proofs.Rule.Point` — one millisecond as a literal and as an interval

A rule can name an instant in two ways: by its text in a list of literals, or by an interval from
the text to itself. A list compares texts, and an interval compares the milliseconds of what it has
read. Both cut an instant to its millisecond, the one when it is written and the other when it is
read, so the two rules agree: the text tells two instants apart exactly if their milliseconds do.

Leap seconds are left out. Their text says second 60, and it is read as an instant of the next
minute.

## Contents
- **`text_eq_iff`**: instants of one millisecond have one text, and only these.
- **`Interval.point`** and **`Interval.parse_pointExpression`**, the interval from a text to itself.
- **`point_agrees_with_literal`**.
-/

namespace FieldRules

open Calendar Number

/-! ## The text of a millisecond -/

namespace Calendar.Instant

variable {s t : Instant}

/-- **The text of an instant is read as its millisecond.** -/
theorem readLiteral?_text (regular : t.isLeapSecond = false) :
    readLiteral? t.text.toList = some t.cut := by
  rw [text, String.toList_ofList, readLiteral?_chars regular]

/-- **One text for each millisecond.** -/
theorem text_eq_iff (regular : t.isLeapSecond = false) (regular' : s.isLeapSecond = false) :
    s.text = t.text ↔ s.millis = t.millis := by
  have hnanos := nanos_lt_of_regular regular
  have hnanos' := nanos_lt_of_regular regular'
  rw [text, text, String.ofList_inj, chars_eq_iff,
    shownAlike_iff (endsMinute_of_regular regular') (endsMinute_of_regular regular)]
  unfold millis
  omega

end Calendar.Instant

/-! ## The interval of one millisecond -/

namespace Interval

/-- The range from an instant to itself, with both bounds inside. -/
def point (t : Instant) : Interval :=
  .range (.literal (.time t) true) (.literal (.time t) true) (some .temporal)

/-- The expression for the range from a text in quotes to itself. -/
def pointExpression (written : String) : String :=
  "['" ++ written ++ "', '" ++ written ++ "']"

theorem text_point (t : Instant) : (point t).text = pointExpression t.text := by
  apply String.toList_injective
  simp [point, pointExpression, text, chars, Bound.inclusive, Bound.chars, Scalar.chars, Instant.text]

/-- **The expression from the text of an instant to itself** is read as the range of its
millisecond. -/
theorem parse_pointExpression {t : Instant} (regular : t.isLeapSecond = false) :
    parse (pointExpression t.text) = .ok (point t.cut) := by
  have readable : (Bound.literal (.time t.cut) true).Readable :=
    ⟨t.millis, Instant.ofMillis?_millis regular⟩
  have htext : t.text = t.cut.text :=
    (Instant.text_eq_iff (Instant.isLeapSecond_cut regular) regular).mpr t.millis_cut.symm
  rw [htext, ← text_point, point, parse_text_eq_ok_iff readable readable]
  refine ⟨⟨?_, ?_⟩, rfl⟩
  · rintro d d' ⟨⟩ ⟨⟩
    rfl
  · rw [Bound.reread, reversed?_literal_iff]
    simp [Scalar.reread, Scalar.compare?]

/-- Only instants of its own millisecond lie in the range of an instant. -/
theorem matchesAt_point_iff (t v now : Instant) :
    (point t).matchesAt (.timestamp v) now = true ↔ v.millis = t.millis := by
  have hlimit : (Bound.literal (.time t) true).limit? now = some (.time t) := rfl
  show ((Bound.literal (.time t) true).admits .lower now (.time v) &&
    (Bound.literal (.time t) true).admits .upper now (.time v)) = true ↔ _
  rw [Bool.and_eq_true, admits_of_limit hlimit, admits_of_limit hlimit]
  simp only [Bound.inclusive, and_true]
  omega

end Interval

/-! ## Both rules -/

/-- A list of one text is hit by the instants that are written so. -/
theorem contains_text_iff (written : String) (v : Instant) :
    (LiteralSet.ofList [written]).contains (.timestamp v) = true ↔ v.text = written := by
  rw [LiteralSet.contains_present_iff _ rfl]
  simp [LiteralSet.mem_values_ofList, Value.literalText?, eq_comm]

/-- **Literals and points agree on instants.** The text of an instant outside of leap seconds is
read as the instant cut to its millisecond, and the expression from the text to itself is read as the
range of that millisecond. A rule that lists the text and a rule with the expression both compile,
and both are hit, at whatever time, by exactly the instants of the same millisecond. -/
theorem point_agrees_with_literal {t : Instant} (regular : t.isLeapSecond = false) :
    readLiteral? t.text.toList = some t.cut ∧
    Interval.parse (Interval.pointExpression t.text) = .ok (.point t.cut) ∧
    (∀ r : Rule, r.condition = .values [t.text] →
      ∃ m, Matcher.compile r = .ok m ∧
        ∀ v : Instant, v.isLeapSecond = false → ∀ now,
          (m.hits (.timestamp v) now = true ↔ v.millis = t.millis)) ∧
    ∀ r : Rule, r.condition = .range (Interval.pointExpression t.text) → r.accept = true →
      ∃ m, Matcher.compile r = .ok m ∧
        ∀ v : Instant, v.isLeapSecond = false → ∀ now,
          (m.hits (.timestamp v) now = true ↔ v.millis = t.millis) := by
  have parsed := Interval.parse_pointExpression regular
  refine ⟨Instant.readLiteral?_text regular, parsed, ?_, ?_⟩
  · intro r condition
    have compiled : Matcher.compile r =
        .ok (.literals (.ofList [t.text]) (Matcher.polarityOf r)) := by
      rw [Matcher.compile, condition]
      rfl
    refine ⟨_, compiled, fun v regular' now => ?_⟩
    rw [← Instant.text_eq_iff regular regular']
    exact contains_text_iff t.text v
  · intro r condition accept
    have compiled : Matcher.compile r = .ok (.interval (.point t.cut)) := by
      rw [Matcher.compile, condition]
      dsimp only
      rw [if_pos accept, parsed]
    refine ⟨_, compiled, fun v _ now => ?_⟩
    rw [← t.millis_cut]
    exact Interval.matchesAt_point_iff t.cut v now

/-- A quarter of a second before the year 0, with more digits than a text has. -/
def beforeYearZero : Instant := ⟨-62167219201, 750999999, by decide⟩

/-- The first instant of its millisecond. -/
def quarterBefore : Instant := ⟨-62167219201, 750000000, by decide⟩

/-- The text has a year with a sign. Both rules on it are hit by the first instant of its
millisecond. -/
theorem quarter_before_is_hit :
    beforeYearZero.isLeapSecond = false ∧ quarterBefore.isLeapSecond = false ∧
      beforeYearZero.text = "-0001-12-31 23:59:59.750" ∧
      Interval.parse "['-0001-12-31 23:59:59.750', '-0001-12-31 23:59:59.750']" =
        .ok (.point quarterBefore) ∧
      (∃ m, Matcher.compile ⟨.values ["-0001-12-31 23:59:59.750"], [], true, false⟩ = .ok m ∧
        m.hits (.timestamp quarterBefore) ⟨0, 0, by decide⟩ = true) ∧
      ∃ m, Matcher.compile
          ⟨.range "['-0001-12-31 23:59:59.750', '-0001-12-31 23:59:59.750']", [], true, false⟩ =
          .ok m ∧
        m.hits (.timestamp quarterBefore) ⟨0, 0, by decide⟩ = true := by
  have regular : beforeYearZero.isLeapSecond = false := by decide
  have regular' : quarterBefore.isLeapSecond = false := by decide
  have written : beforeYearZero.text = "-0001-12-31 23:59:59.750" := by decide +kernel
  have same : quarterBefore.millis = beforeYearZero.millis := by decide
  obtain ⟨-, parsed, literal, range⟩ := point_agrees_with_literal regular
  rw [written] at parsed literal range
  refine ⟨regular, regular', written, parsed, ?_, ?_⟩
  · obtain ⟨m, compiled, hits⟩ :=
      literal ⟨.values ["-0001-12-31 23:59:59.750"], [], true, false⟩ rfl
    exact ⟨m, compiled, (hits quarterBefore regular' _).mpr same⟩
  · obtain ⟨m, compiled, hits⟩ := range ⟨.range _, [], true, false⟩ rfl rfl
    exact ⟨m, compiled, (hits quarterBefore regular' _).mpr same⟩

end FieldRules
