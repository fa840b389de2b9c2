import FieldRules.Proofs.Calendar.ReadBack
import FieldRules.Proofs.Interval.Layout

/-!
# `Proofs.Interval.Printed` — reading the text of an interval

The text of a range holds a comma only between its bounds and a blank only after the comma or inside
of quotes, so the reader takes it apart where the writer put it together. The words, whole numbers
and instants of whole milliseconds are read as they were. A floating-point number is written without
a point where its shortest decimal is whole, and then it is read as a whole number, which may be a
different one; otherwise it is read as it was.

So an interval without floating-point bounds comes back as it was, and for one with such bounds it
remains to say what the numbers have become.

## Contents
- **`Scalar.reread`** and **`Bound.reread`**: what the text of a bound is read as.
- **`parse_chars`**: a bound is read as `Bound.reread` says.
- **`parse_text_eq_ok_iff`**: the text of a range is read as the range of these bounds, if they can
  be joined.
- **`parse_text_of_parse`**: without a floating-point bound, what was parsed is parsed again from its
  text. **`distant_days_read_back`** is a range of days at the two ends of the calendar.
-/

namespace FieldRules

open Calendar Number Text

/-! ## Reading a bound again -/

/-- What the text of a literal is read as. -/
def Scalar.reread : Scalar → Scalar
  | .int n => .int n
  | .float x =>
    match readBetween? leastSigned128 greatestSigned128 x.chars with
    | some n => .int n
    | none => .float x
  | .time t => .time t

theorem Scalar.domain_reread (s : Scalar) : s.reread.domain = s.domain := by
  cases s with
  | int n => rfl
  | time t => rfl
  | float x =>
      unfold reread
      dsimp only
      split <;> rfl

/-- What the text of a bound is read as. -/
def Bound.reread : Bound → Bound
  | .unbounded => .unbounded
  | .now inclusive => .now inclusive
  | .literal value inclusive => .literal value.reread inclusive

namespace Bound

@[simp]
theorem inclusive_reread (b : Bound) : b.reread.inclusive = b.inclusive := by
  cases b <;> rfl

@[simp]
theorem domain?_reread (b : Bound) : b.reread.domain? = b.domain? := by
  cases b with
  | unbounded => rfl
  | now inclusive => rfl
  | literal value inclusive => exact congrArg some value.domain_reread

end Bound

/-! ## Reading a bound -/

/-- A number that can stand in an expression is read as `reread` says. -/
theorem Scalar.readNumber?_chars {s : Scalar} (h : s.Readable) (hdomain : s.domain = .numeric) :
    Scalar.readNumber? s.chars = some s.reread := by
  cases s with
  | time t => cases hdomain
  | int n =>
      have hrange : leastSigned128 ≤ n ∧ n ≤ greatestSigned128 := h
      exact readNumber?_eq_int_iff.mpr ⟨readInt?_ofInt n, hrange⟩
  | float x =>
      cases x with
      | nan => cases h
      | infinity negative => cases h
      | finite x =>
          show Scalar.readNumber? x.chars = some (reread (.float (.finite x)))
          have hchars : (Binary64.finite x).chars = x.chars := rfl
          unfold readNumber? reread
          dsimp only
          rw [hchars]
          cases readBetween? leastSigned128 greatestSigned128 x.chars with
          | some n => rfl
          | none =>
              dsimp only
              rw [read?_chars]
              rfl

/-- A number that can stand in an expression is written as one. -/
theorem Scalar.isNumeral_chars {s : Scalar} (h : s.Readable) (hdomain : s.domain = .numeric) :
    IsNumeral s.chars := by
  cases s with
  | time t => cases hdomain
  | int n => exact isNumeral_ofInt n
  | float x =>
      cases x with
      | nan => cases h
      | infinity negative => cases h
      | finite x => exact Number.isNumeral_chars x

namespace Bound

/-- No bound is written with a comma. -/
theorem comma_not_mem_chars {b : Bound} (h : b.Readable) : ',' ∉ b.chars := by
  cases b with
  | unbounded => decide
  | now inclusive => simp [chars]
  | literal value inclusive =>
      have hvalue : value.Readable := h
      intro hmem
      cases value with
      | int n => exact ((Scalar.isNumeral_chars hvalue rfl).2 ',' hmem).plain.2.1 rfl
      | float x => exact ((Scalar.isNumeral_chars hvalue rfl).2 ',' hmem).plain.2.1 rfl
      | time t =>
          have hinside : ',' ∈ t.chars := by
            simpa [chars, Scalar.chars] using hmem
          exact (isInstantChar_chars hinside).plain.1 rfl

/-- The text of a number is read as `reread` says. -/
theorem parse_chars_number {value : Scalar} (h : value.Readable) (hdomain : value.domain = .numeric)
    (inclusive : Bool) :
    Bound.parse inclusive value.chars = .ok (.literal value.reread inclusive) := by
  rw [parse_numeral (Scalar.isNumeral_chars h hdomain), Scalar.readNumber?_chars h hdomain]

/-- The text of an instant of whole milliseconds is read as the instant. -/
theorem parse_chars_instant {t : Instant} (h : (Scalar.time t).Readable) (inclusive : Bool) :
    Bound.parse inclusive (Scalar.time t).chars = .ok (.literal (.time t) inclusive) := by
  obtain ⟨ms, hms⟩ := h
  have hword : word? inclusive t.chars = none :=
    word?_of_not_mem (fun hmem => (isInstantChar_chars hmem).plain.2 rfl) inclusive
  have hquoted := parse_inQuotes t.chars inclusive
  rw [trim_of_tight (tight_chars t), hword, readLiteral?_chars_of_ofMillis? hms] at hquoted
  exact hquoted

/-- **A bound is read again** as `reread` says, with the bracket that is read with it. -/
theorem parse_chars {b : Bound} (h : b.Readable) (inclusive : Bool) :
    Bound.parse inclusive b.chars = .ok (b.reread.bracketed inclusive) := by
  cases b with
  | unbounded => cases inclusive <;> cbv
  | now bracket => cases inclusive <;> cbv
  | literal value bracket =>
      have hvalue : value.Readable := h
      cases value with
      | int n => exact parse_chars_number hvalue rfl inclusive
      | float x => exact parse_chars_number hvalue rfl inclusive
      | time t => exact parse_chars_instant hvalue inclusive

end Bound

/-! ## Reading an interval -/

namespace Interval

/-- Bounds that are read again belong to the same domain. -/
theorem domainOf?_reread (lower upper : Bound) :
    domainOf? lower.reread upper.reread = domainOf? lower upper := by
  simp only [domainOf?, Bound.domain?_reread]

/-- **The text of a range is read** as the range of the bounds that are read again, if these can be
joined. -/
theorem parse_text_eq_ok_iff {lower upper : Bound} (hlower : lower.Readable)
    (hupper : upper.Readable) {domain : Option Domain} {j : Interval} :
    parse (range lower upper domain).text = .ok j ↔
      Joined lower.reread upper.reread ∧
        j = .range lower.reread upper.reread (domainOf? lower upper) := by
  have hspace : ',' ∉ ' ' :: upper.chars := by
    rw [List.mem_cons, not_or]
    exact ⟨by decide, Bound.comma_not_mem_chars hupper⟩
  have hpadded := Bound.parse_padded Blanks.space Blanks.nil upper.inclusive upper.chars
  rw [List.append_nil, List.singleton_append] at hpadded
  have hbracket (b : Bound) : b.reread.bracketed b.inclusive = b.reread := by
    rw [← b.inclusive_reread, Bound.bracketed_inclusive]
  have hread := parseTrimmed_range Blanks.nil Blanks.nil lower.inclusive upper.inclusive
    (Bound.comma_not_mem_chars hlower) hspace
  rw [hpadded, Bound.parse_chars hlower, Bound.parse_chars hupper, hbracket, hbracket] at hread
  have htext : (range lower upper domain).text.toList =
      [] ++ openingOf lower.inclusive :: lower.chars ++
        ',' :: (' ' :: upper.chars ++ closingOf upper.inclusive :: []) := by
    simp [text, chars, openingOf, closingOf]
  have hjoin := hread.trans (rfl : _ = join lower.reread upper.reread)
  rw [← domainOf?_reread, ← join_eq_ok_iff, parse_eq, htext, hjoin]
  cases join lower.reread upper.reread with
  | ok i => simp [Except.mapError]
  | error fault => simp [Except.mapError]

end Interval

/-! ## Intervals without floating-point bounds -/

/-- A bound that is a floating-point number. -/
def Bound.IsFloat : Bound → Prop
  | .literal (.float _) _ => True
  | _ => False

/-- No bound of the interval is a floating-point number. -/
def Interval.FloatFree : Interval → Prop
  | .range lower upper _ => ¬lower.IsFloat ∧ ¬upper.IsFloat
  | .past => True
  | .future => True

/-- All other bounds are read as they were. -/
theorem Bound.reread_of_not_isFloat {b : Bound} (h : ¬b.IsFloat) : b.reread = b := by
  cases b with
  | unbounded => rfl
  | now inclusive => rfl
  | literal value inclusive =>
      cases value with
      | int n => rfl
      | time t => rfl
      | float x => exact absurd trivial h

/-- **Without a floating-point bound, an interval is read again from its text:** the same words,
whole numbers and instants, with the same brackets. -/
theorem parse_text_of_parse {expression : String} {i : Interval}
    (parsed : Interval.parse expression = .ok i) (floatFree : i.FloatFree) :
    Interval.parse i.text = .ok i := by
  cases i with
  | past => decide +kernel
  | future => decide +kernel
  | range lower upper domain =>
      obtain ⟨readableLower, readableUpper, joined, rfl⟩ := Interval.joined_of_parse parsed
      obtain ⟨hlower, hupper⟩ := floatFree
      have hreads := @Interval.parse_text_eq_ok_iff lower upper readableLower readableUpper
        (Interval.domainOf? lower upper) (.range lower upper (Interval.domainOf? lower upper))
      rw [Bound.reread_of_not_isFloat hlower, Bound.reread_of_not_isFloat hupper] at hreads
      exact hreads.mpr ⟨joined, rfl⟩

/-- From the first day of the calendar into a leap second of this century. -/
def longAgo : Interval :=
  .range (.literal (.time ⟨-8334601228800, 0, by decide⟩) true)
    (.literal (.time ⟨1483228800, 500000000, by decide⟩) false) (some .temporal)

/-- The year before the common era keeps its sign. The leap second has run on into the next minute,
and the digits beyond the millisecond are gone. -/
theorem distant_days_read_back :
    Interval.parse " [ '-262143-01-01' ,'2016-12-31 23:59:60.50099')" = .ok longAgo ∧
      longAgo.FloatFree ∧
      longAgo.text = "['-262143-01-01 00:00:00.000', '2017-01-01 00:00:00.500')" ∧
      Interval.parse longAgo.text = .ok longAgo := by
  have parsed : Interval.parse " [ '-262143-01-01' ,'2016-12-31 23:59:60.50099')" =
      .ok longAgo := by decide +kernel
  have floatFree : longAgo.FloatFree := ⟨id, id⟩
  exact ⟨parsed, floatFree, by decide +kernel, parse_text_of_parse parsed floatFree⟩

end FieldRules
