import FieldRules.Interval.Parse
import FieldRules.Proofs.Text.Reading

/-!
# `Proofs.Interval.Parsed` — what a parsed interval consists of

Reading an expression ends in three checks, each in a place of its own: a literal is a number or an
instant that can be read, two bounds belong to one domain, and two literals stand in order. This
module goes back from a parsed range to what was checked, so that statements about parsed intervals
need not look at characters.

## Contents
- **`Bound.bracketed`**, a bound with another bracket.
- **`Scalar.Readable`** and **`Bound.Readable`**, the literals that can be read, and
  **`Bound.Numeric`**, the bounds of ranges of numbers.
- **`readNumber?_eq_int_iff`** and **`readNumber?_eq_float_iff`**: what is read as either kind of
  number.
- **`join_eq_ok_iff`**, and **`Joined`**, what holds of two bounds that were joined, with
  **`Joined.domain?_eq`**, the one domain of the sides that are not open.
- **`joined_of_parse`**: the bounds of a parsed range are readable and joined, and the range carries
  their domain.
-/

namespace FieldRules

open Calendar Number Text

/-! ## Bounds -/

/-- The bound with the bracket that includes it, or with the one that does not. -/
def Bound.bracketed (inclusive : Bool) : Bound → Bound
  | .unbounded => .unbounded
  | .now _ => .now inclusive
  | .literal value _ => .literal value inclusive

/-- The literals that stand in expressions: whole numbers of 128 bits, finite floating-point
numbers, instants of whole milliseconds. -/
def Scalar.Readable : Scalar → Prop
  | .int n => leastSigned128 ≤ n ∧ n ≤ greatestSigned128
  | .float x => x.isFinite = true
  | .time t => ∃ ms, Instant.ofMillis? ms = some t

/-- The bounds that stand in expressions. -/
def Bound.Readable : Bound → Prop
  | .unbounded => True
  | .now _ => True
  | .literal value _ => value.Readable

namespace Bound

@[simp]
theorem domain?_bracketed (inclusive : Bool) (b : Bound) :
    (b.bracketed inclusive).domain? = b.domain? := by
  cases b <;> rfl

@[simp]
theorem bracketed_inclusive (b : Bound) : b.bracketed b.inclusive = b := by
  cases b <;> rfl

/-- Brackets have no part in the domain. -/
@[simp]
theorem domainOf?_bracketed (lower upper : Bound) (p q : Bool) :
    Interval.domainOf? (lower.bracketed p) (upper.bracketed q) =
      Interval.domainOf? lower upper := by
  simp only [Interval.domainOf?, domain?_bracketed]

/-- Only an open side has no domain. -/
theorem domain?_eq_none_iff {b : Bound} : b.domain? = none ↔ b = .unbounded := by
  cases b <;> simp [domain?]

theorem Readable.bracketed {b : Bound} (h : b.Readable) (inclusive : Bool) :
    (b.bracketed inclusive).Readable := by
  cases b <;> exact h

end Bound

/-! ## Literals -/

namespace Scalar

/-- What is read as a whole number of at most 128 bits. -/
theorem readNumber?_eq_int_iff {cs : List Char} {n : Int} :
    readNumber? cs = some (.int n) ↔
      readInt? cs = some n ∧ leastSigned128 ≤ n ∧ n ≤ greatestSigned128 := by
  rw [← readBetween?_eq_some_iff, readNumber?]
  cases readBetween? leastSigned128 greatestSigned128 cs with
  | some m => simp
  | none => simp

/-- What is read as a floating-point number. -/
theorem readNumber?_eq_float_iff {cs : List Char} {y : Binary64} :
    readNumber? cs = some (.float y) ↔
      (∀ n, readInt? cs = some n → ¬(leastSigned128 ≤ n ∧ n ≤ greatestSigned128)) ∧
        Binary64.read? cs = some y ∧ y.isFinite = true := by
  rw [← readBetween?_eq_none_iff, readNumber?]
  cases readBetween? leastSigned128 greatestSigned128 cs with
  | some m => simp
  | none => simp [Option.filter_eq_some_iff]

theorem readNumber?_ne_time (cs : List Char) (t : Instant) : readNumber? cs ≠ some (.time t) := by
  unfold readNumber?
  split
  · simp
  · simp

end Scalar

/-- A number that is read has at most 128 bits or is finite. -/
theorem Scalar.readable_of_readNumber? {cs : List Char} {x : Scalar}
    (h : Scalar.readNumber? cs = some x) : x.Readable := by
  cases x with
  | int n => exact (readNumber?_eq_int_iff.mp h).2
  | float y => exact (readNumber?_eq_float_iff.mp h).2.2
  | time t => exact absurd h (readNumber?_ne_time cs t)

/-- An instant that is read has been cut to the millisecond. -/
theorem Scalar.readable_of_readLiteral? {cs : List Char} {t : Instant}
    (h : readLiteral? cs = some t) : (Scalar.time t).Readable := by
  obtain ⟨whole, -, hcut⟩ := Option.bind_eq_some_iff.mp h
  exact ⟨whole.millis, hcut⟩

theorem Bound.readable_of_word? {inclusive : Bool} {cs : List Char} {b : Bound}
    (h : Bound.word? inclusive cs = some b) : b.Readable := by
  unfold word? at h
  split at h
  · cases h
    trivial
  · split at h
    · cases h
      trivial
    · cases h

/-- A bound that is read is a word or a readable literal. -/
theorem Bound.readable_of_parse {inclusive : Bool} {cs : List Char} {b : Bound}
    (h : Bound.parse inclusive cs = .ok b) : b.Readable := by
  unfold Bound.parse at h
  dsimp only at h
  split at h
  · cases h
  · split at h
    · split at h
      · next hword =>
          cases h
          exact readable_of_word? hword
      · split at h
        · next hread =>
            cases h
            exact Scalar.readable_of_readLiteral? hread
        · cases h
    · split at h
      · next hword =>
          cases h
          exact readable_of_word? hword
      · split at h
        · next hread =>
            cases h
            exact Scalar.readable_of_readNumber? hread
        · cases h

/-- The bounds of ranges of numbers: open sides and numbers that can stand in expressions. -/
def Bound.Numeric (b : Bound) : Prop :=
  b.Readable ∧ b.domain? ≠ some .temporal

/-- A number as a bound is whole, of at most 128 bits, or finite. -/
theorem Bound.Numeric.cases {b : Bound} (h : b.Numeric) :
    b = .unbounded ∨
      (∃ n inclusive, b = .literal (.int n) inclusive ∧
        leastSigned128 ≤ n ∧ n ≤ greatestSigned128) ∨
      ∃ x inclusive, b = .literal (.float (.finite x)) inclusive := by
  obtain ⟨readable, numeric⟩ := h
  cases b with
  | unbounded => exact .inl rfl
  | now inclusive => exact absurd rfl numeric
  | literal value inclusive =>
      cases value with
      | int n => exact .inr (.inl ⟨n, inclusive, rfl, readable⟩)
      | time t => exact absurd rfl numeric
      | float x =>
          cases x with
          | finite x => exact .inr (.inr ⟨x, inclusive, rfl⟩)
          | nan => cases readable
          | infinity negative => cases readable

theorem Bound.Numeric.bracketed {b : Bound} (h : b.Numeric) (inclusive : Bool) :
    (b.bracketed inclusive).Numeric :=
  ⟨h.1.bracketed inclusive, by rw [Bound.domain?_bracketed]; exact h.2⟩

/-! ## Two bounds -/

theorem reversed?_literal_iff {lo hi : Scalar} {p q : Bool} :
    Interval.reversed? (.literal lo p) (.literal hi q) = none ↔ lo.compare? hi ≠ some .gt := by
  simp [Interval.reversed?]

namespace Interval

/-- What holds of two bounds that make a range: they belong to one domain, and two literals stand in
order. -/
structure Joined (lower upper : Bound) : Prop where
  domains : ∀ d d', lower.domain? = some d → upper.domain? = some d' → d = d'
  ordered : reversed? lower upper = none

theorem join_eq_ok_iff {lower upper : Bound} {i : Interval} :
    join lower upper = .ok i ↔
      Joined lower upper ∧ i = .range lower upper (domainOf? lower upper) := by
  unfold join
  constructor
  · intro h
    split at h
    · cases h
    · next hmixed =>
        split at h
        · cases h
        · next hordered =>
            cases h
            refine ⟨⟨fun d d' hd hd' => ?_, hordered⟩, rfl⟩
            refine Decidable.byContradiction fun hne => hmixed ?_
            simp [hd, hd', hne]
  · rintro ⟨⟨domains, ordered⟩, rfl⟩
    rw [if_neg, ordered]
    rintro ⟨hlower, hupper, hne⟩
    obtain ⟨d, hd⟩ := Option.isSome_iff_exists.mp hlower
    obtain ⟨d', hd'⟩ := Option.isSome_iff_exists.mp hupper
    exact hne (by rw [hd, hd', domains d d' hd hd'])

/-- A side that is not open has the domain of the range. -/
theorem Joined.domain?_eq {lower upper b : Bound} (h : Joined lower upper)
    (hb : b ∈ [lower, upper]) (hne : b ≠ .unbounded) : b.domain? = domainOf? lower upper := by
  have hdomain : b.domain? ≠ none := fun hnone => hne (Bound.domain?_eq_none_iff.mp hnone)
  obtain ⟨d, hd⟩ := Option.ne_none_iff_exists'.mp hdomain
  unfold domainOf?
  rcases List.mem_cons.mp hb with rfl | hb
  · rw [hd, Option.some_or]
  · obtain rfl := List.mem_singleton.mp hb
    cases hd' : lower.domain? with
    | none => rfl
    | some d' => rw [hd, Option.some_or, h.domains d' d hd' hd]

/-- The bounds of a range of one domain are of no other one. -/
theorem Joined.domain?_ne {lower upper : Bound} (h : Joined lower upper) {d d' : Domain}
    (hrange : domainOf? lower upper = some d) (hne : d ≠ d') :
    lower.domain? ≠ some d' ∧ upper.domain? ≠ some d' := by
  have hside {b : Bound} (hb : b ∈ [lower, upper]) : b.domain? ≠ some d' := by
    intro hd
    have hopen : b ≠ .unbounded := by
      rintro rfl
      cases hd
    rw [h.domain?_eq hb hopen, hrange] at hd
    exact hne (Option.some.inj hd)
  exact ⟨hside (by simp), hside (by simp)⟩

/-- A text between brackets is read bound by bound. -/
theorem parseBody_ok {p q : Bool} {body : List Char} {i : Interval}
    (h : parseBody p q body = .ok i) :
    ∃ lower upper, lower.Readable ∧ upper.Readable ∧ join lower upper = .ok i := by
  unfold parseBody at h
  split at h
  · cases h
  · split at h
    · cases h
    · obtain ⟨lower, hlower, hrest⟩ := bind_eq_ok h
      obtain ⟨upper, hupper, hjoin⟩ := bind_eq_ok hrest
      exact ⟨lower, upper, Bound.readable_of_parse hlower, Bound.readable_of_parse hupper, hjoin⟩

/-- **The bounds of a parsed range** can be read, belong to the domain of the range and stand in
order. -/
theorem joined_of_parse {expression : String} {lower upper : Bound} {domain : Option Domain}
    (h : parse expression = .ok (.range lower upper domain)) :
    lower.Readable ∧ upper.Readable ∧ Joined lower upper ∧ domain = domainOf? lower upper := by
  have htrimmed : parseTrimmed (trim expression.toList) = .ok (.range lower upper domain) := by
    unfold parse at h
    split at h
    · next i heq =>
        cases h
        exact heq
    · cases h
  unfold parseTrimmed at htrimmed
  split at htrimmed
  · cases htrimmed
  · split at htrimmed
    · cases htrimmed
    · split at htrimmed
      · split at htrimmed
        · cases htrimmed
        · cases htrimmed
        · obtain ⟨lo, hi, hlo, hhi, hjoin⟩ := parseBody_ok htrimmed
          obtain ⟨joined, heq⟩ := join_eq_ok_iff.mp hjoin
          cases heq
          exact ⟨hlo, hhi, joined, rfl⟩
      · cases htrimmed

end Interval

end FieldRules
