import FieldRules.Proofs.Interval.Parsed
import Mathlib

/-!
# `Proofs.Interval.Epoch` — whole numbers in intervals of time

An interval of time takes a whole number for an instant and compares instants by their milliseconds,
so one expects the number itself to be compared. The way there leads through the calendar, which
ends in both directions: a number of milliseconds that the calendar does not reach is no instant,
and lies in no interval of time, be it open on that side or not. Within the calendar the expectation
holds.

## Contents
- **`Value.whole?`**, the whole number that a value holds.
- **`Instant.Reaches`** and **`ofMillis?_eq_some`**: the milliseconds of the calendar, there and
  back.
- **`Bound.AdmitsMillis`** and **`Interval.AdmitsMillis`**: the bounds read as numbers.
- **`matchesAt_whole_iff`**, and **`far_number_lies_nowhere`**, a number above a bound with nothing
  above it.
-/

namespace FieldRules

open Calendar Number

/-! ## Milliseconds of the calendar -/

/-- The whole number that a value holds, with a sign or without one. -/
def Value.whole? : Value → Option Int
  | .int n => some n.toInt
  | .uint n => some n.toNat
  | _ => none

namespace Calendar.Instant

/-- The calendar has an instant for a number of milliseconds. -/
def Reaches (ms : Int) : Prop :=
  earliest * 1000 ≤ ms ∧ ms ≤ latest * 1000 + 999

instance (ms : Int) : Decidable (Reaches ms) :=
  inferInstanceAs (Decidable (_ ∧ _))

/-- Where the calendar reaches, milliseconds make an instant and can be read off it again. -/
theorem ofMillis?_eq_some {ms : Int} (h : Reaches ms) :
    ∃ t, ofMillis? ms = some t ∧ t.millis = ms := by
  obtain ⟨hlo, hhi⟩ := h
  have hvalid : ValidInstant (ms / 1000) ((ms % 1000).toNat * 1000000) := by
    -- a thousand milliseconds are never more nanoseconds than a second has
    refine ⟨?_, ?_, ?_⟩ <;> omega
  refine ⟨⟨_, _, hvalid⟩, of?_of_lt hvalid (by omega), ?_⟩
  show ms / 1000 * 1000 + (((ms % 1000).toNat * 1000000 : Nat) : Int) / 1000000 = ms
  omega

/-- Where the calendar does not reach, there is no instant. -/
theorem ofMillis?_eq_none {ms : Int} (h : ¬Reaches ms) : ofMillis? ms = none := by
  have hinvalid : ¬ValidInstant (ms / 1000) ((ms % 1000).toNat * 1000000) := by
    rintro ⟨hlo, hhi, -⟩
    refine h ⟨?_, ?_⟩ <;> omega
  rw [ofMillis?, of?, dif_neg hinvalid]

/-- The calendar ends long before the numbers of 64 bits do. -/
theorem Reaches.fitsSigned64 {ms : Int} (h : Reaches ms) : fitsSigned64 ms = true := by
  obtain ⟨hlo, hhi⟩ := h
  unfold earliest at hlo
  unfold latest at hhi
  simp only [Number.fitsSigned64, Bool.and_eq_true, decide_eq_true_eq]
  unfold leastSigned64
  omega

end Calendar.Instant

/-- A value that holds a whole number is the instant of so many milliseconds, if there is one. -/
theorem Interval.temporal?_of_whole? {v : Value} {n : Int} (h : v.whole? = some n) :
    Interval.temporal? v = (Instant.ofMillis? n).map .time := by
  cases v with
  | int m =>
      cases h
      rfl
  | uint m =>
      cases h
      rw [Interval.temporal?]
      split
      · rfl
      · next hlarge =>
          have hout : ¬Instant.Reaches m.toNat := fun hreaches => hlarge hreaches.fitsSigned64
          rw [Instant.ofMillis?_eq_none hout]
          rfl
  | _ => cases h

/-! ## Bounds read as numbers -/

/-- The number of milliseconds that a bound of time stands for. An open side stands for none. -/
def Bound.millis? (now : Instant) : Bound → Option Int
  | .unbounded => none
  | .now _ => some now.millis
  | .literal (.time t) _ => some t.millis
  | .literal (.int _) _ => none
  | .literal (.float _) _ => none

/-- A number of milliseconds lies on the inner side of a bound: strictly, or on the bound itself
where the bracket includes it. An open side admits every number. -/
def Bound.AdmitsMillis (b : Bound) (side : Side) (now : Instant) (ms : Int) : Prop :=
  ∀ limit, b.millis? now = some limit →
    (match side with
      | .lower => limit < ms
      | .upper => ms < limit) ∨
    (ms = limit ∧ b.inclusive = true)

/-- A number of milliseconds satisfies both bounds of a range. The past is what lies strictly below
the evaluation instant, the future what lies strictly above it. -/
def Interval.AdmitsMillis (i : Interval) (now : Instant) (ms : Int) : Prop :=
  match i with
  | .past => ms < now.millis
  | .future => now.millis < ms
  | .range lower upper _ => lower.AdmitsMillis .lower now ms ∧ upper.AdmitsMillis .upper now ms

/-- The intervals of time. -/
def Interval.Temporal : Interval → Prop
  | .past => True
  | .future => True
  | .range _ _ domain => domain = some .temporal

/-- An instant on the inner side of a limit. -/
theorem admits_of_limit {b : Bound} {side : Side} {now t limit : Instant}
    (hlimit : b.limit? now = some (.time limit)) :
    b.admits side now (.time t) = true ↔
      (match side with
        | .lower => limit.millis < t.millis
        | .upper => t.millis < limit.millis) ∨
      (t.millis = limit.millis ∧ b.inclusive = true) := by
  rw [Bound.admits, hlimit]
  simp only [Scalar.compare?]
  rcases lt_trichotomy t.millis limit.millis with hlt | heq | hgt
  · rw [compare_lt_iff_lt.mpr hlt]
    cases side
    · simp; omega
    · simp [hlt]
  · rw [compare_eq_iff_eq.mpr heq]
    cases side <;> simp [heq]
  · rw [compare_gt_iff_gt.mpr hgt]
    cases side
    · simp [hgt]
    · simp; omega

/-- **A bound of time admits an instant** if it admits its milliseconds. -/
theorem admits_time_iff {b : Bound} (h : b.domain? ≠ some .numeric) (side : Side)
    (now t : Instant) :
    b.admits side now (.time t) = true ↔ b.AdmitsMillis side now t.millis := by
  have hlimit {limit : Instant} (hb : b.limit? now = some (.time limit))
      (hm : b.millis? now = some limit.millis) :
      b.admits side now (.time t) = true ↔ b.AdmitsMillis side now t.millis := by
    rw [admits_of_limit hb]
    unfold Bound.AdmitsMillis
    simp only [hm, Option.some.injEq, forall_eq']
  cases b with
  | unbounded =>
      refine ⟨fun _ limit hm => ?_, fun _ => rfl⟩
      cases hm
  | now inclusive => exact hlimit rfl rfl
  | literal value inclusive =>
      cases value with
      | int n => exact absurd rfl h
      | float x => exact absurd rfl h
      | time limit => exact hlimit rfl rfl

/-! ## Whole numbers -/

/-- **Whole numbers in intervals of time.** A value that holds a whole number lies in a parsed
interval of time exactly if the calendar reaches that many milliseconds and the number itself, as
milliseconds, satisfies every bound. -/
theorem matchesAt_whole_iff {expression : String} {i : Interval}
    (parsed : Interval.parse expression = .ok i) (temporal : i.Temporal) (now : Instant)
    {v : Value} {n : Int} (whole : v.whole? = some n) :
    i.matchesAt v now = true ↔ Instant.Reaches n ∧ i.AdmitsMillis now n := by
  have hread := Interval.temporal?_of_whole? whole
  by_cases hreaches : Instant.Reaches n
  · obtain ⟨t, ht, hmillis⟩ := Instant.ofMillis?_eq_some hreaches
    rw [ht, Option.map_some] at hread
    simp only [hreaches, true_and]
    cases i with
    | past =>
        simp only [Interval.matchesAt, hread, Option.any_some, Scalar.compare?, decide_eq_true_eq,
          Option.some.injEq, compare_lt_iff_lt, Interval.AdmitsMillis, hmillis]
    | future =>
        simp only [Interval.matchesAt, hread, Option.any_some, Scalar.compare?, decide_eq_true_eq,
          Option.some.injEq, compare_gt_iff_gt, Interval.AdmitsMillis, hmillis]
    | range lower upper domain =>
        obtain ⟨-, -, joined, hdomain⟩ := Interval.joined_of_parse parsed
        obtain rfl : domain = some .temporal := temporal
        obtain ⟨hlower, hupper⟩ :=
          joined.domain?_ne hdomain.symm (show Domain.temporal ≠ .numeric by decide)
        simp only [Interval.matchesAt, Interval.scalarFor?, hread, Option.any_some,
          Bool.and_eq_true, admits_time_iff hlower, admits_time_iff hupper, hmillis,
          Interval.AdmitsMillis]
  · rw [Instant.ofMillis?_eq_none hreaches, Option.map_none] at hread
    simp only [hreaches, false_and, iff_false]
    cases i with
    | past => simp [Interval.matchesAt, hread]
    | future => simp [Interval.matchesAt, hread]
    | range lower upper domain =>
        obtain rfl : domain = some .temporal := temporal
        simp [Interval.matchesAt, Interval.scalarFor?, hread]

/-- A range of time without an upper bound. -/
def sinceSummer : Interval :=
  .range (.literal (.time ⟨1562976000, 0, by decide⟩) true) .unbounded (some .temporal)

theorem parse_sinceSummer : Interval.parse "['2019-07-13', null)" = .ok sinceSummer := by
  cbv

/-- A number of this century lies in it. -/
theorem near_number_lies_above :
    Interval.parse "['2019-07-13', null)" = .ok sinceSummer ∧ sinceSummer.Temporal ∧
      (Value.int 1600000000000).whole? = some 1600000000000 ∧
      sinceSummer.matchesAt (.int 1600000000000) ⟨0, 0, by decide⟩ = true := by
  have temporal : sinceSummer.Temporal := rfl
  refine ⟨parse_sinceSummer, temporal, rfl, ?_⟩
  refine (matchesAt_whole_iff parse_sinceSummer temporal _ rfl).mpr ⟨by decide, ?_, ?_⟩
  · rintro limit hlimit
    cases hlimit
    exact .inl (by decide)
  · rintro limit hlimit
    cases hlimit

/-- **A number above every bound lies nowhere.** The greatest number of 64 bits satisfies the only
bound of the range, and the range does not admit it. -/
theorem far_number_lies_nowhere :
    Interval.parse "['2019-07-13', null)" = .ok sinceSummer ∧ sinceSummer.Temporal ∧
      (Value.int 9223372036854775807).whole? = some 9223372036854775807 ∧
      sinceSummer.AdmitsMillis ⟨0, 0, by decide⟩ 9223372036854775807 ∧
      sinceSummer.matchesAt (.int 9223372036854775807) ⟨0, 0, by decide⟩ = false := by
  refine ⟨parse_sinceSummer, rfl, rfl, ⟨?_, ?_⟩, by decide⟩
  · rintro limit hlimit
    cases hlimit
    exact .inl (by decide)
  · rintro limit hlimit
    cases hlimit

end FieldRules
