import FieldRules.Calendar.Date

/-!
# `FieldRules.Calendar.Instant` — instants of universal time

An instant is a second with nanoseconds. A leap second is the second before it with a thousand
million nanoseconds too many. The calendar has leap seconds at the end of a minute only, and
instants are read and made accordingly; but any instant can be set to so many nanoseconds.

## Contents
- **`Instant`**, a second since the start of 1970 with nanoseconds.
- **`Instant.EndsMinute`**, that a leap second stands where the calendar has one, and
  **`Instant.of?`**, which makes no other.
- **`Instant.millis`** and **`Instant.ofMillis?`**, the passage to and from milliseconds, which is
  how instants are compared.
-/

namespace FieldRules.Calendar

/-- The first second of the calendar, 1 January of year −262143. -/
def earliest : Int := -8334601228800

/-- The last second of the calendar, 31 December of year 262142. -/
def latest : Int := 8210266876799

/-- The seconds and nanoseconds that make an instant. Any second may carry a leap second. -/
def ValidInstant (seconds : Int) (nanos : Nat) : Prop :=
  earliest ≤ seconds ∧ seconds ≤ latest ∧ nanos < 2000000000

instance (seconds : Int) (nanos : Nat) : Decidable (ValidInstant seconds nanos) :=
  inferInstanceAs (Decidable (_ ∧ _ ∧ _))

/-- An instant of universal time. -/
structure Instant where
  seconds : Int
  nanos : Nat
  valid : ValidInstant seconds nanos
  deriving DecidableEq, Repr

namespace Instant

/-- Whether the instant lies in a leap second. -/
def isLeapSecond (t : Instant) : Bool :=
  1000000000 ≤ t.nanos

/-- A leap second stands at the end of a minute. -/
def EndsMinute (t : Instant) : Prop :=
  t.isLeapSecond = true → t.seconds % 60 = 59

instance (t : Instant) : Decidable t.EndsMinute :=
  inferInstanceAs (Decidable (_ → _))

/-- The instant with the given parts, if there is one. No leap second is made within a minute. -/
def of? (seconds : Int) (nanos : Nat) : Option Instant :=
  if h : ValidInstant seconds nanos then
    let t : Instant := ⟨seconds, nanos, h⟩
    if t.EndsMinute then some t else none
  else none

/-- Parts that exist make an instant, outside of leap seconds. -/
theorem of?_of_lt {seconds : Int} {nanos : Nat} (h : ValidInstant seconds nanos)
    (regular : nanos < 1000000000) : of? seconds nanos = some ⟨seconds, nanos, h⟩ := by
  have hends : EndsMinute ⟨seconds, nanos, h⟩ := fun hleap =>
    absurd (of_decide_eq_true hleap) (Nat.not_le.mpr regular)
  rw [of?, dif_pos h]
  exact if_pos hends

/-- An instant that is made has the given parts, and a leap second at the end of a minute only. -/
theorem of?_eq_some {seconds : Int} {nanos : Nat} {t : Instant} (h : of? seconds nanos = some t) :
    t.seconds = seconds ∧ t.nanos = nanos ∧ t.EndsMinute := by
  unfold of? at h
  split at h
  · next hvalid =>
      obtain ⟨hends, rfl⟩ : EndsMinute ⟨seconds, nanos, hvalid⟩ ∧ ⟨seconds, nanos, hvalid⟩ = t := by
        simpa using h
      exact ⟨rfl, rfl, hends⟩
  · cases h

/-- Milliseconds since the start of 1970, rounded down. -/
def millis (t : Instant) : Int :=
  t.seconds * 1000 + t.nanos / 1000000

/-- The instant of a number of milliseconds, if the calendar reaches that far. -/
def ofMillis? (ms : Int) : Option Instant :=
  of? (ms / 1000) ((ms % 1000).toNat * 1000000)

example : earliest = Date.toDay ⟨-262143, 1, 1⟩ * 86400 := by decide
example : latest = Date.toDay ⟨262142, 12, 31⟩ * 86400 + 86399 := by decide

end Instant

end FieldRules.Calendar
