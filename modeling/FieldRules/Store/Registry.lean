import FieldRules.Rule.Matcher
import FieldRules.Store.Buckets

/-!
# `FieldRules.Store.Registry` — compiled rules by group, type and field

Matchers that admit and matchers that reject are kept apart. Where a field has a matcher that admits
in the group of a check, only those decide; matchers that reject count only where there is none.

## Contents
- **`Slot`** and **`FieldRule`**, the place and the unit of a registration.
- **`Registry`**, two shelves of buckets, with `register`, `registerAll`, `resolve`, `groups`,
  `size`.
- **`Resolved.decision`**, the judgement of the matchers in one slot.
-/

namespace FieldRules

open Calendar Store

/-! ## Places -/

/-- The place of a matcher. -/
structure Slot where
  group : String
  type : TypeKey
  field : String
  deriving DecidableEq, Repr

/-- A compiled rule on a field, filed under one group. -/
structure FieldRule where
  group : String
  field : String
  matcher : Matcher
  deriving DecidableEq, Repr

/-! ## The matchers of one slot -/

/-- The outcome for a value. -/
inductive Decision where
  | pass
  /-- There are matchers that admit, and none was hit. -/
  | notAccepted
  /-- No matcher admits, and this one, which rejects, was hit. -/
  | rejected (m : Matcher)
  deriving DecidableEq, Repr

/-- The matchers that apply to a field in a group. -/
structure Resolved where
  /-- The matchers that admit. -/
  white : List Matcher
  /-- The matchers that reject. -/
  black : List Matcher
  deriving DecidableEq, Repr

namespace Resolved

/-- Whether no matcher applies. -/
def isEmpty (r : Resolved) : Bool :=
  r.white.isEmpty && r.black.isEmpty

/-- Judges a value at the instant `now`. -/
def decision (r : Resolved) (v : Value) (now : Instant) : Decision :=
  if r.white.isEmpty then
    match r.black.find? (·.hits v now) with
    | some m => .rejected m
    | none => .pass
  else if r.white.any (·.hits v now) then .pass
  else .notAccepted

/-- Whether a value passes. -/
def admits (r : Resolved) (v : Value) (now : Instant) : Bool :=
  r.decision v now = .pass

end Resolved

/-! ## The registry -/

/-- Registered matchers. -/
structure Registry where
  white : Buckets Slot Matcher
  black : Buckets Slot Matcher
  deriving DecidableEq, Repr

namespace Registry

/-- The registry without matchers. -/
def empty : Registry :=
  ⟨.empty, .empty⟩

/-- Files a matcher by its polarity. -/
def register (r : Registry) (slot : Slot) (m : Matcher) : Registry :=
  match m.polarity with
  | .accept => { r with white := r.white.push slot m }
  | .reject => { r with black := r.black.push slot m }

/-- Files the compiled rules of a type, in order. -/
def registerAll (r : Registry) (type : TypeKey) (rules : List FieldRule) : Registry :=
  rules.foldl (fun r rule => r.register ⟨rule.group, type, rule.field⟩ rule.matcher) r

/-- The matchers that apply in a slot. -/
def resolve (r : Registry) (slot : Slot) : Resolved :=
  ⟨r.white.get slot, r.black.get slot⟩

/-- The number of registered matchers. -/
def size (r : Registry) : Nat :=
  r.white.size + r.black.size

/-- Whether nothing is registered. -/
def isEmpty (r : Registry) : Bool :=
  r.size = 0

/-- The groups that have a matcher, in ascending order. -/
def groups (r : Registry) : List String :=
  ((r.white.keys ++ r.black.keys).map Slot.group).eraseDups.mergeSort (· ≤ ·)

/-! ## Small facts -/

theorem size_empty : empty.size = 0 := rfl

/-- A registration adds one matcher. -/
theorem size_register (r : Registry) (slot : Slot) (m : Matcher) :
    (r.register slot m).size = r.size + 1 := by
  unfold register
  split
  · simp only [size, Buckets.size_push]
    omega
  · simp only [size, Buckets.size_push]
    omega

/-- A registration adds the matcher last on its shelf of its slot. -/
theorem resolve_register_self (r : Registry) (slot : Slot) (m : Matcher) :
    (r.register slot m).resolve slot =
      match m.polarity with
      | .accept => ⟨(r.resolve slot).white ++ [m], (r.resolve slot).black⟩
      | .reject => ⟨(r.resolve slot).white, (r.resolve slot).black ++ [m]⟩ := by
  unfold register
  split <;> simp [resolve, *]

/-- A registration in one slot leaves the other slots alone. -/
theorem resolve_register_of_ne (r : Registry) {slot slot' : Slot} (h : slot' ≠ slot)
    (m : Matcher) : (r.register slot m).resolve slot' = r.resolve slot' := by
  unfold register
  split <;> simp [resolve, Buckets.get_push_of_ne _ h]

end Registry

end FieldRules
