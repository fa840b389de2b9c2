import FieldRules.Proofs.History.Request
import FieldRules.Proofs.Walk.Abreast
import Mathlib

/-!
# `Proofs.History.Timeless` — rules that cannot see the clock

A rule is marked as one that depends on time by the shape of its bounds alone. The instant, though,
is handed down from the check through every field, judgement, matcher and bound, and the clock is
read anew for each field. So the mark is followed the other way: a bound other than `now` admits the
same at every instant, and so does all that is put together from such bounds, up to a whole check.

For a check, the rules that count are those in its group on the types of the objects that it comes
to. Rules of other groups and of other types may depend on time.

## Contents
- **`Bound.admits_timeless`**, **`Interval.matchesAt_timeless`**, **`Matcher.hits_timeless`** and
  **`Resolved.decision_timeless`**, the same answer at two instants.
- **`Resolved.Timeless`** and **`Setting.TimelessOn`**, no matcher of a slot, and no rule of a group
  on a type, depends on time.
- **`Check.sideBySide_timeless`**: a check takes the same course with another clock.
- **`clock_unseen`**: the clock makes no difference where no rule asks for it.
-/

namespace FieldRules

open Calendar

/-! ## Bounds, intervals and matchers -/

/-- Only the bound `now` names another point at another instant. -/
theorem Bound.admits_timeless {b : Bound} (hnow : ∀ inclusive, b ≠ .now inclusive) (side : Side)
    (x : Scalar) (now now' : Instant) : b.admits side now' x = b.admits side now x := by
  cases b with
  | unbounded => rfl
  | now inclusive => exact absurd rfl (hnow inclusive)
  | literal value inclusive => rfl

/-- An interval that does not depend on time is a range, and no side of it is `now`. -/
theorem Interval.exists_range_of_timeless {i : Interval} (timeless : i.isTimeDependent = false) :
    ∃ lower upper domain, i = .range lower upper domain ∧
      (∀ inclusive, lower ≠ .now inclusive) ∧ ∀ inclusive, upper ≠ .now inclusive := by
  cases i with
  | past => cases timeless
  | future => cases timeless
  | range lower upper domain =>
      refine ⟨lower, upper, domain, rfl, ?_, ?_⟩
      · rintro inclusive rfl
        cases timeless
      · rintro inclusive rfl
        cases lower with
        | _ => cases timeless

theorem Interval.matchesAt_timeless {i : Interval} (timeless : i.isTimeDependent = false)
    (v : Value) (now now' : Instant) : i.matchesAt v now' = i.matchesAt v now := by
  obtain ⟨lower, upper, domain, rfl, hlower, hupper⟩ := Interval.exists_range_of_timeless timeless
  have hadmits (x : Scalar) :
      (lower.admits .lower now' x && upper.admits .upper now' x) =
        (lower.admits .lower now x && upper.admits .upper now x) := by
    rw [Bound.admits_timeless hlower .lower x now now', Bound.admits_timeless hupper .upper x now]
  simp only [matchesAt, hadmits]

namespace Matcher

variable {m : Matcher}

theorem hits_timeless (timeless : m.isTimeDependent = false) (v : Value) (now now' : Instant) :
    m.hits v now' = m.hits v now := by
  cases m with
  | literals set polarity => rfl
  | interval i => exact Interval.matchesAt_timeless timeless v now now'
  | pattern p polarity => rfl

theorem passes_timeless (timeless : m.isTimeDependent = false) (v : Value) (now now' : Instant) :
    m.passes v now' = m.passes v now := by
  rw [passes, passes, hits_timeless timeless v now now']

end Matcher

/-! ## Judgements -/

namespace Resolved

/-- No matcher depends on time. -/
def Timeless (r : Resolved) : Prop :=
  ∀ m ∈ r.white ++ r.black, m.isTimeDependent = false

theorem timeless_ofMatchers_iff {ms : List Matcher} :
    (ofMatchers ms).Timeless ↔ ∀ m ∈ ms, m.isTimeDependent = false := by
  constructor
  · intro timeless m hm
    refine timeless m (List.mem_append.mpr ?_)
    cases hp : m.polarity with
    | accept => exact .inl (List.mem_filter.mpr ⟨hm, by simpa using hp⟩)
    | reject => exact .inr (List.mem_filter.mpr ⟨hm, by simpa using hp⟩)
  · intro timeless m hm
    rcases List.mem_append.mp hm with hm | hm
    · exact timeless m (List.mem_filter.mp hm).1
    · exact timeless m (List.mem_filter.mp hm).1

/-- **The judgement is the same at every instant,** down to the matcher that rejects. -/
theorem decision_timeless {r : Resolved} (timeless : r.Timeless) (v : Value)
    (now now' : Instant) : r.decision v now' = r.decision v now := by
  obtain ⟨hwhite, hblack⟩ := List.forall_mem_append.mp timeless
  have hfind {ms : List Matcher} (hms : ∀ m ∈ ms, m.isTimeDependent = false) :
      ms.find? (·.hits v now') = ms.find? (·.hits v now) := by
    apply List.find?_congr
    intro m hm
    exact Matcher.hits_timeless (hms m hm) v now now'
  rw [decision, decision, ← List.isSome_find?, ← List.isSome_find?, hfind hwhite, hfind hblack]

end Resolved

/-! ## Checks -/

namespace Setting

/-- No rule with an effect in a group depends on time, on any field of a type. -/
def TimelessOn (w : Setting) (group : String) (type : TypeKey) : Prop :=
  ∀ f ∈ (w.schemas.of type).fields, ∀ r ∈ w.enabledRules type f, ∀ m ∈ r.matchersFor group,
    m.isTimeDependent = false

instance (w : Setting) (group : String) (type : TypeKey) : Decidable (w.TimelessOn group type) :=
  inferInstanceAs (Decidable (∀ f ∈ (w.schemas.of type).fields, ∀ r ∈ w.enabledRules type f,
    ∀ m ∈ r.matchersFor group, m.isTimeDependent = false))

/-- What is declared on an indexed type and what is registered for it depend on time alike. -/
theorem Exact.timelessOn_iff {w : Setting} {s : Session} (exact : w.Exact s) {group : String}
    {type : TypeKey} (indexed : s.index.contains type = true) :
    w.TimelessOn group type ↔ ∀ field, (s.registry.resolve ⟨group, type, field⟩).Timeless := by
  have hfield (field : String) : (s.registry.resolve ⟨group, type, field⟩).Timeless ↔
      ∀ m ∈ w.matchersOn group type field, m.isTimeDependent = false := by
    rw [exact.resolve group type field indexed, Resolved.timeless_ofMatchers_iff]
  simp only [hfield, TimelessOn, matchersOn, List.mem_flatMap, List.mem_filter,
    decide_eq_true_eq]
  constructor
  · rintro timeless field m ⟨f, ⟨hf, -⟩, r, hr, hm⟩
    exact timeless f hf r hr m hm
  · intro timeless f hf r hr m hm
    exact timeless f.name m ⟨f, ⟨hf, rfl⟩, r, hr, hm⟩

end Setting

namespace Check

/-- **A check takes the same course with another clock** as long as it comes to objects of types on
which no rule of its group depends on time. It leaves the same session behind. -/
theorem sideBySide_timeless (w : Setting) (group : String) (clock clock' : Nat → Instant) :
    SideBySide ⟨w, group, clock⟩ ⟨w, group, clock'⟩ (w.TimelessOn group)
      (fun s t => t = s ∧ w.Exact s) (fun s t => t = s) where
  unread s t h := h.1
  request type s t h := by
    obtain ⟨rfl, exact⟩ := h
    have hsteps := w.ensureIndexed_steps type t
    show Abreast _ _ (w.ensureIndexed type t) (w.ensureIndexed type t)
    cases hr : w.ensureIndexed type t with
    | mk r s₁ =>
        rw [hr] at hsteps
        cases r with
        | error e => exact .error rfl
        | ok entry => exact .ok ⟨rfl, exact.steps hsteps⟩
  judge type values field chain s t timeless h indexed := by
    obtain ⟨rfl, exact⟩ := h
    have hslot := (exact.timelessOn_iff indexed).mp timeless field
    unfold judgeField
    dsimp only
    generalize t.registry.resolve ⟨group, type, field⟩ = matchers at hslot ⊢
    simp only [Resolved.decision_timeless hslot _ (clock t.readings) (clock' t.readings)]
    cases matchers.isEmpty with
    | true => exact .ok ⟨rfl, exact⟩
    | false =>
        cases Value.read type values field with
        | error e => exact .error rfl
        | ok v => exact .ok ⟨rfl, exact.of_alike ⟨rfl, rfl⟩⟩

end Check

/-! ## The clock -/

namespace Setting

/-- In the session that a check leaves behind, the types that it has met are indexed. -/
theorem contains_of_met {w : Setting} {clock : Nat → Instant} {group : String} {v : Value}
    {selection : Option (List String)} {s : Session} :
    ∀ type ∈ w.met clock group v selection s,
      (w.evaluate clock group v selection s).2.index.contains type = true :=
  (Check.checkValue_goes ⟨w, groupNamed group, clock⟩ selection v .empty s).contains_of_met

theorem exact_evaluate {w : Setting} {s : Session} (exact : w.Exact s) (clock : Nat → Instant)
    (group : String) (v : Value) (selection : Option (List String)) :
    w.Exact (w.evaluate clock group v selection s).2 :=
  exact.steps (w.evaluate_worked clock group v selection s).steps

/-- **Rules that do not depend on time cannot see the clock.** An interval or a matcher that is not
marked gives the same answer for every value at any two instants. After any history, a check comes
out the same under any two clocks, with the same session left behind, if no matcher that is
registered in its group depends on time on the types of the objects that it comes to. The clocks may
move from one field to the next. -/
theorem clock_unseen :
    (∀ i : Interval, i.isTimeDependent = false → ∀ v now now',
      i.matchesAt v now' = i.matchesAt v now) ∧
    (∀ m : Matcher, m.isTimeDependent = false → ∀ v now now',
      m.hits v now' = m.hits v now ∧ m.passes v now' = m.passes v now) ∧
    ∀ (w : Setting) (history : List Request) (clock clock' : Nat → Instant) (group : String)
      (v : Value) (selection : Option (List String)),
      (∀ type ∈ w.met clock group v selection (w.after history), ∀ field,
        ((w.evaluate clock group v selection (w.after history)).2.registry.resolve
          ⟨groupNamed group, type, field⟩).Timeless) →
      w.evaluate clock' group v selection (w.after history) =
        w.evaluate clock group v selection (w.after history) := by
  refine ⟨fun i timeless => i.matchesAt_timeless timeless, fun m timeless v now now' =>
    ⟨m.hits_timeless timeless v now now', m.passes_timeless timeless v now now'⟩, ?_⟩
  intro w history clock clock' group v selection timeless
  have hexact := w.exact_after history
  have hmet : ∀ type ∈ w.met clock group v selection (w.after history),
      w.TimelessOn (groupNamed group) type := by
    intro type hmem
    exact ((exact_evaluate hexact clock group v selection).timelessOn_iff
      (contains_of_met type hmem)).mpr (timeless type hmem)
  have habreast := (Check.sideBySide_timeless w (groupNamed group) clock clock').checkValue
    selection v .empty ⟨rfl, hexact⟩ hmet
  rw [evaluate, evaluate, habreast.eq (fun _ _ h => h.1) fun _ _ h => h]

namespace Admission

def ticket : TypeKey := ⟨"T", "Ticket"⟩

def visit : TypeKey := ⟨"V", "Visit"⟩

/-- Rules that depend on time stand in another group and on a type that is not met. -/
def setting : Setting where
  schemas := ⟨[
    (ticket, ⟨[
      ⟨"kind", .leaf, [⟨.values ["day"], ["g"], true, false⟩], false⟩,
      ⟨"until", .leaf, [⟨.range "future", ["h"], true, false⟩,
        ⟨.range "['2030-01-01', null)", ["g"], true, false⟩], false⟩,
      ⟨"visit", .nested visit, [], true⟩]⟩),
    (visit, ⟨[⟨"begin", .leaf, [⟨.range "past", ["g"], true, false⟩], false⟩]⟩)]⟩
  book := .empty

/-- A ticket that ran out in 1970. -/
def expired : Value :=
  .object ticket [("kind", .value (.str "day")), ("until", .value (.int 0)),
    ("visit", .value (.object visit [("begin", .value (.int 0))]))]

/-- A clock that moves on between the two fields that are judged. -/
def moving (reading : Nat) : Instant :=
  if reading = 0 then ⟨-1, 0, by decide⟩ else ⟨1, 0, by decide⟩

/-- The ticket fails before its visit is met, whatever the clock shows. -/
theorem expired_at_any_time :
    setting.met moving "g" expired none (setting.after [.prepare ticket]) = [ticket] ∧
      setting.TimelessOn "g" ticket ∧ ¬setting.TimelessOn "h" ticket ∧
      ¬setting.TimelessOn "g" visit ∧
      setting.evaluate (fun _ => ⟨0, 0, by decide⟩) "g" expired none
          (setting.after [.prepare ticket]) =
        setting.evaluate moving "g" expired none (setting.after [.prepare ticket]) ∧
      (setting.evaluate moving "g" expired none (setting.after [.prepare ticket])).1 =
        .ok ⟨false, "g",
          ["Ticket.until: value 0 is not accepted by range ['2030-01-01 00:00:00.000', null)"]⟩ := by
  have hmet : setting.met moving "g" expired none (setting.after [.prepare ticket]) = [ticket] := by
    cbv
  have timeless : setting.TimelessOn "g" ticket := by decide +kernel
  refine ⟨hmet, timeless, by decide +kernel, by decide +kernel, ?_, by cbv⟩
  apply clock_unseen.2.2
  intro type hmem
  have hindexed := contains_of_met type hmem
  rw [hmet, List.mem_singleton] at hmem
  subst hmem
  exact ((exact_evaluate (setting.exact_after _) moving "g" expired none).timelessOn_iff
    hindexed).mp timeless

end Admission

end Setting

end FieldRules
