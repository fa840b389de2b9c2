import FieldRules.Store.Registry

/-!
# `Proofs.Store.Registration` — what a batch of compiled rules adds to the registry

A batch is filed rule by rule, each on the shelf of its polarity. Read back through one slot, the
batch is the list of its matchers for that slot, split by polarity with the order kept.

## Contents
- **`Resolved.ofMatchers`**, a list of matchers split by polarity.
- **`FieldRule.fits`** and **`matchersIn`**, the part of a batch that goes into a slot.
- **`resolve_registerAll`** and **`size_registerAll`**, the batch seen through a slot and counted.
-/

namespace FieldRules

/-! ## Splitting by polarity -/

/-- The matchers that admit and those that reject, each in the order of the list. -/
def Resolved.ofMatchers (ms : List Matcher) : Resolved :=
  ⟨ms.filter (·.polarity = .accept), ms.filter (·.polarity = .reject)⟩

namespace Resolved

/-- Matchers of both kinds after those that are there. -/
def append (r r' : Resolved) : Resolved :=
  ⟨r.white ++ r'.white, r.black ++ r'.black⟩

theorem ofMatchers_append (ms ms' : List Matcher) :
    ofMatchers (ms ++ ms') = (ofMatchers ms).append (ofMatchers ms') := by
  simp [ofMatchers, append]

@[simp]
theorem append_empty (r : Resolved) : r.append ⟨[], []⟩ = r := by
  simp [append]

@[simp]
theorem empty_append (r : Resolved) : append ⟨[], []⟩ r = r := rfl

theorem append_assoc (r r' r'' : Resolved) :
    (r.append r').append r'' = r.append (r'.append r'') := by
  simp [append]

/-- Every matcher is on one of the two sides. -/
theorem isEmpty_ofMatchers (ms : List Matcher) : (ofMatchers ms).isEmpty = ms.isEmpty := by
  cases ms with
  | nil => rfl
  | cons m ms =>
      cases hp : m.polarity with
      | accept => simp [ofMatchers, isEmpty, hp]
      | reject => simp [ofMatchers, isEmpty, hp]

end Resolved

/-! ## A batch and a slot -/

/-- Whether a filed rule of a type goes into a slot. -/
def FieldRule.fits (type : TypeKey) (slot : Slot) (rule : FieldRule) : Bool :=
  (⟨rule.group, type, rule.field⟩ : Slot) = slot

/-- The matchers of a batch that go into a slot. -/
def matchersIn (type : TypeKey) (slot : Slot) (rules : List FieldRule) : List Matcher :=
  (rules.filter (FieldRule.fits type slot)).map FieldRule.matcher

theorem matchersIn_cons (type : TypeKey) (slot : Slot) (rule : FieldRule)
    (rules : List FieldRule) :
    matchersIn type slot (rule :: rules) =
      if (⟨rule.group, type, rule.field⟩ : Slot) = slot then
        rule.matcher :: matchersIn type slot rules
      else matchersIn type slot rules := by
  by_cases h : (⟨rule.group, type, rule.field⟩ : Slot) = slot
  · simp [matchersIn, FieldRule.fits, h]
  · simp [matchersIn, FieldRule.fits, h]

theorem matchersIn_append (type : TypeKey) (slot : Slot) (rules rules' : List FieldRule) :
    matchersIn type slot (rules ++ rules') =
      matchersIn type slot rules ++ matchersIn type slot rules' := by
  simp [matchersIn]

theorem matchersIn_flatMap {α : Type} (type : TypeKey) (slot : Slot) (xs : List α)
    (f : α → List FieldRule) :
    matchersIn type slot (xs.flatMap f) = xs.flatMap fun x => matchersIn type slot (f x) := by
  induction xs with
  | nil => rfl
  | cons x xs ih => rw [List.flatMap_cons, matchersIn_append, ih, List.flatMap_cons]

/-- Nothing of a type goes into a slot of another type. -/
theorem matchersIn_of_ne {type : TypeKey} {slot : Slot} (h : slot.type ≠ type)
    (rules : List FieldRule) : matchersIn type slot rules = [] := by
  rw [matchersIn, List.map_eq_nil_iff, List.filter_eq_nil_iff]
  intro rule _ hfits
  have heq : (⟨rule.group, type, rule.field⟩ : Slot) = slot := by simpa [FieldRule.fits] using hfits
  exact h (heq ▸ rfl)

namespace Registry

/-- A registration, read back through any slot. -/
theorem resolve_register (r : Registry) (slot slot' : Slot) (m : Matcher) :
    (r.register slot m).resolve slot' =
      (r.resolve slot').append (if slot = slot' then .ofMatchers [m] else ⟨[], []⟩) := by
  by_cases h : slot = slot'
  · subst h
    rw [if_pos rfl, resolve_register_self]
    cases hp : m.polarity with
    | accept => simp [Resolved.append, Resolved.ofMatchers, hp]
    | reject => simp [Resolved.append, Resolved.ofMatchers, hp]
  · rw [if_neg h, resolve_register_of_ne r (Ne.symm h), Resolved.append_empty]

/-- **A batch through a slot.** The matchers of the batch for the slot come after those that were
there, split by polarity with their order kept. -/
theorem resolve_registerAll (r : Registry) (type : TypeKey) (rules : List FieldRule) (slot : Slot) :
    (r.registerAll type rules).resolve slot =
      (r.resolve slot).append (.ofMatchers (matchersIn type slot rules)) := by
  induction rules generalizing r with
  | nil => exact (Resolved.append_empty _).symm
  | cons rule rules ih =>
      have hstep : r.registerAll type (rule :: rules) =
          (r.register ⟨rule.group, type, rule.field⟩ rule.matcher).registerAll type rules := rfl
      rw [hstep, ih, resolve_register, matchersIn_cons, Resolved.append_assoc]
      by_cases h : (⟨rule.group, type, rule.field⟩ : Slot) = slot
      · rw [if_pos h, if_pos h, ← Resolved.ofMatchers_append, List.singleton_append]
      · rw [if_neg h, if_neg h, Resolved.empty_append]

/-- A batch adds as many matchers as it has filed rules. -/
theorem size_registerAll (r : Registry) (type : TypeKey) (rules : List FieldRule) :
    (r.registerAll type rules).size = r.size + rules.length := by
  induction rules generalizing r with
  | nil => rfl
  | cons rule rules ih =>
      have hstep : r.registerAll type (rule :: rules) =
          (r.register ⟨rule.group, type, rule.field⟩ rule.matcher).registerAll type rules := rfl
      rw [hstep, ih, size_register, List.length_cons]
      omega

end Registry

end FieldRules
