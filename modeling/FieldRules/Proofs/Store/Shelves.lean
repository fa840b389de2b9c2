import FieldRules.Store.Registry
import Mathlib

/-!
# `Proofs.Store.Shelves` — matchers filed level by level

A registry files matchers under slots, each in one step. The same matchers can be filed level by
level: under the group first, there under the type, there under the field, where every level makes
room for a key when the key is first used. This module is that layout on its own, with the three
facts that tell it from any other store: what a slot holds after a matcher is filed, how many
matchers there are, and which groups are in use.

## Contents
- **`alter`**, one level: a change to what one key holds.
- **`Shelf`**, three levels, with `file`, `get`, `size` and `groups`.
- **`Shelves`**, one shelf for each polarity.
-/

namespace FieldRules

/-! ## One level -/

namespace Level

variable {κ β : Type} [DecidableEq κ]

/-- Changes what a key holds. A key that is new holds `start` before the change. -/
def alter (start : β) (change : β → β) (k : κ) : List (κ × β) → List (κ × β)
  | [] => [(k, change start)]
  | (k', x) :: rest =>
    if k' = k then (k', change x) :: rest else (k', x) :: alter start change k rest

/-- The changed key holds the change of what it held, and every other key what it held. -/
theorem lookup_alter (start : β) (change : β → β) (k k' : κ) (level : List (κ × β)) :
    (alter start change k level).lookup k' =
      if k' = k then some (change ((level.lookup k).getD start)) else level.lookup k' := by
  induction level with
  | nil =>
      by_cases h : k' = k
      · simp [alter, h]
      · simp [alter, h]
  | cons e rest ih =>
      obtain ⟨k₀, x⟩ := e
      by_cases hk : k₀ = k
      · subst hk
        by_cases h : k' = k₀
        · simp [alter, h]
        · have hne : (k' == k₀) = false := by simpa using h
          simp [alter, List.lookup_cons, h, hne]
      · rw [alter, if_neg hk, List.lookup_cons, ih]
        by_cases h : k' = k₀
        · subst h
          simp [hk]
        · have hne : (k' == k₀) = false := by simpa using h
          have hne' : (k == k₀) = false := by simpa using Ne.symm hk
          simp [List.lookup_cons, hne, hne']

/-- The keys are those that were there and the changed one. -/
theorem mem_keys_alter {start : β} {change : β → β} {k k' : κ} {level : List (κ × β)} :
    k' ∈ (alter start change k level).map Prod.fst ↔ k' = k ∨ k' ∈ level.map Prod.fst := by
  induction level with
  | nil => simp [alter]
  | cons e rest ih =>
      obtain ⟨k₀, x⟩ := e
      by_cases hk : k₀ = k
      · subst hk
        simp [alter]
      · rw [alter, if_neg hk, List.map_cons, List.mem_cons, ih, List.map_cons, List.mem_cons]
        exact or_left_comm

/-- A changed level has a key. -/
theorem alter_ne_nil (start : β) (change : β → β) (k : κ) (level : List (κ × β)) :
    alter start change k level ≠ [] := by
  cases level with
  | nil => simp [alter]
  | cons e rest =>
      rw [alter]
      split <;> simp

/-- A change that adds one to a weight adds one to the weight of the level. -/
theorem sum_alter (weight : β → Nat) {start : β} {change : β → β} (hstart : weight start = 0)
    (hchange : ∀ x, weight (change x) = weight x + 1) (k : κ) (level : List (κ × β)) :
    ((alter start change k level).map fun e => weight e.2).sum =
      (level.map fun e => weight e.2).sum + 1 := by
  induction level with
  | nil => simp [alter, hchange, hstart]
  | cons e rest ih =>
      obtain ⟨k₀, x⟩ := e
      by_cases hk : k₀ = k
      · rw [alter, if_pos hk]
        simp only [List.map_cons, List.sum_cons, hchange]
        omega
      · rw [alter, if_neg hk]
        simp only [List.map_cons, List.sum_cons, ih]
        omega

end Level

open Level

/-! ## Three levels -/

/-- Matchers by group, by type and by field. -/
structure Shelf where
  entries : List (String × List (TypeKey × List (String × List Matcher)))

namespace Shelf

/-- No matcher is filed. -/
def empty : Shelf :=
  ⟨[]⟩

/-- Files a matcher last in a slot. Each level makes room for its key where there is none. -/
def file (shelf : Shelf) (slot : Slot) (m : Matcher) : Shelf :=
  ⟨alter [] (alter [] (alter [] (· ++ [m]) slot.field) slot.type) slot.group shelf.entries⟩

/-- The matchers of a slot; none as soon as one level has no such key. -/
def get (shelf : Shelf) (slot : Slot) : List Matcher :=
  let types := (shelf.entries.lookup slot.group).getD []
  let fields := (types.lookup slot.type).getD []
  (fields.lookup slot.field).getD []

/-- The number of matchers under a type. -/
def sizeOfType (fields : List (String × List Matcher)) : Nat :=
  (fields.map fun field => field.2.length).sum

/-- The number of matchers under a group. -/
def sizeOfGroup (types : List (TypeKey × List (String × List Matcher))) : Nat :=
  (types.map fun type => sizeOfType type.2).sum

/-- The number of matchers. -/
def size (shelf : Shelf) : Nat :=
  (shelf.entries.map fun group => sizeOfGroup group.2).sum

/-- The groups of the uppermost level. -/
def groups (shelf : Shelf) : List String :=
  shelf.entries.map Prod.fst

/-- A matcher is filed last in its own slot, and no other slot changes. -/
theorem get_file (shelf : Shelf) (slot slot' : Slot) (m : Matcher) :
    (shelf.file slot m).get slot' =
      if slot' = slot then shelf.get slot' ++ [m] else shelf.get slot' := by
  obtain ⟨group, type, field⟩ := slot
  obtain ⟨group', type', field'⟩ := slot'
  simp only [get, file, lookup_alter, Slot.mk.injEq]
  -- the levels are compared from the uppermost one down to the first that differs
  by_cases hg : group' = group
  · subst hg
    by_cases ht : type' = type
    · subst ht
      by_cases hf : field' = field
      · subst hf
        simp [lookup_alter]
      · simp [lookup_alter, hf]
    · simp [lookup_alter, ht]
  · simp [hg]

theorem size_file (shelf : Shelf) (slot : Slot) (m : Matcher) :
    (shelf.file slot m).size = shelf.size + 1 := by
  have inField (ms : List Matcher) : (ms ++ [m]).length = ms.length + 1 := List.length_append
  have inType (fields : List (String × List Matcher)) :
      sizeOfType (alter [] (· ++ [m]) slot.field fields) = sizeOfType fields + 1 :=
    sum_alter List.length List.length_nil inField slot.field fields
  have inGroup (types : List (TypeKey × List (String × List Matcher))) :
      sizeOfGroup (alter [] (alter [] (· ++ [m]) slot.field) slot.type types) =
        sizeOfGroup types + 1 :=
    sum_alter sizeOfType rfl inType slot.type types
  exact sum_alter sizeOfGroup rfl inGroup slot.group shelf.entries

theorem mem_groups_file {shelf : Shelf} {slot : Slot} {m : Matcher} {group : String} :
    group ∈ (shelf.file slot m).groups ↔ group = slot.group ∨ group ∈ shelf.groups :=
  mem_keys_alter

end Shelf

/-! ## Both shelves -/

/-- The matchers that admit and those that reject, on a shelf each. -/
structure Shelves where
  white : Shelf
  black : Shelf

namespace Shelves

/-- No matcher is filed. -/
def empty : Shelves :=
  ⟨.empty, .empty⟩

/-- Files a matcher on the shelf of its polarity. -/
def register (s : Shelves) (slot : Slot) (m : Matcher) : Shelves :=
  match m.polarity with
  | .accept => { s with white := s.white.file slot m }
  | .reject => { s with black := s.black.file slot m }

/-- The matchers that apply in a slot. -/
def resolve (s : Shelves) (slot : Slot) : Resolved :=
  ⟨s.white.get slot, s.black.get slot⟩

/-- The number of matchers on both shelves. -/
def size (s : Shelves) : Nat :=
  s.white.size + s.black.size

/-- The groups of both shelves. -/
def groups (s : Shelves) : List String :=
  s.white.groups ++ s.black.groups

theorem size_register (s : Shelves) (slot : Slot) (m : Matcher) :
    (s.register slot m).size = s.size + 1 := by
  unfold register
  split
  · simp only [size, Shelf.size_file]
    omega
  · simp only [size, Shelf.size_file]
    omega

theorem mem_groups_register {s : Shelves} {slot : Slot} {m : Matcher} {group : String} :
    group ∈ (s.register slot m).groups ↔ group = slot.group ∨ group ∈ s.groups := by
  unfold register
  split
  · simp only [groups, List.mem_append, Shelf.mem_groups_file]
    exact or_assoc
  · simp only [groups, List.mem_append, Shelf.mem_groups_file]
    exact or_left_comm

end Shelves

end FieldRules
