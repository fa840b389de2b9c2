import FieldRules.Proofs.Store.Shelves
import FieldRules.Store.RuleBook

/-!
# `Proofs.Store.Tiers` — rules filed by type, and there by field

A rule book files its rules under pairs of a type and a field. They can be filed in two steps
instead, under the type first and there under the field, where each step makes room for a name when
it is first used. Such a store lists fields and tells whether it is empty by its names alone. This
is right only because no name is ever left without a rule: room is made by the same step that files
a rule in it.

## Contents
- **`RuleBook.insertAll`**, **`listedAt`** and **`RuleBook.Holds`**: a book filled by a listing of
  rules holds what is listed for each field.
- **`Tiers`**, with `insert`, `rulesFor`, `fieldsFor` and `isEmpty`.
- **`Tiers.agrees_insertAll`**, the same answers from both.
-/

namespace FieldRules

/-! ## What a book holds -/

/-- What a listing has for a field, in order. -/
def listedAt {α : Type} (l : List (String × String × α)) (owner field : String) : List α :=
  l.filterMap fun x => if x.1 = owner ∧ x.2.1 = field then some x.2.2 else none

namespace RuleBook

/-- Adds the rules of a listing one after another. -/
def insertAll (b : RuleBook) : List (String × String × Rule) → RuleBook
  | [] => b
  | (owner, field, r) :: rest => (b.insert owner field r).insertAll rest

/-- The answers of a book that has these rules. -/
structure Holds (b : RuleBook) (rules : String → String → List Rule) : Prop where
  rulesFor : ∀ owner field, b.rulesFor owner field = rules owner field
  fieldsFor : ∀ owner field, field ∈ b.fieldsFor owner ↔ rules owner field ≠ []
  nodup : ∀ owner, (b.fieldsFor owner).Nodup
  isEmpty : b.isEmpty = true ↔ ∀ owner field, rules owner field = []

/-- A book is empty if it has no rule on any field. -/
theorem isEmpty_iff (b : RuleBook) :
    b.isEmpty = true ↔ ∀ owner field, b.rulesFor owner field = [] := by
  have hkeys : b.isEmpty = true ↔ b.rules.keys = [] := by
    show b.rules.entries.isEmpty = true ↔ b.rules.entries.map Prod.fst = []
    rw [List.isEmpty_iff, List.map_eq_nil_iff]
  rw [hkeys, List.eq_nil_iff_forall_not_mem]
  simp only [b.rules.mem_keys, not_not, Prod.forall]
  rfl

/-- No field is listed twice for a type. -/
theorem nodup_fieldsFor (b : RuleBook) (owner : String) : (b.fieldsFor owner).Nodup := by
  refine List.Nodup.map_on ?_ (b.rules.nodup_keys.filter _)
  intro k hk k' hk' hsnd
  have hfst : k.1 = owner := by simpa using (List.mem_filter.mp hk).2
  have hfst' : k'.1 = owner := by simpa using (List.mem_filter.mp hk').2
  exact Prod.ext (hfst.trans hfst'.symm) hsnd

/-- The look-ups of single fields determine the other answers. -/
theorem holds_of_rulesFor {b : RuleBook} {rules : String → String → List Rule}
    (h : ∀ owner field, b.rulesFor owner field = rules owner field) : b.Holds rules where
  rulesFor := h
  fieldsFor owner field := by rw [b.mem_fieldsFor, h]
  nodup := b.nodup_fieldsFor
  isEmpty := by simp only [b.isEmpty_iff, h]

/-- The rules of a listing come after those that were there, field by field. -/
theorem rulesFor_insertAll (b : RuleBook) (l : List (String × String × Rule))
    (owner field : String) :
    (b.insertAll l).rulesFor owner field = b.rulesFor owner field ++ listedAt l owner field := by
  induction l generalizing b with
  | nil => exact (List.append_nil _).symm
  | cons x rest ih =>
      obtain ⟨owner₀, field₀, r⟩ := x
      rw [insertAll, ih, rulesFor_insert]
      by_cases h : (owner, field) = (owner₀, field₀)
      · obtain ⟨rfl, rfl⟩ := Prod.mk.inj h
        simp [listedAt]
      · have hne : ¬ (owner₀ = owner ∧ field₀ = field) := fun ⟨ho, hf⟩ => h (ho ▸ hf ▸ rfl)
        simp [listedAt, h, hne]

end RuleBook

/-! ## Two tiers -/

open Level

/-- No type is without fields, and no field without rules. -/
def Filled (types : List (String × List (String × List Rule))) : Prop :=
  ∀ owner fields, types.lookup owner = some fields →
    fields ≠ [] ∧ ∀ field rules, fields.lookup field = some rules → rules ≠ []

/-- Rules by type, and there by field. -/
structure Tiers where
  types : List (String × List (String × List Rule))
  filled : Filled types

namespace Tiers

/-- Where a name is new, room for it is made and a rule filed there in one step. -/
theorem filled_alter {types : List (String × List (String × List Rule))} (h : Filled types)
    (owner field : String) (r : Rule) :
    Filled (alter [] (alter [] (· ++ [r]) field) owner types) := by
  intro owner' fields hfields
  rw [lookup_alter] at hfields
  split at hfields
  · obtain rfl := Option.some.inj hfields
    refine ⟨alter_ne_nil _ _ _ _, fun field' rules hrules => ?_⟩
    rw [lookup_alter] at hrules
    split at hrules
    · obtain rfl := Option.some.inj hrules
      exact List.concat_ne_nil _ _
    · -- a field that was there before, so the type was there as well
      cases hold : types.lookup owner with
      | none => simp [hold] at hrules
      | some old =>
          rw [hold, Option.getD_some] at hrules
          exact (h owner old hold).2 field' rules hrules
  · exact h owner' fields hfields

/-- No rule is filed. -/
def empty : Tiers :=
  ⟨[], by simp [Filled]⟩

/-- Files a rule last under a field. Each tier makes room for a name that is new. -/
def insert (t : Tiers) (owner field : String) (r : Rule) : Tiers :=
  ⟨alter [] (alter [] (· ++ [r]) field) owner t.types, filled_alter t.filled owner field r⟩

/-- Files the rules of a listing one after another. -/
def insertAll (t : Tiers) : List (String × String × Rule) → Tiers
  | [] => t
  | (owner, field, r) :: rest => (t.insert owner field r).insertAll rest

/-- The fields of a type, with their rules. -/
def fields (t : Tiers) (owner : String) : List (String × List Rule) :=
  (t.types.lookup owner).getD []

/-- The rules on a field; none as soon as a tier has no such name. -/
def rulesFor (t : Tiers) (owner field : String) : List Rule :=
  ((t.fields owner).lookup field).getD []

/-- The names on the lower tier of a type. -/
def fieldsFor (t : Tiers) (owner : String) : List String :=
  (t.fields owner).map Prod.fst

/-- Whether the upper tier has no name. -/
def isEmpty (t : Tiers) : Bool :=
  t.types.isEmpty

/-- A rule is filed last under its own field, and no other field changes. -/
theorem rulesFor_insert (t : Tiers) (owner field owner' field' : String) (r : Rule) :
    (t.insert owner field r).rulesFor owner' field' =
      if (owner', field') = (owner, field) then t.rulesFor owner' field' ++ [r]
      else t.rulesFor owner' field' := by
  simp only [rulesFor, fields, insert, lookup_alter, Prod.mk.injEq]
  by_cases ho : owner' = owner
  · subst ho
    by_cases hf : field' = field
    · subst hf
      simp [lookup_alter]
    · simp [lookup_alter, hf]
  · simp [ho]

theorem lookup_fields_ne_nil {t : Tiers} {owner field : String} {rules : List Rule}
    (h : (t.fields owner).lookup field = some rules) : rules ≠ [] := by
  unfold fields at h
  cases hold : t.types.lookup owner with
  | none => simp [hold] at h
  | some fields =>
      rw [hold, Option.getD_some] at h
      exact (t.filled owner fields hold).2 field rules h

/-- The names of a type are the fields with a rule. -/
theorem mem_fieldsFor (t : Tiers) (owner field : String) :
    field ∈ t.fieldsFor owner ↔ t.rulesFor owner field ≠ [] := by
  unfold rulesFor
  cases h : (t.fields owner).lookup field with
  | none =>
      have hnot : field ∉ t.fieldsFor owner := by
        intro hmem
        obtain ⟨e, he, rfl⟩ := List.mem_map.mp hmem
        exact bne_iff_ne.mp (List.lookup_eq_none_iff.mp h e he) rfl
      simpa using hnot
  | some rules =>
      have hmem : field ∈ t.fieldsFor owner := by
        obtain ⟨before, after, hsplit, -⟩ := List.lookup_eq_some_iff.mp h
        rw [fieldsFor, hsplit]
        simp
      simpa [hmem] using lookup_fields_ne_nil h

/-- Without names there are no rules, and the first name there is has a rule. -/
theorem isEmpty_iff (t : Tiers) :
    t.isEmpty = true ↔ ∀ owner field, t.rulesFor owner field = [] := by
  rw [isEmpty, List.isEmpty_iff]
  constructor
  · intro h owner field
    simp [rulesFor, fields, h]
  · intro h
    by_contra hne
    obtain ⟨⟨owner, fields⟩, rest, htypes⟩ := List.exists_cons_of_ne_nil hne
    have hlookup : t.types.lookup owner = some fields := by simp [htypes]
    obtain ⟨⟨field, rules⟩, rest', hfields⟩ :=
      List.exists_cons_of_ne_nil (t.filled owner fields hlookup).1
    have hrule : (t.fields owner).lookup field = some rules := by
      simp [Tiers.fields, hlookup, hfields]
    refine lookup_fields_ne_nil hrule ?_
    have hnone := h owner field
    rwa [rulesFor, hrule, Option.getD_some] at hnone

/-! ## The same answers -/

/-- The tiers and the book give the same answers. -/
structure Agrees (t : Tiers) (b : RuleBook) : Prop where
  rulesFor : ∀ owner field, t.rulesFor owner field = b.rulesFor owner field
  fieldsFor : ∀ owner field, field ∈ t.fieldsFor owner ↔ field ∈ b.fieldsFor owner
  isEmpty : t.isEmpty = b.isEmpty

theorem agrees_of_rulesFor {t : Tiers} {b : RuleBook}
    (h : ∀ owner field, t.rulesFor owner field = b.rulesFor owner field) : t.Agrees b where
  rulesFor := h
  fieldsFor owner field := by rw [t.mem_fieldsFor, b.mem_fieldsFor, h]
  isEmpty := by
    rw [Bool.eq_iff_iff, t.isEmpty_iff, b.isEmpty_iff]
    simp only [h]

theorem Agrees.insert {t : Tiers} {b : RuleBook} (h : t.Agrees b) (owner field : String)
    (r : Rule) : (t.insert owner field r).Agrees (b.insert owner field r) := by
  refine agrees_of_rulesFor fun owner' field' => ?_
  rw [t.rulesFor_insert, b.rulesFor_insert, h.rulesFor]

/-- Both stay in agreement, whatever is added to them. -/
theorem Agrees.insertAll {t : Tiers} {b : RuleBook} (h : t.Agrees b)
    (l : List (String × String × Rule)) : (t.insertAll l).Agrees (b.insertAll l) := by
  induction l generalizing t b with
  | nil => exact h
  | cons x rest ih => exact ih (h.insert x.1 x.2.1 x.2.2)

theorem agrees_empty : empty.Agrees .empty :=
  agrees_of_rulesFor fun _ _ => rfl

end Tiers

end FieldRules
