import FieldRules.Check.Walk
import FieldRules.Proofs.Store.Registration
import Mathlib.Algebra.Ring.Nat
import Mathlib.Logic.Relation

/-!
# `Proofs.Declared` — what schemas and rule book say, apart from any walk

Everything here is read off a `Setting`: which rules of a type compile, where its walked fields
lead, which of its fields need attention, and which matchers belong into which slot. No session and
no order of requests comes in; these are the second sides of the statements about the walk.

## Contents
- **`Setting.Compiles`** and **`Setting.Malformed`**, of a type.
- **`Setting.Leads`** and **`Setting.Reaches`**, the graph of types.
- **`Setting.kind?`**, **`Setting.indexed`**, how the declarations of a type are to be treated.
- **`Setting.filed`** and **`Setting.matchersOn`**, the compiled rules of a type, all of them and
  those of one slot.
- What `compileField` and `Field.target?` come to in these words.
-/

namespace FieldRules

/-! ## One rule -/

/-- The matchers that a rule gives to a group: one for each time that it names the group. -/
def Rule.matchersFor (r : Rule) (group : String) : List Matcher :=
  match Matcher.compile r with
  | .ok m => List.replicate (r.effectiveGroups.count group) m
  | .error _ => []

/-- A rule gives nothing to a group that it does not name. -/
theorem Rule.matchersFor_eq_nil {r : Rule} {group : String} (h : group ∉ r.effectiveGroups) :
    r.matchersFor group = [] := by
  unfold Rule.matchersFor
  rw [List.count_eq_zero_of_not_mem h]
  cases Matcher.compile r with
  | ok m => rfl
  | error fault => rfl

/-- A rule on a field, compiled and filed; nothing for a malformed rule. -/
def Rule.filings (r : Rule) (field : String) : List FieldRule :=
  match Matcher.compile r with
  | .ok m => r.filed field m
  | .error _ => []

theorem Rule.filed_ne_nil (r : Rule) (field : String) (m : Matcher) : r.filed field m ≠ [] := by
  intro h
  exact r.effectiveGroups_ne_nil (List.map_eq_nil_iff.mp h)

theorem Rule.matchersIn_filed (r : Rule) (type : TypeKey) (field : String) (m : Matcher)
    (slot : Slot) :
    matchersIn type slot (r.filed field m) =
      if type = slot.type ∧ field = slot.field then
        List.replicate (r.effectiveGroups.count slot.group) m
      else [] := by
  obtain ⟨group, type', field'⟩ := slot
  unfold Rule.filed
  induction r.effectiveGroups with
  | nil => simp [matchersIn]
  | cons g gs ih =>
      rw [List.map_cons, matchersIn_cons, ih]
      by_cases hg : g = group
      · subst hg
        by_cases hs : type = type' ∧ field = field'
        · rw [if_pos hs, if_pos hs, List.count_cons_self, List.replicate_succ, hs.1, hs.2,
            if_pos rfl]
        · rw [if_neg hs, if_neg hs, if_neg]
          intro heq
          injection heq with _ ht hf
          exact hs ⟨ht, hf⟩
      · rw [List.count_cons_of_ne hg, if_neg]
        intro heq
        injection heq with hgroup _ _
        exact hg hgroup

theorem Rule.matchersIn_filings (r : Rule) (type : TypeKey) (field : String) (slot : Slot) :
    matchersIn type slot (r.filings field) =
      if type = slot.type ∧ field = slot.field then r.matchersFor slot.group else [] := by
  unfold Rule.filings Rule.matchersFor
  cases Matcher.compile r with
  | ok m => exact r.matchersIn_filed type field m slot
  | error fault => simp [matchersIn]

/-! ## Listed schemas -/

/-- What holds of the listed schemas and of the schema without fields holds of every type. -/
theorem Schemas.of_listed {P : TypeKey → Schema → Prop} {s : Schemas}
    (listed : ∀ e ∈ s.entries, P e.1 e.2) (unlisted : ∀ type, P type ⟨[]⟩) (type : TypeKey) :
    P type (s.of type) := by
  unfold Schemas.of
  cases hl : s.entries.lookup type with
  | none => exact unlisted type
  | some schema =>
      obtain ⟨before, after, heq, -⟩ := List.lookup_eq_some_iff.mp hl
      exact listed (type, schema) (by simp [heq])

namespace Setting

/-! ## Rules that compile -/

/-- All rules with an effect on a field compile. -/
def CompilesOn (w : Setting) (type : TypeKey) (f : Field) : Prop :=
  ∀ r ∈ w.enabledRules type f, ∃ m, Matcher.compile r = .ok m

instance (w : Setting) (type : TypeKey) (f : Field) : Decidable (w.CompilesOn type f) :=
  decidable_of_iff (∀ r ∈ w.enabledRules type f, (Matcher.compile r).isOk = true)
    (forall₂_congr fun r _ => by cases Matcher.compile r <;> simp [Except.isOk, Except.toBool])

/-- All rules with an effect on a type compile. -/
def Compiles (w : Setting) (type : TypeKey) : Prop :=
  ∀ f ∈ (w.schemas.of type).fields, w.CompilesOn type f

/-- A rule with an effect on a type does not compile. -/
def Malformed (w : Setting) (type : TypeKey) : Prop :=
  ∃ f ∈ (w.schemas.of type).fields, ∃ r ∈ w.enabledRules type f, ∃ fault,
    Matcher.compile r = .error fault

theorem not_malformed_iff {w : Setting} {type : TypeKey} :
    ¬w.Malformed type ↔ w.Compiles type := by
  constructor
  · intro h f hf r hr
    cases hc : Matcher.compile r with
    | ok m => exact ⟨m, rfl⟩
    | error fault => exact absurd ⟨f, hf, r, hr, fault, hc⟩ h
  · rintro h ⟨f, hf, r, hr, fault, hc⟩
    obtain ⟨m, hm⟩ := h f hf r hr
    rw [hm] at hc
    cases hc

/-- A type that is not listed has no field, and so no rule that could be malformed. -/
theorem compiles_of_listed {w : Setting}
    (h : ∀ e ∈ w.schemas.entries, ∀ f ∈ e.2.fields, w.CompilesOn e.1 f) (type : TypeKey) :
    w.Compiles type :=
  Schemas.of_listed (P := fun type schema => ∀ f ∈ schema.fields, w.CompilesOn type f) h
    (fun _ f hf => by cases hf) type

/-! ## The graph of types -/

/-- A field without rules that is to be walked leads from one type to another. -/
def Leads (w : Setting) (type target : TypeKey) : Prop :=
  ∃ f ∈ (w.schemas.of type).fields, w.enabledRules type f = [] ∧ f.checked = true ∧
    (f.type = .nested target ∨
      ∃ shape element, f.type = .container shape element ∧
        f.type.checkableElement? = some target)

/-- A type leads to another one in any number of steps. -/
def Reaches (w : Setting) : TypeKey → TypeKey → Prop :=
  Relation.ReflTransGen w.Leads

/-! ## The fields that need attention -/

/-- How a declared field is to be treated, if it needs attention at all. -/
def kind? (w : Setting) (type : TypeKey) (f : Field) : Option FieldKind :=
  if w.enabledRules type f ≠ [] then some .rules
  else if f.checked then
    match f.type with
    | .nested _ => some .nested
    | .container _ element => if element.checkableElement?.isSome then some .container else none
    | .leaf => none
    | .foreign => none
  else none

/-- The fields that need attention among declared ones, in the same order. -/
def indexed (w : Setting) (type : TypeKey) (fields : List Field) : List IndexedField :=
  fields.filterMap fun f => (w.kind? type f).map (IndexedField.mk f.name)

/-- The index of a type. -/
def entryOf (w : Setting) (type : TypeKey) : ClassIndex :=
  ⟨type, w.indexed type (w.schemas.of type).fields⟩

/-! ## The compiled rules of a type -/

/-- The compiled rules on a field, filed under their groups. -/
def filedOn (w : Setting) (type : TypeKey) (f : Field) : List FieldRule :=
  (w.enabledRules type f).flatMap (·.filings f.name)

/-- The compiled rules on declared fields, filed under their groups. -/
def filed (w : Setting) (type : TypeKey) (fields : List Field) : List FieldRule :=
  fields.flatMap (w.filedOn type)

/-- The compiled rules on the declarations of a name, one for each time that they name the group. -/
def matchersOn (w : Setting) (group : String) (type : TypeKey) (field : String) : List Matcher :=
  ((w.schemas.of type).fields.filter (·.name = field)).flatMap fun f =>
    (w.enabledRules type f).flatMap (·.matchersFor group)

/-- The number of pairs of a rule with an effect on a type and a group that it names. -/
def filedCount (w : Setting) (type : TypeKey) : Nat :=
  ((w.schemas.of type).fields.map fun f =>
    ((w.enabledRules type f).map fun r => r.effectiveGroups.length).sum).sum

/-! ## Fields that lead on -/

theorem kind?_of_ruled {w : Setting} {type : TypeKey} {f : Field}
    (h : w.enabledRules type f ≠ []) : w.kind? type f = some .rules := by
  rw [kind?, if_pos h]

theorem kind?_of_ruleless {w : Setting} {type : TypeKey} {f : Field}
    (h : w.enabledRules type f = []) : w.kind? type f = f.target?.map Prod.fst := by
  rw [kind?, if_neg (not_not_intro h), Field.target?]
  cases hc : f.checked with
  | false => rfl
  | true =>
      rw [if_pos rfl, if_pos rfl]
      cases ht : f.type with
      | leaf => rfl
      | foreign => rfl
      | nested type => rfl
      | container shape element =>
          have hinner : (FieldType.container shape element).checkableElement? =
              element.checkableElement? := rfl
          simp only [hinner]
          cases element.checkableElement? with
          | none => rfl
          | some target => rfl

/-- A field that is listed for another reason than its rules has none, and leads to a type. -/
theorem walked_of_kind? {w : Setting} {type : TypeKey} {f : Field} {kind : FieldKind}
    (h : w.kind? type f = some kind) (hne : kind ≠ .rules) :
    w.enabledRules type f = [] ∧ ∃ target, f.target? = some (kind, target) := by
  by_cases hr : w.enabledRules type f = []
  · rw [kind?_of_ruleless hr] at h
    obtain ⟨⟨kind', target⟩, ht, rfl⟩ := Option.map_eq_some_iff.mp h
    exact ⟨hr, target, ht⟩
  · rw [kind?_of_ruled hr] at h
    cases h
    exact absurd rfl hne

theorem indexed_cons_of_none {w : Setting} {type : TypeKey} {f : Field}
    (h : w.kind? type f = none) (fields : List Field) :
    w.indexed type (f :: fields) = w.indexed type fields := by
  simp [indexed, h]

theorem indexed_cons_of_some {w : Setting} {type : TypeKey} {f : Field} {kind : FieldKind}
    (h : w.kind? type f = some kind) (fields : List Field) :
    w.indexed type (f :: fields) = ⟨f.name, kind⟩ :: w.indexed type fields := by
  simp [indexed, h]

/-- A field that leads to a type holds an object or a container. -/
theorem kind_of_target? {f : Field} {kind : FieldKind} {target : TypeKey}
    (h : f.target? = some (kind, target)) : kind = .nested ∨ kind = .container := by
  unfold Field.target? at h
  cases hc : f.checked with
  | false =>
      rw [hc] at h
      cases h
  | true =>
      rw [hc, if_pos rfl] at h
      cases ht : f.type with
      | leaf =>
          rw [ht] at h
          cases h
      | foreign =>
          rw [ht] at h
          cases h
      | nested type =>
          rw [ht] at h
          cases h
          exact .inl rfl
      | container shape element =>
          rw [ht] at h
          obtain ⟨_, _, heq⟩ := Option.map_eq_some_iff.mp h
          cases heq
          exact .inr rfl

/-- The targets of a field, as `Leads` states them. -/
theorem target?_eq_some_iff {f : Field} {target : TypeKey} :
    (∃ kind, f.target? = some (kind, target)) ↔
      f.checked = true ∧
        (f.type = .nested target ∨
          ∃ shape element, f.type = .container shape element ∧
            f.type.checkableElement? = some target) := by
  unfold Field.target?
  cases f.checked with
  | false => simp
  | true =>
      cases ht : f.type with
      | leaf => simp
      | foreign => simp
      | nested type => simp [eq_comm]
      | container shape element => simp

theorem leads_iff {w : Setting} {type target : TypeKey} :
    w.Leads type target ↔ ∃ f ∈ (w.schemas.of type).fields,
      w.enabledRules type f = [] ∧ ∃ kind, f.target? = some (kind, target) := by
  unfold Leads
  simp only [target?_eq_some_iff]

/-! ## Compiling the rules of a field -/

theorem compileRules_ok {owner field : String} {rs : List Rule} {rules : List FieldRule}
    (h : compileRules owner field rs = .ok rules) :
    (∀ r ∈ rs, ∃ m, Matcher.compile r = .ok m) ∧ rules = rs.flatMap (·.filings field) := by
  induction rs generalizing rules with
  | nil =>
      cases h
      exact ⟨by simp, rfl⟩
  | cons r rs ih =>
      unfold compileRules Matcher.compileFor at h
      cases hc : Matcher.compile r with
      | error fault =>
          rw [hc] at h
          cases h
      | ok m =>
          rw [hc] at h
          cases hr : compileRules owner field rs with
          | error e =>
              simp only [Except.mapError, hr, Except.map] at h
              cases h
          | ok rules' =>
              simp only [Except.mapError, hr, Except.map] at h
              cases h
              obtain ⟨hall, rfl⟩ := ih hr
              refine ⟨?_, ?_⟩
              · intro r' hr'
                rcases List.mem_cons.mp hr' with rfl | hmem
                · exact ⟨m, hc⟩
                · exact hall r' hmem
              · rw [List.flatMap_cons, Rule.filings, hc]

theorem compileRules_error {owner field : String} {rs : List Rule} {e : RuleError}
    (h : compileRules owner field rs = .error e) :
    ∃ r ∈ rs, ∃ fault, Matcher.compile r = .error fault ∧ e = ⟨owner, field, fault⟩ := by
  induction rs with
  | nil => cases h
  | cons r rs ih =>
      unfold compileRules Matcher.compileFor at h
      cases hc : Matcher.compile r with
      | error fault =>
          rw [hc] at h
          cases h
          exact ⟨r, List.mem_cons_self, fault, hc, rfl⟩
      | ok m =>
          rw [hc] at h
          cases hr : compileRules owner field rs with
          | ok rules =>
              simp only [Except.mapError, hr, Except.map] at h
              cases h
          | error e' =>
              simp only [Except.mapError, hr, Except.map] at h
              cases h
              obtain ⟨r', hmem, hfault⟩ := ih hr
              exact ⟨r', List.mem_cons_of_mem _ hmem, hfault⟩

theorem compileField_ok {w : Setting} {type : TypeKey} {f : Field} {rules : List FieldRule}
    (h : w.compileField type f = .ok rules) :
    w.CompilesOn type f ∧ rules = w.filedOn type f :=
  compileRules_ok h

/-- Compiled rules always come to something: each of them names a group. -/
theorem filedOn_eq_nil_iff {w : Setting} {type : TypeKey} {f : Field}
    (h : w.CompilesOn type f) : w.filedOn type f = [] ↔ w.enabledRules type f = [] := by
  rw [filedOn, List.flatMap_eq_nil_iff]
  constructor
  · intro hnil
    cases hr : w.enabledRules type f with
    | nil => rfl
    | cons r rs =>
        have hmem : r ∈ w.enabledRules type f := hr ▸ List.mem_cons_self
        obtain ⟨m, hm⟩ := h r hmem
        have hfilings := hnil r hmem
        rw [Rule.filings, hm] at hfilings
        exact absurd hfilings (r.filed_ne_nil f.name m)
  · intro hnil r hr
    rw [hnil] at hr
    cases hr

/-! ## Reading the compiled rules back -/

/-- The batch of a type, read back through a slot of the type. -/
theorem matchersIn_filed (w : Setting) (group : String) (type : TypeKey) (field : String) :
    matchersIn type ⟨group, type, field⟩ (w.filed type (w.schemas.of type).fields) =
      w.matchersOn group type field := by
  unfold filed matchersOn
  induction (w.schemas.of type).fields with
  | nil => rfl
  | cons f fields ih =>
      have hone : matchersIn type ⟨group, type, field⟩ (w.filedOn type f) =
          if f.name = field then (w.enabledRules type f).flatMap (·.matchersFor group) else [] := by
        rw [filedOn, matchersIn_flatMap]
        by_cases hn : f.name = field
        · simp [Rule.matchersIn_filings, hn]
        · simp [Rule.matchersIn_filings, hn]
      rw [List.flatMap_cons, matchersIn_append, ih, hone]
      by_cases hn : f.name = field
      · rw [if_pos hn, List.filter_cons_of_pos (by simpa using hn), List.flatMap_cons]
      · rw [if_neg hn, List.filter_cons_of_neg (by simpa using hn), List.nil_append]

theorem length_filedOn {w : Setting} {type : TypeKey} {f : Field} (h : w.CompilesOn type f) :
    (w.filedOn type f).length =
      ((w.enabledRules type f).map fun r => r.effectiveGroups.length).sum := by
  rw [filedOn, List.length_flatMap]
  congr 1
  refine List.map_congr_left fun r hr => ?_
  obtain ⟨m, hm⟩ := h r hr
  simp only [Rule.filings, hm, Rule.filed, List.length_map]

theorem length_filed {w : Setting} {type : TypeKey} (h : w.Compiles type) :
    (w.filed type (w.schemas.of type).fields).length = w.filedCount type := by
  rw [filed, List.length_flatMap, filedCount]
  congr 1
  exact List.map_congr_left fun f hf => length_filedOn (h f hf)

end Setting

end FieldRules
