import FieldRules.Proofs.Text.Reading
import FieldRules.Proofs.Walk.Run

/-!
# `Proofs.Walk.Growth` — how a session grows, and what stays exact meanwhile

Whatever a walk does, it moves the session by steps of two kinds: a report, or the publication of
one type that is not indexed yet and whose rules all compile, with exactly the fields and the filed
rules that schemas and rule book give it. `Exact` says that index and registry hold these and
nothing else. It is kept by every step, hence by every run of steps.

## Contents
- **`Step`** and **`Steps`**; the index only ever grows.
- **`Walk.collected`**: a walk that ends well has collected what is declared.
- **`Walk.steps`**: a walk moves the session by steps, also where it breaks off.
- **`Exact`**, with `Exact.step` and `Exact.steps`.
-/

namespace FieldRules

namespace Setting

/-! ## Publication -/

theorem publish_of_contains {type : TypeKey} {c : Collected} {s : Session}
    (h : s.index.contains type = true) :
    ∃ entry, s.index.get? type = some entry ∧ publish type c s = (entry, s) := by
  cases hget : s.index.get? type with
  | none =>
      rw [(Index.get?_eq_none_iff _ _).mp hget] at h
      cases h
  | some entry => exact ⟨entry, rfl, by rw [publish, hget]⟩

theorem publish_of_new {type : TypeKey} {c : Collected} {s : Session}
    (h : s.index.contains type = false) :
    (publish type c s).1 = ⟨type, c.fields⟩ ∧
      (publish type c s).2.index = s.index.insert ⟨type, c.fields⟩ ∧
      (publish type c s).2.registry = s.registry.registerAll type c.rules := by
  have hget : s.index.get? type = none := (Index.get?_eq_none_iff _ _).mpr h
  unfold publish
  rw [hget]
  exact ⟨rfl, rfl, rfl⟩

theorem contains_insert {i : Index} {c : ClassIndex} (h : i.contains c.type = false)
    (type : TypeKey) :
    (i.insert c).contains type = true ↔ type = c.type ∨ i.contains type = true := by
  simp only [Index.contains_iff, Index.classes_insert h, List.map_append, List.map_singleton,
    List.mem_append, List.mem_singleton]
  exact or_comm

theorem contains_publish {type : TypeKey} {c : Collected} {s : Session} (type' : TypeKey) :
    (publish type c s).2.index.contains type' = true ↔
      type' = type ∨ s.index.contains type' = true := by
  cases h : s.index.contains type with
  | true =>
      obtain ⟨entry, -, hpublish⟩ := publish_of_contains (c := c) h
      rw [hpublish]
      exact ⟨Or.inr, fun hor => hor.elim (fun heq => heq ▸ h) id⟩
  | false =>
      obtain ⟨-, hindex, -⟩ := publish_of_new (c := c) h
      rw [hindex]
      exact contains_insert (c := ⟨type, c.fields⟩) h type'

/-- The session after a type is published with what is declared for it. -/
def enroll (w : Setting) (type : TypeKey) (s : Session) : Session :=
  (publish type (w.collected type (w.schemas.of type).fields) s).2

theorem contains_enroll {w : Setting} {type : TypeKey} {s : Session} (type' : TypeKey) :
    (w.enroll type s).index.contains type' = true ↔
      type' = type ∨ s.index.contains type' = true :=
  contains_publish type'

theorem enroll_of_contains {w : Setting} {type : TypeKey} {s : Session}
    (h : s.index.contains type = true) : w.enroll type s = s := by
  obtain ⟨entry, -, hpublish⟩ := publish_of_contains
    (c := w.collected type (w.schemas.of type).fields) h
  rw [enroll, hpublish]

/-! ## Steps -/

/-- A step of a session: a report, or the publication of one more type. -/
inductive Step (w : Setting) : Session → Session → Prop where
  | noted {s s'} (alike : s.Alike s') : Step w s s'
  | published {s type} (new : s.index.contains type = false) (compiles : w.Compiles type) :
      Step w s (w.enroll type s)

/-- Any number of steps. -/
def Steps (w : Setting) : Session → Session → Prop :=
  Relation.ReflTransGen w.Step

theorem Steps.of_alike {w : Setting} {s s' : Session} (h : s.Alike s') : w.Steps s s' :=
  Relation.ReflTransGen.single (.noted h)

/-- Publishing a type is a step, or nothing where the type is indexed already. -/
theorem Steps.enroll {w : Setting} {type : TypeKey} (h : w.Compiles type) (s : Session) :
    w.Steps s (w.enroll type s) := by
  cases hcontains : s.index.contains type with
  | true =>
      rw [enroll_of_contains hcontains]
      exact .refl
  | false => exact .single (.published hcontains h)

theorem Step.contains {w : Setting} {s s' : Session} (h : w.Step s s') {type : TypeKey}
    (hc : s.index.contains type = true) : s'.index.contains type = true := by
  cases h with
  | noted alike => rwa [alike.index]
  | published new compiles => exact (contains_enroll type).mpr (.inr hc)

/-- **The index only grows.** -/
theorem Steps.contains {w : Setting} {s s' : Session} (h : w.Steps s s') {type : TypeKey}
    (hc : s.index.contains type = true) : s'.index.contains type = true := by
  induction h with
  | refl => exact hc
  | tail _ hstep ih => exact hstep.contains ih

/-! ## The walk moves by steps -/

theorem map_eq_error {α β : Type} {f : α → β} {r : Except RuleError α} {e : RuleError}
    (h : r.map f = .error e) : r = .error e := by
  cases r with
  | error e' =>
      cases h
      rfl
  | ok a => cases h

/-- **A walk that ends well has collected what is declared,** and all rules on its fields compile.
-/
theorem Walk.collected {w : Setting} {type : TypeKey} {stack : List TypeKey} {fields : List Field}
    {s s' : Session} {r : Except RuleError Collected} (h : w.Walk type stack fields s r s') :
    ∀ c, r = .ok c → c = w.collected type fields ∧ ∀ f ∈ fields, w.CompilesOn type f := by
  -- a field without rules compiles, and is listed by where it leads
  have ruleless {type : TypeKey} {f : Field} (hr : w.enabledRules type f = []) :
      w.CompilesOn type f ∧ w.filedOn type f = [] := by
    refine ⟨fun r hmem => ?_, ?_⟩
    · rw [hr] at hmem
      cases hmem
    · rw [filedOn, hr]
      rfl
  have walked {type : TypeKey} {f : Field} {rest : List Field} {kind : FieldKind}
      {target : TypeKey} (hr : w.enabledRules type f = []) (ht : f.target? = some (kind, target)) :
      (w.collected type rest).add ⟨f.name, kind⟩ [] = w.collected type (f :: rest) := by
    have hkind : w.kind? type f = some kind := by rw [kind?_of_ruleless hr, ht]; rfl
    simp [Setting.collected, Collected.add, indexed, filed, hkind, (ruleless hr).2]
  induction h with
  | done =>
      intro c hc
      cases hc
      exact ⟨rfl, by simp⟩
  | malformed error =>
      intro c hc
      cases hc
  | @ruled type stack f rest s s₁ r s' compiles rules alike next ih =>
      intro c hc
      obtain ⟨c', hr, rfl⟩ := map_eq_ok hc
      obtain ⟨rfl, hrest⟩ := ih c' hr
      refine ⟨?_, List.forall_mem_cons.mpr ⟨compiles, hrest⟩⟩
      simp [Setting.collected, Collected.add, indexed, filed, kind?_of_ruled rules]
  | @unwalked type stack f rest s s₁ r s' hr leads alike next ih =>
      intro c hc
      obtain ⟨rfl, hrest⟩ := ih c hc
      refine ⟨?_, List.forall_mem_cons.mpr ⟨(ruleless hr).1, hrest⟩⟩
      have hkind : w.kind? type f = none := by rw [kind?_of_ruleless hr, leads]; rfl
      simp [Setting.collected, indexed, filed, hkind, (ruleless hr).2]
  | known hr leads known alike next ih =>
      intro c hc
      obtain ⟨c', hok, rfl⟩ := map_eq_ok hc
      obtain ⟨rfl, hrest⟩ := ih c' hok
      exact ⟨walked hr leads, List.forall_mem_cons.mpr ⟨(ruleless hr).1, hrest⟩⟩
  | broken hr leads unstacked new alike inner ih =>
      intro c hc
      cases hc
  | entered hr leads unstacked new alike inner next _ ih =>
      intro c hc
      obtain ⟨c', hok, rfl⟩ := map_eq_ok hc
      obtain ⟨rfl, hrest⟩ := ih c' hok
      exact ⟨walked hr leads, List.forall_mem_cons.mpr ⟨(ruleless hr).1, hrest⟩⟩

/-- **A walk moves the session by steps,** whether it ends well or breaks off. -/
theorem Walk.steps {w : Setting} {type : TypeKey} {stack : List TypeKey} {fields : List Field}
    {s s' : Session} {r : Except RuleError Collected} (h : w.Walk type stack fields s r s') :
    w.Steps s s' := by
  induction h with
  | done => exact .refl
  | malformed error => exact .refl
  | ruled compiles rules alike next ih => exact (Steps.of_alike alike).trans ih
  | unwalked hr leads alike next ih => exact (Steps.of_alike alike).trans ih
  | known hr leads known alike next ih => exact (Steps.of_alike alike).trans ih
  | broken hr leads unstacked new alike inner ih => exact (Steps.of_alike alike).trans ih
  | entered hr leads unstacked new alike inner next ih ih' =>
      obtain ⟨rfl, compiles⟩ := inner.collected _ rfl
      exact (((Steps.of_alike alike).trans ih).trans (Steps.enroll compiles _)).trans ih'

theorem ensureIndexed_steps (w : Setting) (type : TypeKey) (s : Session) :
    w.Steps s (w.ensureIndexed type s).2 := by
  rcases w.ensureIndexed_cases type s with ⟨-, entry, -, heq⟩ | ⟨-, s₁, s₂, alike, hwalk⟩
  · rw [heq]
    exact .refl
  · rcases hwalk with ⟨e, walk, heq⟩ | ⟨c, walk, heq⟩
    · rw [heq]
      exact (Steps.of_alike alike).trans walk.steps
    · obtain ⟨rfl, compiles⟩ := walk.collected _ rfl
      rw [heq]
      exact ((Steps.of_alike alike).trans walk.steps).trans (Steps.enroll compiles s₂)

/-! ## Exact sessions -/

/-- Index and registry hold what schemas and rule book say about the indexed types, and no more. -/
structure Exact (w : Setting) (s : Session) : Prop where
  /-- The rules of an indexed type compile. -/
  compiles : ∀ type, s.index.contains type = true → w.Compiles type
  /-- The index of a type lists the fields that need attention, in the order of declaration. -/
  entry : ∀ type, s.index.contains type = true → s.index.get? type = some (w.entryOf type)
  /-- A slot of an indexed type holds the compiled rules for it, split by polarity. -/
  resolve : ∀ group type field, s.index.contains type = true →
    s.registry.resolve ⟨group, type, field⟩ = .ofMatchers (w.matchersOn group type field)
  /-- A slot of any other type is empty. -/
  vacant : ∀ group type field, s.index.contains type = false →
    s.registry.resolve ⟨group, type, field⟩ = ⟨[], []⟩
  /-- Nothing is registered twice. -/
  size : s.registry.size = ((s.index.classes.map ClassIndex.type).map w.filedCount).sum

theorem Exact.empty (w : Setting) : w.Exact .empty where
  compiles _ h := by cases h
  entry _ h := by cases h
  resolve _ _ _ h := by cases h
  vacant _ _ _ _ := rfl
  size := rfl

theorem Exact.of_alike {w : Setting} {s s' : Session} (h : w.Exact s) (alike : s.Alike s') :
    w.Exact s' := by
  obtain ⟨hindex, hregistry⟩ := alike
  constructor <;> rw [hindex] <;> try rw [hregistry]
  · exact h.compiles
  · exact h.entry
  · exact h.resolve
  · exact h.vacant
  · exact h.size

/-- **A publication keeps the session exact.** The slots of the new type were empty before, so each
holds the batch of the type afterwards; no other slot changes. -/
theorem Exact.enroll {w : Setting} {s : Session} {type : TypeKey} (h : w.Exact s)
    (new : s.index.contains type = false) (compiles : w.Compiles type) :
    w.Exact (w.enroll type s) := by
  have hindex : (w.enroll type s).index = s.index.insert (w.entryOf type) :=
    (publish_of_new new).2.1
  have hregistry : (w.enroll type s).registry =
      s.registry.registerAll type (w.filed type (w.schemas.of type).fields) :=
    (publish_of_new new).2.2
  have hnew : s.index.contains (w.entryOf type).type = false := new
  refine ⟨?_, ?_, ?_, ?_, ?_⟩
  · intro type' hc
    rcases (contains_enroll type').mp hc with rfl | hold
    · exact compiles
    · exact h.compiles type' hold
  · intro type' hc
    rw [hindex, Index.get?_insert hnew]
    by_cases heq : type' = type
    · subst heq
      exact if_pos rfl
    · rw [if_neg (show ¬type' = (w.entryOf type).type from heq)]
      exact h.entry type' (((contains_enroll type').mp hc).resolve_left heq)
  · intro group type' field hc
    rw [hregistry, Registry.resolve_registerAll]
    by_cases heq : type' = type
    · subst heq
      rw [h.vacant group type' field new, matchersIn_filed, Resolved.empty_append]
    · have hold := ((contains_enroll type').mp hc).resolve_left heq
      rw [matchersIn_of_ne heq, h.resolve group type' field hold]
      exact Resolved.append_empty _
  · intro group type' field hc
    have hnot : ¬(type' = type ∨ s.index.contains type' = true) := fun hor => by
      rw [(contains_enroll type').mpr hor] at hc
      cases hc
    have hvacant : s.index.contains type' = false := by
      simpa using fun hold => hnot (.inr hold)
    rw [hregistry, Registry.resolve_registerAll, matchersIn_of_ne (fun heq => hnot (.inl heq)),
      h.vacant group type' field hvacant]
    rfl
  · rw [hregistry, hindex, Registry.size_registerAll, Index.classes_insert hnew, h.size,
      length_filed compiles]
    simp [entryOf]

/-- **A step keeps the session exact.** -/
theorem Exact.step {w : Setting} {s s' : Session} (h : w.Exact s) (hstep : w.Step s s') :
    w.Exact s' := by
  cases hstep with
  | noted alike => exact h.of_alike alike
  | published new compiles => exact h.enroll new compiles

theorem Exact.steps {w : Setting} {s s' : Session} (h : w.Exact s) (hsteps : w.Steps s s') :
    w.Exact s' := by
  induction hsteps with
  | refl => exact h
  | tail _ hstep ih => exact ih.step hstep

end Setting

end FieldRules
