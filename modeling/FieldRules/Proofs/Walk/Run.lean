import FieldRules.Proofs.Declared

/-!
# `Proofs.Walk.Run` — the walk through the graph of types as a relation

`Setting.collect` goes through the fields of a type with the session in its hands. `Walk` says the
same as a relation between the session before, the outcome and the session after, one constructor
for each thing that can happen at a field, in terms of the schemas and the rule book alone. Every
statement about the walk is an induction on `Walk`.

Reports leave no trace in the relation: a session may be replaced by one with the same index and the
same registry (`Session.Alike`).

## Contents
- **`Session.Alike`**, the same index and registry.
- **`Walk`** and **`collect_walk`**: the walk that `collect` makes.
- **`ensureIndexed_cases`**: a request finds the index of a type or makes the walk for it.
-/

namespace FieldRules

/-! ## Sessions up to reports -/

/-- Two sessions with the same index and the same registry. -/
structure Session.Alike (s s' : Session) : Prop where
  index : s'.index = s.index
  registry : s'.registry = s.registry

namespace Session.Alike

theorem refl (s : Session) : s.Alike s := ⟨rfl, rfl⟩

theorem trans {s s' s'' : Session} (h : s.Alike s') (h' : s'.Alike s'') : s.Alike s'' :=
  ⟨h'.index.trans h.index, h'.registry.trans h.registry⟩

theorem report (s : Session) (e : Event) : s.Alike (s.report e) := ⟨rfl, rfl⟩

theorem reportAll (s : Session) (es : List Event) : s.Alike (s.reportAll es) :=
  ⟨s.index_reportAll es, s.registry_reportAll es⟩

theorem enter (w : Setting) (type : TypeKey) (s : Session) : s.Alike (w.enter type s) :=
  reportAll s _

end Session.Alike

namespace Setting

/-! ## The relation -/

/-- What fields of a type come to when all of their rules compile. -/
def collected (w : Setting) (type : TypeKey) (fields : List Field) : Collected :=
  ⟨w.indexed type fields, w.filed type fields⟩

/-- `Walk w type stack fields s r s'`: going through `fields` of `type`, with the types on `stack`
under way, leads from the session `s` to the session `s'` with the outcome `r`. -/
inductive Walk (w : Setting) : TypeKey → List TypeKey → List Field → Session →
    Except RuleError Collected → Session → Prop where
  | done {type stack s} : Walk w type stack [] s (.ok ⟨[], []⟩) s
  /-- A rule on the field does not compile. -/
  | malformed {type stack f rest s e} (error : w.compileField type f = .error e) :
      Walk w type stack (f :: rest) s (.error e) s
  | ruled {type stack f rest s s₁ r s'} (compiles : w.CompilesOn type f)
      (rules : w.enabledRules type f ≠ []) (alike : s.Alike s₁)
      (next : Walk w type stack rest s₁ r s') :
      Walk w type stack (f :: rest) s (r.map (·.add ⟨f.name, .rules⟩ (w.filedOn type f))) s'
  | unwalked {type stack f rest s s₁ r s'} (ruleless : w.enabledRules type f = [])
      (leads : f.target? = none) (alike : s.Alike s₁) (next : Walk w type stack rest s₁ r s') :
      Walk w type stack (f :: rest) s r s'
  /-- The target is under way or indexed. -/
  | known {type stack f rest s s₁ r s' kind target} (ruleless : w.enabledRules type f = [])
      (leads : f.target? = some (kind, target))
      (known : target ∈ stack ∨ s.index.contains target = true) (alike : s.Alike s₁)
      (next : Walk w type stack rest s₁ r s') :
      Walk w type stack (f :: rest) s (r.map (·.add ⟨f.name, kind⟩ [])) s'
  /-- The target is entered and a malformed rule is met inside of it. -/
  | broken {type stack f rest s s₁ s' kind target e} (ruleless : w.enabledRules type f = [])
      (leads : f.target? = some (kind, target)) (unstacked : target ∉ stack)
      (new : s.index.contains target = false) (alike : s.Alike s₁)
      (inner : Walk w target (target :: stack) (w.schemas.of target).fields s₁ (.error e) s') :
      Walk w type stack (f :: rest) s (.error e) s'
  /-- The target is entered and published. -/
  | entered {type stack f rest s s₁ s₂ r s' kind target c}
      (ruleless : w.enabledRules type f = []) (leads : f.target? = some (kind, target))
      (unstacked : target ∉ stack) (new : s.index.contains target = false) (alike : s.Alike s₁)
      (inner : Walk w target (target :: stack) (w.schemas.of target).fields s₁ (.ok c) s₂)
      (next : Walk w type stack rest (publish target c s₂).2 r s') :
      Walk w type stack (f :: rest) s (r.map (·.add ⟨f.name, kind⟩ [])) s'

/-! ## The walk that is made -/

theorem finish_eq_error {type : TypeKey} {p : Except RuleError Collected × Session} {e : RuleError}
    {s : Session} (h : finish type p = (.error e, s)) : p = (.error e, s) := by
  obtain ⟨r, s₁⟩ := p
  cases r with
  | error e' =>
      unfold finish at h
      injection h with he hs
      injection he with he
      rw [he, hs]
  | ok c =>
      unfold finish at h
      injection h with he hs
      cases he

theorem finish_eq_ok {type : TypeKey} {p : Except RuleError Collected × Session}
    {entry : ClassIndex} {s : Session} (h : finish type p = (.ok entry, s)) :
    ∃ c, p.1 = .ok c ∧ publish type c p.2 = (entry, s) := by
  obtain ⟨r, s₁⟩ := p
  cases r with
  | error e =>
      unfold finish at h
      injection h with he hs
      cases he
  | ok c =>
      unfold finish at h
      injection h with he hs
      injection he with he
      exact ⟨c, rfl, Prod.ext he hs⟩

/-- **The walk of `collect`.** -/
theorem collect_walk (w : Setting) (type : TypeKey) (stack : List TypeKey) (fields : List Field)
    (s : Session) :
    w.Walk type stack fields s (w.collect type stack fields s).1
      (w.collect type stack fields s).2 := by
  fun_induction Setting.collect w type stack fields s with
  | case1 type stack s => exact .done
  | case2 type stack s f rest e error => exact .malformed error
  | case3 type stack s f rest rule rules hc filed r s' heq ih =>
      obtain ⟨compiles, hfiled⟩ := compileField_ok hc
      have rules_ne : w.enabledRules type f ≠ [] := by
        rw [Ne, ← filedOn_eq_nil_iff compiles, ← hfiled]
        exact List.cons_ne_nil _ _
      rw [heq] at ih
      have h := Walk.ruled compiles rules_ne (.report s _) ih
      rwa [← hfiled] at h
  | case4 type stack s f rest hc s₁ target ih =>
      obtain ⟨compiles, hfiled⟩ := compileField_ok hc
      exact .unwalked ((filedOn_eq_nil_iff compiles).mp hfiled.symm) target (.reportAll s _) ih
  | case5 type stack s f rest hc s₁ kind target htarget onStack r s' heq ih =>
      obtain ⟨compiles, hfiled⟩ := compileField_ok hc
      rw [heq] at ih
      exact .known ((filedOn_eq_nil_iff compiles).mp hfiled.symm) htarget (.inl onStack)
        ((Session.Alike.reportAll s _).trans (.report _ _)) ih
  | case6 type stack s f rest hc s₁ kind target htarget offStack indexed r s' heq ih =>
      obtain ⟨compiles, hfiled⟩ := compileField_ok hc
      have alike : s.Alike s₁ := .reportAll s _
      rw [heq] at ih
      rw [alike.index] at indexed
      exact .known ((filedOn_eq_nil_iff compiles).mp hfiled.symm) htarget (.inr indexed) alike ih
  | case7 type stack s f rest hc s₁ kind target htarget offStack new e s' heq ih =>
      obtain ⟨compiles, hfiled⟩ := compileField_ok hc
      have alike : s.Alike s₁ := .reportAll s _
      rw [finish_eq_error heq] at ih
      rw [alike.index] at new
      exact .broken ((filedOn_eq_nil_iff compiles).mp hfiled.symm) htarget offStack
        (by simpa using new) (alike.trans (.enter w target s₁)) ih
  | case8 type stack s f rest hc s₁ kind target htarget offStack new entry s₂ heq r s' heq' ih
      ih' =>
      obtain ⟨compiles, hfiled⟩ := compileField_ok hc
      obtain ⟨c, hok, hpublish⟩ := finish_eq_ok heq
      have alike : s.Alike s₁ := .reportAll s _
      rw [hok] at ih
      rw [heq'] at ih'
      rw [alike.index] at new
      refine .entered ((filedOn_eq_nil_iff compiles).mp hfiled.symm) htarget offStack
        (by simpa using new) (alike.trans (.enter w target s₁)) ih ?_
      rw [hpublish]
      exact ih'

/-! ## A request -/

/-- A request for a type finds its index, or walks through the fields of the type. -/
theorem ensureIndexed_cases (w : Setting) (type : TypeKey) (s : Session) :
    (s.index.contains type = true ∧
      ∃ entry, s.index.get? type = some entry ∧ w.ensureIndexed type s = (.ok entry, s)) ∨
    (s.index.contains type = false ∧ ∃ s₁ s₂, s.Alike s₁ ∧
      ((∃ e, w.Walk type [type] (w.schemas.of type).fields s₁ (.error e) s₂ ∧
          w.ensureIndexed type s = (.error e, s₂)) ∨
        ∃ c, w.Walk type [type] (w.schemas.of type).fields s₁ (.ok c) s₂ ∧
          w.ensureIndexed type s = (.ok (publish type c s₂).1, (publish type c s₂).2))) := by
  unfold ensureIndexed
  cases hget : s.index.get? type with
  | some entry =>
      left
      refine ⟨?_, entry, rfl, rfl⟩
      cases hcontains : s.index.contains type with
      | true => rfl
      | false => rw [(Index.get?_eq_none_iff _ _).mpr hcontains] at hget; cases hget
  | none =>
      right
      have walk := w.collect_walk type [type] (w.schemas.of type).fields (w.enter type s)
      simp only [build]
      cases hr : w.collect type [type] (w.schemas.of type).fields (w.enter type s) with
      | mk r s₂ =>
          rw [hr] at walk
          refine ⟨(Index.get?_eq_none_iff _ _).mp hget, w.enter type s, s₂, .enter w type s, ?_⟩
          cases r with
          | error e => exact .inl ⟨e, walk, rfl⟩
          | ok c => exact .inr ⟨c, walk, rfl⟩

end Setting

end FieldRules
