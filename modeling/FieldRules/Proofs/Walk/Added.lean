import FieldRules.Proofs.Walk.Failure

/-!
# `Proofs.Walk.Added` — what a request adds to the index

A walk enters a type only along fields that lead to it, and only if the type is new. So whatever it
adds to the index is reached through types that were not indexed in the beginning. Where a request
ends well, the converse is known already: all that can be reached in this way is indexed afterwards.
Together this says what a request makes of an index, without a walk.

## Contents
- **`FieldsReachNew`** and **`Walk.added`**: what a walk adds is reached from the fields it goes
  through.
- **`ensureIndexed_added`** and **`contains_ensureIndexed_iff`**, the same of requests.
-/

namespace FieldRules

namespace Setting

/-- One of the fields leads to a new type that reaches the given one through new types. -/
def FieldsReachNew (w : Setting) (type : TypeKey) (fields : List Field) (i : Index)
    (found : TypeKey) : Prop :=
  ∃ f ∈ fields, w.enabledRules type f = [] ∧ ∃ kind target, f.target? = some (kind, target) ∧
    w.ReachesNew i target found

namespace FieldsReachNew

variable {w : Setting} {type found : TypeKey} {fields : List Field} {i i' : Index}

theorem cons (h : w.FieldsReachNew type fields i found) (f : Field) :
    w.FieldsReachNew type (f :: fields) i found := by
  obtain ⟨g, hg, hlead⟩ := h
  exact ⟨g, List.mem_cons_of_mem f hg, hlead⟩

theorem of_le (hle : ∀ type, i.contains type = true → i'.contains type = true)
    (h : w.FieldsReachNew type fields i' found) : w.FieldsReachNew type fields i found := by
  obtain ⟨f, hf, hr, kind, target, ht, hpath⟩ := h
  exact ⟨f, hf, hr, kind, target, ht, hpath.of_le hle⟩

/-- Through all of its fields, a new type reaches what they reach. -/
theorem path (h : w.FieldsReachNew type (w.schemas.of type).fields i found)
    (new : i.contains type = false) : w.ReachesNew i type found := by
  obtain ⟨f, hf, hr, kind, target, ht, hpath⟩ := h
  exact hpath.head new (leads_iff.mpr ⟨f, hf, hr, kind, ht⟩)

end FieldsReachNew

/-- **A walk adds only what its fields reach through new types,** whether it ends well or breaks off.
-/
theorem Walk.added {w : Setting} {type : TypeKey} {stack : List TypeKey} {fields : List Field}
    {s s' : Session} {r : Except RuleError Collected} (h : w.Walk type stack fields s r s') :
    ∀ found, s'.index.contains found = true →
      s.index.contains found = true ∨ w.FieldsReachNew type fields s.index found := by
  induction h with
  | done => exact fun found hc => .inl hc
  | malformed error => exact fun found hc => .inl hc
  | @ruled type stack f rest s s₁ r s' compiles rules alike next ih =>
      intro found hc
      rw [← alike.index]
      exact (ih found hc).imp_right fun hrest => hrest.cons f
  | @unwalked type stack f rest s s₁ r s' hr leads alike next ih =>
      intro found hc
      rw [← alike.index]
      exact (ih found hc).imp_right fun hrest => hrest.cons f
  | @known type stack f rest s s₁ r s' kind target hr leads known alike next ih =>
      intro found hc
      rw [← alike.index]
      exact (ih found hc).imp_right fun hrest => hrest.cons f
  | @broken type stack f rest s s₁ s' kind target e hr leads unstacked new alike inner ih =>
      intro found hc
      rw [← alike.index] at new ⊢
      refine (ih found hc).imp_right fun hinner => ?_
      exact ⟨f, List.mem_cons_self, hr, kind, target, leads, hinner.path new⟩
  | @entered type stack f rest s s₁ s₂ r s' kind target c hr leads unstacked new alike inner next
      ih ih' =>
      intro found hc
      rw [← alike.index] at new ⊢
      -- what is there in the end was there before, or came with the target, or with the rest
      rcases ih' found hc with hpublished | hrest
      · rcases (contains_publish found).mp hpublished with rfl | hbefore
        · exact .inr ⟨f, List.mem_cons_self, hr, kind, found, leads, .refl new⟩
        · refine (ih found hbefore).imp_right fun hinner => ?_
          exact ⟨f, List.mem_cons_self, hr, kind, target, leads, hinner.path new⟩
      · refine .inr (FieldsReachNew.cons (hrest.of_le fun t ht => ?_) f)
        exact (contains_publish t).mpr (.inr (inner.steps.contains ht))

/-- A request adds only types that the requested one reaches through new types. -/
theorem ensureIndexed_added (w : Setting) (type : TypeKey) (s : Session) {found : TypeKey}
    (h : (w.ensureIndexed type s).2.index.contains found = true) :
    s.index.contains found = true ∨ w.ReachesNew s.index type found := by
  rcases w.ensureIndexed_cases type s with ⟨-, entry, -, heq⟩ | ⟨new, s₁, s₂, alike, hwalk⟩
  · rw [heq] at h
    exact .inl h
  · rw [← alike.index] at new ⊢
    rcases hwalk with ⟨e, walk, heq⟩ | ⟨c, walk, heq⟩
    · rw [heq] at h
      exact (walk.added found h).imp_right fun hadded => hadded.path new
    · rw [heq] at h
      rcases (contains_publish found).mp h with rfl | hbefore
      · exact .inr (.refl new)
      · exact (walk.added found hbefore).imp_right fun hadded => hadded.path new

/-- **What a request makes of an index.** After a request that ends well, the indexed types are those
that were indexed before and those that the requested type reaches through new types. -/
theorem contains_ensureIndexed_iff {w : Setting} {type : TypeKey} {s s' : Session}
    {entry : ClassIndex} (h : w.ensureIndexed type s = (.ok entry, s')) (found : TypeKey) :
    s'.index.contains found = true ↔
      s.index.contains found = true ∨ w.ReachesNew s.index type found := by
  have hsteps := w.ensureIndexed_steps type s
  rw [h] at hsteps
  constructor
  · intro hc
    refine w.ensureIndexed_added type s ?_
    rw [h]
    exact hc
  · rintro (hold | hpath)
    · exact hsteps.contains hold
    · exact contains_of_reachesNew h hpath

end Setting

end FieldRules
