import FieldRules.Proofs.History.Laws

/-!
# `Proofs.History.Retry` — a request that failed fails again in the same way

A walk that breaks off may have published types before, so a second walk is another one: it passes
over what the first has published. It comes to the same end nevertheless. At each field the types
under way are the same as before, and none of them was published meanwhile; a type that the first
walk has finished is passed over now; and the type in which the first walk broke off is still to be
entered. So the second walk goes straight down to the malformed rule, and publishes nothing.

## Contents
- **`Walk.underWay`**: a walk publishes no type that is under way.
- **`collect_again`**: a walk that broke off, made again from where it left the session.
- **`ensureIndexed_again`** and **`failed_request_is_stable`**, of requests and after histories.
- **`Entangled.fails_alike`**, a request that has published a type before it fails.
-/

namespace FieldRules

namespace Setting

/-- **A type under way stays out of the index** until the walk through its fields is over. -/
theorem Walk.underWay {w : Setting} {type : TypeKey} {stack : List TypeKey} {fields : List Field}
    {s s' : Session} {r : Except RuleError Collected} (h : w.Walk type stack fields s r s') :
    ∀ t ∈ stack, s.index.contains t = false → s'.index.contains t = false := by
  induction h with
  | done => exact fun t _ new => new
  | malformed error => exact fun t _ new => new
  | ruled compiles rules alike next ih => exact fun t ht new => ih t ht (by rwa [alike.index])
  | unwalked hr leads alike next ih => exact fun t ht new => ih t ht (by rwa [alike.index])
  | known hr leads met alike next ih => exact fun t ht new => ih t ht (by rwa [alike.index])
  | broken hr leads unstacked unindexed alike inner ih =>
      exact fun t ht new => ih t (List.mem_cons_of_mem _ ht) (by rwa [alike.index])
  | @entered type stack f rest s s₁ s₂ r s' kind target c hr leads unstacked unindexed alike inner
      next ih ih' =>
      intro t ht new
      have hinner := ih t (List.mem_cons_of_mem _ ht) (by rwa [alike.index])
      -- what is published here is the target, which was not under way
      refine ih' t ht ?_
      have hnot : ¬(t = target ∨ s₂.index.contains t = true) := by
        rintro (rfl | hc)
        · exact unstacked ht
        · rw [hinner] at hc
          cases hc
      rw [← contains_publish (c := c), Bool.not_eq_true] at hnot
      exact hnot

theorem contains_of_finish {type : TypeKey} {p : Except RuleError Collected × Session}
    {entry : ClassIndex} {s : Session} (h : finish type p = (.ok entry, s)) :
    s.index.contains type = true := by
  obtain ⟨c, -, hpublish⟩ := finish_eq_ok h
  have hcontains := (contains_publish (c := c) (s := p.2) type).mpr (.inl rfl)
  rwa [hpublish] at hcontains

/-- **A walk that broke off, made again,** breaks off with the same error and publishes nothing. -/
theorem collect_again (w : Setting) (type : TypeKey) (stack : List TypeKey) (fields : List Field)
    (s : Session) : ∀ e s', w.collect type stack fields s = (.error e, s') → ∀ t, s'.Alike t →
      ∃ t', w.collect type stack fields t = (.error e, t') ∧ t.Alike t' := by
  have failed {r : Except RuleError Collected} {f : Collected → Collected} {s s' : Session}
      {e : RuleError} (h : (r.map f, s) = (.error e, s')) : r = .error e ∧ s = s' :=
    ⟨map_eq_error (Prod.mk.inj h).1, (Prod.mk.inj h).2⟩
  fun_induction Setting.collect w type stack fields s with
  | case1 type stack s =>
      intro e s' h
      cases h
  | case2 type stack s f rest e error =>
      intro e' s' h t alike
      cases h
      exact ⟨t, by rw [Setting.collect, error], .refl t⟩
  | case3 type stack s f rest rule rules hc filed r s₁ heq ih =>
      intro e s' h t alike
      obtain ⟨rfl, rfl⟩ := failed h
      have hreported := Session.Alike.report t (.fieldRules type f.name filed.length)
      obtain ⟨t', hagain, hsame⟩ := ih e s₁ heq _ (alike.trans hreported)
      refine ⟨t', ?_, hreported.trans hsame⟩
      rw [Setting.collect, hc]
      simp only [filed] at hagain
      simp only [hagain]
      rfl
  | case4 type stack s f rest hc s₁ target ih =>
      intro e s' h t alike
      have hreported := Session.Alike.reportAll t (f.events type)
      obtain ⟨t', hagain, hsame⟩ := ih e s' h _ (alike.trans hreported)
      refine ⟨t', ?_, hreported.trans hsame⟩
      rw [Setting.collect, hc]
      simp only [target, hagain]
  | case5 type stack s f rest hc s₁ kind target htarget onStack r s₂ heq ih =>
      intro e s' h t alike
      obtain ⟨rfl, rfl⟩ := failed h
      have hreported := (Session.Alike.reportAll t (f.events type)).trans
        (.report _ (.underWay target stack.length))
      obtain ⟨t', hagain, hsame⟩ := ih e s₂ heq _ (alike.trans hreported)
      refine ⟨t', ?_, hreported.trans hsame⟩
      rw [Setting.collect, hc]
      simp only [htarget, onStack, dite_true, hagain]
      rfl
  | case6 type stack s f rest hc s₁ kind target htarget offStack indexed r s₂ heq ih =>
      intro e s' h t alike
      obtain ⟨rfl, rfl⟩ := failed h
      have hreported := Session.Alike.reportAll t (f.events type)
      -- what was indexed at this field still is
      have hindexed : (t.reportAll (f.events type)).index.contains target = true := by
        have hsteps := (w.collect_walk type stack rest s₁).steps
        rw [heq] at hsteps
        rw [hreported.index, alike.index]
        exact hsteps.contains indexed
      obtain ⟨t', hagain, hsame⟩ := ih e s₂ heq _ (alike.trans hreported)
      refine ⟨t', ?_, hreported.trans hsame⟩
      rw [Setting.collect, hc]
      simp only [htarget, offStack, dite_false, hindexed, if_true, hagain]
      rfl
  | case7 type stack s f rest hc s₁ kind target htarget offStack new e s₂ heq ih =>
      intro e' s' h t alike
      cases h
      have hbroken := finish_eq_error heq
      have hreported := Session.Alike.reportAll t (f.events type)
      have hentered := hreported.trans (.enter w target _)
      -- the walk broke off inside of the target, so the target is still to be entered
      have hnew : ¬(t.reportAll (f.events type)).index.contains target = true := by
        have hwalk := w.collect_walk target (target :: stack) (w.schemas.of target).fields
          (w.enter target s₁)
        rw [hbroken] at hwalk
        rw [hreported.index, alike.index, Bool.not_eq_true]
        exact hwalk.underWay target List.mem_cons_self
          (by rw [(Session.Alike.enter w target s₁).index]; simpa using new)
      obtain ⟨t', hagain, hsame⟩ := ih e s₂ hbroken _ (alike.trans hentered)
      refine ⟨t', ?_, hentered.trans hsame⟩
      rw [Setting.collect, hc]
      simp only [htarget, offStack, dite_false, hnew, hagain]
      rfl
  | case8 type stack s f rest hc s₁ kind target htarget offStack new entry s₂ heq r s₃ heq' ih
      ih' =>
      intro e s' h t alike
      obtain ⟨rfl, rfl⟩ := failed h
      have hreported := Session.Alike.reportAll t (f.events type)
      -- the target was finished the first time, so it is passed over now
      have hindexed : (t.reportAll (f.events type)).index.contains target = true := by
        have hsteps := (w.collect_walk type stack rest s₂).steps
        rw [heq'] at hsteps
        rw [hreported.index, alike.index]
        exact hsteps.contains (contains_of_finish heq)
      obtain ⟨t', hagain, hsame⟩ := ih' e s₃ heq' _ (alike.trans hreported)
      refine ⟨t', ?_, hreported.trans hsame⟩
      rw [Setting.collect, hc]
      simp only [htarget, offStack, dite_false, hindexed, if_true, hagain]
      rfl

/-! ## Requests -/

/-- What a request for a type has done when it fails. -/
theorem collect_of_failed {w : Setting} {type : TypeKey} {s s' : Session} {e : RuleError}
    (h : w.ensureIndexed type s = (.error e, s')) : s.index.contains type = false ∧
      w.collect type [type] (w.schemas.of type).fields (w.enter type s) = (.error e, s') := by
  rw [ensureIndexed] at h
  cases hget : s.index.get? type with
  | some entry =>
      rw [hget] at h
      cases h
  | none =>
      rw [hget] at h
      exact ⟨(Index.get?_eq_none_iff _ _).mp hget, finish_eq_error h⟩

/-- **A request that failed, made again:** the type is not indexed, the error is the same, and the
second request leaves index and registry as the first one left them. -/
theorem ensureIndexed_again {w : Setting} {type : TypeKey} {s s' : Session} {e : RuleError}
    (h : w.ensureIndexed type s = (.error e, s')) :
    s'.index.contains type = false ∧
      ∃ s'', w.ensureIndexed type s' = (.error e, s'') ∧ s'.Alike s'' := by
  obtain ⟨new, hcollect⟩ := collect_of_failed h
  have hwalk := w.collect_walk type [type] (w.schemas.of type).fields (w.enter type s)
  rw [hcollect] at hwalk
  have hnew : s'.index.contains type = false :=
    hwalk.underWay type List.mem_cons_self (by rwa [(Session.Alike.enter w type s).index])
  have hentered := Session.Alike.enter w type s'
  obtain ⟨s'', hagain, hsame⟩ := w.collect_again _ _ _ _ e s' hcollect _ hentered
  refine ⟨hnew, s'', ?_, hentered.trans hsame⟩
  rw [ensureIndexed, (Index.get?_eq_none_iff _ _).mpr hnew]
  simp only [build, hagain]
  rfl

/-- **A failed request is stable.** After any history, a request that is answered by a rule error
leaves its type out of the index and without matchers, and all entries that were there as they were.
Made again, it is answered by the same error, and index and registry are exactly what they were
after the first time, with the types that the first request has published. -/
theorem failed_request_is_stable {w : Setting} {history : List Request} {type : TypeKey}
    {e : RuleError} {s' : Session}
    (failed : w.ensureIndexed type (w.after history) = (.error e, s')) :
    s'.index.contains type = false ∧
    (∀ group field, s'.registry.resolve ⟨group, type, field⟩ = ⟨[], []⟩) ∧
    (∀ other entry, (w.after history).index.get? other = some entry →
      s'.index.get? other = some entry) ∧
    ∃ s'', w.ensureIndexed type s' = (.error e, s'') ∧ s''.index = s'.index ∧
      s''.registry = s'.registry := by
  have hs := w.exact_after history
  have hsteps := w.ensureIndexed_steps type (w.after history)
  rw [failed] at hsteps
  have hs' := hs.steps hsteps
  obtain ⟨new, s'', hagain, hsame⟩ := ensureIndexed_again failed
  refine ⟨new, fun group field => hs'.vacant group type field new, ?_, s'', hagain, hsame.index,
    hsame.registry⟩
  intro other entry hget
  have hcontains : (w.after history).index.contains other = true := by
    rw [← Bool.not_eq_false, ← Index.get?_eq_none_iff, hget]
    exact Option.some_ne_none entry
  rw [hs.entry other hcontains] at hget
  rw [hs'.entry other (hsteps.contains hcontains), hget]

namespace Entangled

/-- The first request for the outer type publishes the inner one, so the second does not enter it.
Both come upon the malformed rule of the outer type. -/
theorem fails_alike :
    ∃ s', setting.ensureIndexed outer (setting.after []) = (.error ⟨"A", "bad", .emptyValues⟩, s') ∧
      s'.index.contains inner = true ∧ s'.index.contains outer = false ∧
      ∃ s'', setting.ensureIndexed outer s' = (.error ⟨"A", "bad", .emptyValues⟩, s'') ∧
        s''.index = s'.index ∧ s''.registry = s'.registry := by
  have failed : setting.ensureIndexed outer (setting.after []) =
      (.error ⟨"A", "bad", .emptyValues⟩, (setting.ensureIndexed outer (setting.after [])).2) :=
    Prod.ext (by cbv) rfl
  obtain ⟨new, -, -, again⟩ := failed_request_is_stable failed
  exact ⟨_, failed, by cbv, new, again⟩

end Entangled

end Setting

end FieldRules
