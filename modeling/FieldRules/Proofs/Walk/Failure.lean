import FieldRules.Proofs.Walk.Growth

/-!
# `Proofs.Walk.Failure` — exactly when a request for a type fails

A walk does not enter what is indexed. So a malformed rule shows if it can be reached through types
that are not indexed (`ReachesNew`), and only then: what lies behind an indexed type is not looked
at again, whether or not it was ever finished.

The two halves are inductions on `Walk`. Where it breaks off, the frames under way spell out the
path to the malformed rule. Where it ends well, every type that it has published leads only to types
that are indexed by then or still under way; a request begins with nothing under way, so in the end
all that it could reach is indexed.

## Contents
- **`ReachesNew`**, paths through types that are not indexed.
- **`Walk.error_reached`** and **`Walk.closedBut`**, the two halves.
- **`ensureIndexed_error_iff`**, and **`ensureIndexed_eq_ok`** for types that reach no malformed
  rule.
- **`Closed`**, sessions in which no indexed type leads out of the index.
-/

namespace FieldRules

namespace Setting

/-! ## Paths through new types -/

/-- A type leads to another one in any number of steps, and none of the types on the way is
indexed. -/
def ReachesNew (w : Setting) (i : Index) (type target : TypeKey) : Prop :=
  i.contains type = false ∧
    Relation.ReflTransGen (fun a b => w.Leads a b ∧ i.contains b = false) type target

theorem ReachesNew.refl {w : Setting} {i : Index} {type : TypeKey} (h : i.contains type = false) :
    w.ReachesNew i type type := ⟨h, .refl⟩

theorem ReachesNew.head {w : Setting} {i : Index} {a b c : TypeKey} (h : i.contains a = false)
    (hlead : w.Leads a b) (hpath : w.ReachesNew i b c) : w.ReachesNew i a c :=
  ⟨h, .head ⟨hlead, hpath.1⟩ hpath.2⟩

theorem ReachesNew.reaches {w : Setting} {i : Index} {a b : TypeKey} (h : w.ReachesNew i a b) :
    w.Reaches a b :=
  Relation.ReflTransGen.mono (fun _ _ hstep => hstep.1) _ _ h.2

/-- With fewer types indexed, the paths through new types are still there. -/
theorem ReachesNew.of_le {w : Setting} {i i' : Index} {a b : TypeKey}
    (hle : ∀ type, i.contains type = true → i'.contains type = true)
    (h : w.ReachesNew i' a b) : w.ReachesNew i a b := by
  have hnew {type : TypeKey} (hc : i'.contains type = false) : i.contains type = false := by
    cases hi : i.contains type with
    | false => rfl
    | true => rw [hle type hi] at hc; cases hc
  refine ⟨hnew h.1, Relation.ReflTransGen.mono (fun _ _ hstep => ?_) _ _ h.2⟩
  exact ⟨hstep.1, hnew hstep.2⟩

/-! ## Where a walk breaks off -/

/-- A malformed rule on one of the fields, or behind one that leads to a new type. -/
def ErrorReached (w : Setting) (type : TypeKey) (fields : List Field) (i : Index) : Prop :=
  (∃ f ∈ fields, ∃ r ∈ w.enabledRules type f, ∃ fault, Matcher.compile r = .error fault) ∨
    ∃ f ∈ fields, w.enabledRules type f = [] ∧ ∃ kind target, f.target? = some (kind, target) ∧
      ∃ bad, w.ReachesNew i target bad ∧ w.Malformed bad

theorem ErrorReached.cons {w : Setting} {type : TypeKey} {fields : List Field} {i : Index}
    (h : w.ErrorReached type fields i) (f : Field) : w.ErrorReached type (f :: fields) i := by
  rcases h with ⟨g, hg, hrule⟩ | ⟨g, hg, hlead⟩
  · exact .inl ⟨g, List.mem_cons_of_mem _ hg, hrule⟩
  · exact .inr ⟨g, List.mem_cons_of_mem _ hg, hlead⟩

theorem ErrorReached.of_le {w : Setting} {type : TypeKey} {fields : List Field} {i i' : Index}
    (hle : ∀ type, i.contains type = true → i'.contains type = true)
    (h : w.ErrorReached type fields i') : w.ErrorReached type fields i := by
  rcases h with hrule | ⟨f, hf, hr, kind, target, ht, bad, hpath, hbad⟩
  · exact .inl hrule
  · exact .inr ⟨f, hf, hr, kind, target, ht, bad, hpath.of_le hle, hbad⟩

/-- On all fields of a new type, a reached error is a path from the type itself. -/
theorem ErrorReached.path {w : Setting} {type : TypeKey} {i : Index}
    (h : w.ErrorReached type (w.schemas.of type).fields i) (new : i.contains type = false) :
    ∃ bad, w.ReachesNew i type bad ∧ w.Malformed bad := by
  rcases h with hrule | ⟨f, hf, hr, kind, target, ht, bad, hpath, hbad⟩
  · exact ⟨type, .refl new, hrule⟩
  · exact ⟨bad, hpath.head new (leads_iff.mpr ⟨f, hf, hr, kind, ht⟩), hbad⟩

/-- **A walk breaks off only at a malformed rule** that new types lead to. -/
theorem Walk.error_reached {w : Setting} {type : TypeKey} {stack : List TypeKey}
    {fields : List Field} {s s' : Session} {r : Except RuleError Collected}
    (h : w.Walk type stack fields s r s') :
    ∀ e, r = .error e → w.ErrorReached type fields s.index := by
  induction h with
  | done =>
      intro e he
      cases he
  | @malformed type stack f rest s e error =>
      intro e' he
      obtain ⟨r, hr, fault, hfault, -⟩ := compileRules_error error
      exact .inl ⟨f, List.mem_cons_self, r, hr, fault, hfault⟩
  | @ruled type stack f rest s s₁ r s' compiles rules alike next ih =>
      intro e he
      have hrest := ih e (map_eq_error he)
      rw [alike.index] at hrest
      exact hrest.cons f
  | @unwalked type stack f rest s s₁ r s' hr leads alike next ih =>
      intro e he
      have hrest := ih e he
      rw [alike.index] at hrest
      exact hrest.cons f
  | @known type stack f rest s s₁ r s' kind target hr leads known alike next ih =>
      intro e he
      have hrest := ih e (map_eq_error he)
      rw [alike.index] at hrest
      exact hrest.cons f
  | @broken type stack f rest s s₁ s' kind target e hr leads unstacked new alike inner ih =>
      intro e' he
      have hinner := ih e rfl
      rw [alike.index] at hinner
      exact .inr ⟨f, List.mem_cons_self, hr, kind, target, leads, hinner.path new⟩
  | @entered type stack f rest s s₁ s₂ r s' kind target c hr leads unstacked new alike inner next
      ih ih' =>
      intro e he
      refine ErrorReached.cons ?_ f
      refine (ih' e (map_eq_error he)).of_le fun t ht => ?_
      rw [← alike.index] at ht
      exact (contains_publish t).mpr (.inr (inner.steps.contains ht))

/-! ## Where a walk ends well -/

/-- From `i` to `i'` only types were added that lead to what is in `i'` or under way. -/
def ClosedBut (w : Setting) (stack : List TypeKey) (i i' : Index) : Prop :=
  ∀ type, i'.contains type = true → i.contains type = true ∨
    ∀ target, w.Leads type target → target ∈ stack ∨ i'.contains target = true

theorem ClosedBut.refl {w : Setting} {stack : List TypeKey} (i : Index) : w.ClosedBut stack i i :=
  fun _ h => .inl h

theorem ClosedBut.trans {w : Setting} {stack : List TypeKey} {i i' i'' : Index}
    (hle : ∀ type, i'.contains type = true → i''.contains type = true)
    (h : w.ClosedBut stack i i') (h' : w.ClosedBut stack i' i'') : w.ClosedBut stack i i'' := by
  intro type hc
  rcases h' type hc with hmid | hlead
  · rcases h type hmid with hold | hlead
    · exact .inl hold
    · exact .inr fun target ht => (hlead target ht).imp id (hle target)
  · exact .inr hlead

/-- Publishing the type on top of the stack closes what was left open towards it. -/
theorem ClosedBut.publish {w : Setting} {type : TypeKey} {stack : List TypeKey} {i : Index}
    {s : Session} {c : Collected} (h : w.ClosedBut (type :: stack) i s.index)
    (htype : ∀ target, w.Leads type target →
      target ∈ type :: stack ∨ s.index.contains target = true) :
    w.ClosedBut stack i (publish type c s).2.index := by
  have hlift {target : TypeKey} (hor : target ∈ type :: stack ∨ s.index.contains target = true) :
      target ∈ stack ∨ (Setting.publish type c s).2.index.contains target = true := by
    rcases hor with hmem | hc
    · rcases List.mem_cons.mp hmem with heq | hmem
      · exact .inr ((contains_publish target).mpr (.inl heq))
      · exact .inl hmem
    · exact .inr ((contains_publish target).mpr (.inr hc))
  intro t ht
  rcases (contains_publish t).mp ht with rfl | hc
  · exact .inr fun target hlead => hlift (htype target hlead)
  · rcases h t hc with hold | hlead
    · exact .inl hold
    · exact .inr fun target ht => hlift (hlead target ht)

/-- What fields of a type lead to is under way or indexed. -/
def TargetsKnown (w : Setting) (type : TypeKey) (stack : List TypeKey) (fields : List Field)
    (i : Index) : Prop :=
  ∀ f ∈ fields, w.enabledRules type f = [] → ∀ kind target, f.target? = some (kind, target) →
    target ∈ stack ∨ i.contains target = true

theorem TargetsKnown.leads {w : Setting} {type : TypeKey} {stack : List TypeKey} {i : Index}
    (h : w.TargetsKnown type stack (w.schemas.of type).fields i) :
    ∀ target, w.Leads type target → target ∈ stack ∨ i.contains target = true := by
  intro target hlead
  obtain ⟨f, hf, hr, kind, ht⟩ := leads_iff.mp hlead
  exact h f hf hr kind target ht

/-- **A walk that ends well leaves nothing behind:** what it has published and what its fields lead
to goes only to types that are indexed or under way. -/
theorem Walk.closedBut {w : Setting} {type : TypeKey} {stack : List TypeKey} {fields : List Field}
    {s s' : Session} {r : Except RuleError Collected} (h : w.Walk type stack fields s r s') :
    ∀ c, r = .ok c →
      w.TargetsKnown type stack fields s'.index ∧ w.ClosedBut stack s.index s'.index := by
  induction h with
  | done =>
      intro c hc
      exact ⟨fun f hf => absurd hf List.not_mem_nil, .refl _⟩
  | malformed error =>
      intro c hc
      cases hc
  | ruled compiles rules alike next ih =>
      intro c hc
      obtain ⟨c', hok, -⟩ := map_eq_ok hc
      obtain ⟨htargets, hclosed⟩ := ih c' hok
      rw [alike.index] at hclosed
      exact ⟨List.forall_mem_cons.mpr ⟨fun hr => absurd hr rules, htargets⟩, hclosed⟩
  | unwalked hr leads alike next ih =>
      intro c hc
      obtain ⟨htargets, hclosed⟩ := ih c hc
      rw [alike.index] at hclosed
      refine ⟨List.forall_mem_cons.mpr ⟨fun _ kind target ht => ?_, htargets⟩, hclosed⟩
      rw [leads] at ht
      cases ht
  | known hr leads known alike next ih =>
      intro c hc
      obtain ⟨c', hok, -⟩ := map_eq_ok hc
      obtain ⟨htargets, hclosed⟩ := ih c' hok
      rw [alike.index] at hclosed
      refine ⟨List.forall_mem_cons.mpr ⟨fun _ kind target ht => ?_, htargets⟩, hclosed⟩
      rw [leads] at ht
      cases ht
      rw [← alike.index] at known
      exact known.imp id next.steps.contains
  | broken hr leads unstacked new alike inner ih =>
      intro c hc
      cases hc
  | entered hr leads unstacked new alike inner next ih ih' =>
      intro c hc
      obtain ⟨c', hok, -⟩ := map_eq_ok hc
      obtain ⟨hinner, hbefore⟩ := ih _ rfl
      obtain ⟨htargets, hafter⟩ := ih' c' hok
      rw [alike.index] at hbefore
      have hle (t : TypeKey) := @Steps.contains w _ _ next.steps t
      refine ⟨List.forall_mem_cons.mpr ⟨fun _ kind target ht => ?_, htargets⟩,
        (hbefore.publish hinner.leads).trans hle hafter⟩
      rw [leads] at ht
      cases ht
      exact .inr (hle _ ((contains_publish _).mpr (.inl rfl)))

/-! ## Requests -/

/-- A request that ends well has indexed the type and leaves nothing behind. -/
theorem ensureIndexed_closedBut {w : Setting} {type : TypeKey} {s s' : Session} {entry : ClassIndex}
    (h : w.ensureIndexed type s = (.ok entry, s')) :
    s'.index.contains type = true ∧ w.ClosedBut [] s.index s'.index := by
  rcases w.ensureIndexed_cases type s with ⟨hc, entry', -, heq⟩ | ⟨-, s₁, s₂, alike, hwalk⟩
  · rw [heq] at h
    cases h
    exact ⟨hc, .refl _⟩
  · rcases hwalk with ⟨e, walk, heq⟩ | ⟨c, walk, heq⟩
    · rw [heq] at h
      cases h
    · obtain ⟨htargets, hclosed⟩ := walk.closedBut c rfl
      rw [alike.index] at hclosed
      rw [heq] at h
      cases h
      exact ⟨(contains_publish type).mpr (.inl rfl), hclosed.publish htargets.leads⟩

/-- Where nothing is under way, all that can be reached through new types was added as well. -/
theorem ClosedBut.contains_of_reachesNew {w : Setting} {i i' : Index} (h : w.ClosedBut [] i i')
    {type target : TypeKey} (htype : i'.contains type = true)
    (hpath : w.ReachesNew i type target) : i'.contains target = true := by
  have hlast : i'.contains target = true ∧ i.contains target = false := by
    obtain ⟨hnew, hsteps⟩ := hpath
    -- each type of the path is new, so it was added with all that it leads to
    induction hsteps with
    | refl => exact ⟨htype, hnew⟩
    | @tail a b _ hstep ih =>
        rcases h a ih.1 with hold | hlead
        · rw [ih.2] at hold
          cases hold
        · exact ⟨(hlead b hstep.1).resolve_left (by simp), hstep.2⟩
  exact hlast.1

/-- What can be reached through new types is indexed after a request that ends well. -/
theorem contains_of_reachesNew {w : Setting} {type target : TypeKey} {s s' : Session}
    {entry : ClassIndex} (h : w.ensureIndexed type s = (.ok entry, s'))
    (hpath : w.ReachesNew s.index type target) : s'.index.contains target = true := by
  obtain ⟨htype, hclosed⟩ := ensureIndexed_closedBut h
  exact hclosed.contains_of_reachesNew htype hpath

/-- **A request fails exactly if new types lead to a malformed rule.** -/
theorem ensureIndexed_error_iff {w : Setting} {s : Session} (h : w.Exact s) (type : TypeKey) :
    (∃ e, (w.ensureIndexed type s).1 = .error e) ↔
      ∃ bad, w.ReachesNew s.index type bad ∧ w.Malformed bad := by
  constructor
  · rintro ⟨e, he⟩
    rcases w.ensureIndexed_cases type s with ⟨-, entry, -, heq⟩ | ⟨hnew, s₁, s₂, alike, hwalk⟩
    · rw [heq] at he
      cases he
    · rcases hwalk with ⟨e', walk, -⟩ | ⟨c, -, heq⟩
      · have hreached := walk.error_reached e' rfl
        rw [alike.index] at hreached
        exact hreached.path hnew
      · rw [heq] at he
        cases he
  · rintro ⟨bad, hpath, hbad⟩
    cases hr : w.ensureIndexed type s with
    | mk r s' =>
        cases r with
        | error e => exact ⟨e, rfl⟩
        | ok entry =>
            have hsteps := w.ensureIndexed_steps type s
            rw [hr] at hsteps
            have hcompiles := (h.steps hsteps).compiles bad (contains_of_reachesNew hr hpath)
            exact absurd hbad (not_malformed_iff.mpr hcompiles)

/-- A request for an indexed type finds the entry that is declared. -/
theorem Exact.ensureIndexed_of_contains {w : Setting} {s : Session} (h : w.Exact s)
    {type : TypeKey} (indexed : s.index.contains type = true) :
    w.ensureIndexed type s = (.ok (w.entryOf type), s) := by
  rw [ensureIndexed, h.entry type indexed]

/-- A request that ends well gives the index that is declared. -/
theorem entry_of_ensureIndexed {w : Setting} {type : TypeKey} {s s' : Session} {entry : ClassIndex}
    (hs : w.Exact s) (h : w.ensureIndexed type s = (.ok entry, s')) : entry = w.entryOf type := by
  rcases w.ensureIndexed_cases type s with ⟨hc, entry', hget, heq⟩ | ⟨-, s₁, s₂, alike, hwalk⟩
  · rw [hs.entry type hc] at hget
    rw [heq] at h
    cases hget
    cases h
    rfl
  · rcases hwalk with ⟨e, walk, heq⟩ | ⟨c, walk, heq⟩
    · rw [heq] at h
      cases h
    · obtain ⟨rfl, -⟩ := walk.collected c rfl
      have hs₂ : w.Exact s₂ := (hs.of_alike alike).steps walk.steps
      rw [heq] at h
      cases h
      cases hc : s₂.index.contains type with
      | false => exact (publish_of_new hc).1
      | true =>
          obtain ⟨entry', hget, hpublish⟩ := publish_of_contains
            (c := w.collected type (w.schemas.of type).fields) hc
          rw [hs₂.entry type hc] at hget
          cases hget
          rw [hpublish]

/-- A request for a type that reaches no malformed rule gives the index that is declared. -/
theorem ensureIndexed_eq_ok {w : Setting} {type : TypeKey} {s : Session} (hs : w.Exact s)
    (h : ∀ target, w.Reaches type target → w.Compiles target) :
    ∃ s', w.ensureIndexed type s = (.ok (w.entryOf type), s') ∧ w.Exact s' ∧
      s'.index.contains type = true := by
  cases hr : w.ensureIndexed type s with
  | mk r s' =>
      have hsteps := w.ensureIndexed_steps type s
      rw [hr] at hsteps
      cases r with
      | error e =>
          obtain ⟨bad, hpath, hbad⟩ := (ensureIndexed_error_iff hs type).mp ⟨e, by rw [hr]⟩
          exact absurd hbad (not_malformed_iff.mpr (h bad hpath.reaches))
      | ok entry =>
          rw [entry_of_ensureIndexed hs hr]
          exact ⟨s', rfl, hs.steps hsteps, (ensureIndexed_closedBut hr).1⟩

/-! ## Closed sessions -/

/-- No indexed type leads out of the index. -/
def Closed (w : Setting) (i : Index) : Prop :=
  ∀ type target, i.contains type = true → w.Leads type target → i.contains target = true

theorem Closed.ensureIndexed {w : Setting} {type : TypeKey} {s s' : Session} {entry : ClassIndex}
    (hs : w.Closed s.index) (h : w.ensureIndexed type s = (.ok entry, s')) : w.Closed s'.index := by
  intro t target hc hlead
  rcases (ensureIndexed_closedBut h).2 t hc with hold | hclosed
  · have hsteps := w.ensureIndexed_steps type s
    rw [h] at hsteps
    exact hsteps.contains (hs t target hold hlead)
  · exact (hclosed target hlead).resolve_left (by simp)

/-- In a closed session every path to a malformed rule goes through new types. -/
theorem Closed.reachesNew {w : Setting} {s : Session} {type bad : TypeKey}
    (hclosed : w.Closed s.index) (hs : w.Exact s) (hpath : w.Reaches type bad)
    (hbad : w.Malformed bad) : w.ReachesNew s.index type bad := by
  -- from an indexed type on the whole path is indexed, and indexed types compile
  have hnew {t : TypeKey} (ht : w.Reaches t bad) : s.index.contains t = false := by
    cases hc : s.index.contains t with
    | false => rfl
    | true =>
        have hlast : s.index.contains bad = true := by
          clear hpath hbad
          induction ht with
          | refl => exact hc
          | tail _ hlead ih => exact hclosed _ _ ih hlead
        exact absurd hbad (not_malformed_iff.mpr (hs.compiles bad hlast))
  refine ⟨hnew hpath, ?_⟩
  induction hpath using Relation.ReflTransGen.head_induction_on with
  | refl => exact .refl
  | head hlead hrest ih => exact .head ⟨hlead, hnew hrest⟩ ih

end Setting

end FieldRules
