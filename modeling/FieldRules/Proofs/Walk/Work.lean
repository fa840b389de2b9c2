import FieldRules.Proofs.Walk.Failure
import FieldRules.Proofs.Walk.Met

/-!
# `Proofs.Walk.Work` — what a check does to a session

All that a check does to index and registry is to request the types of the objects that it meets,
one after the other. So a check is a run of requests that end well; a request that fails ends it,
and nothing else ends it with a rule error.

A check goes through the fields of an object and the elements of a sequence in the same manner: each
part begins only if the one before it passed (`proceed`). The recursion of the check is gone through
once, to see that each part of it is put together from requests, judgements and parts in a row, and
which objects it comes to in doing so (`Check.Goes`). What holds of every check is an induction on
that.

## Contents
- **`Works`** and **`Worked`**: the runs of requests that end well, and the two ways in which a
  check can end.
- **`Value.held_induction`**, the induction over a value.
- **`judgeField_cases`** and **`checkField_of_walked`**, what happens to one field, and
  **`checkNested_object`**, to an object in a field.
- **`Check.Goes`**, how a check is put together, with **`checkValue_goes`**.
- **`Goes.worked`**: every check ends in one of the two ways.
- **`contains_of_met`**: what a check has met is indexed when it has ended.
-/

namespace FieldRules

open Calendar

namespace Setting

/-! ## Runs of requests -/

/-- A piece of the work of a check that does not end it. -/
inductive Work (w : Setting) : Session → Session → Prop where
  | noted {s s'} (alike : s.Alike s') : Work w s s'
  | indexed {s s' type entry} (ok : w.ensureIndexed type s = (.ok entry, s')) : Work w s s'

/-- Any amount of such work. -/
def Works (w : Setting) : Session → Session → Prop :=
  Relation.ReflTransGen w.Work

/-- How a check that began in `s` ended: not with a rule error, or with the first request that
failed. -/
inductive Worked (w : Setting) {α : Type} (s : Session) : Except CheckError α × Session → Prop where
  | completed {r s'} (works : w.Works s s') (clean : ∀ e, r ≠ .error (.rule e)) : Worked w s (r, s')
  | failed {s₁ s' type e} (works : w.Works s s₁)
      (fails : w.ensureIndexed type s₁ = (.error e, s')) : Worked w s (.error (.rule e), s')

theorem Work.steps {w : Setting} {s s' : Session} (h : w.Work s s') : w.Steps s s' := by
  cases h with
  | noted alike => exact Steps.of_alike alike
  | @indexed type entry ok =>
      have hsteps := w.ensureIndexed_steps type s
      rwa [ok] at hsteps

theorem Works.steps {w : Setting} {s s' : Session} (h : w.Works s s') : w.Steps s s' := by
  induction h with
  | refl => exact .refl
  | tail _ hwork ih => exact ih.trans hwork.steps

theorem Work.closed {w : Setting} {s s' : Session} (h : w.Work s s') (hs : w.Closed s.index) :
    w.Closed s'.index := by
  cases h with
  | noted alike => rwa [alike.index]
  | indexed ok => exact hs.ensureIndexed ok

/-- **Requests that end well keep a session closed.** -/
theorem Works.closed {w : Setting} {s s' : Session} (h : w.Works s s') (hs : w.Closed s.index) :
    w.Closed s'.index := by
  induction h with
  | refl => exact hs
  | tail _ hwork ih => exact hwork.closed ih

namespace Worked

variable {w : Setting} {α : Type} {s s₁ s' : Session} {p : Except CheckError α × Session}

theorem after (works : w.Works s s₁) (h : w.Worked s₁ p) : w.Worked s p := by
  cases h with
  | completed works' clean => exact .completed (works.trans works') clean
  | failed works' fails => exact .failed (works.trans works') fails

/-- What a check that ended well has done. -/
theorem works {a : α} (h : w.Worked s (.ok a, s')) : w.Works s s' := by
  cases h with
  | completed works clean => exact works

theorem steps (h : w.Worked s p) : w.Steps s p.2 := by
  cases h with
  | completed works clean => exact works.steps
  | @failed s₁ s' type e works fails =>
      have hsteps := w.ensureIndexed_steps type s₁
      rw [fails] at hsteps
      exact works.steps.trans hsteps

theorem map {β : Type} (h : w.Worked s p) (f : α → β) : w.Worked s (p.1.map f, p.2) := by
  cases h with
  | failed works fails => exact .failed works fails
  | @completed r s' works clean =>
      refine .completed works fun e he => clean e ?_
      cases r with
      | ok a => cases he
      | error e' =>
          cases he
          rfl

end Worked

end Setting

/-! ## One part after another -/

/-- Goes on only after a part that passes. -/
def proceed (p : Progress) (next : Chain → Session → Progress) : Progress :=
  match p with
  | (.ok (true, chain), s) => next chain s
  | stopped => stopped

/-- An induction over what objects and sequences hold. -/
theorem Value.held_induction {P : Value → Prop}
    (object : ∀ type values, (∀ name v, Value.read type values name = .ok v → P v) →
      P (.object type values))
    (seq : ∀ items, (∀ v ∈ items, P v) → P (.seq items))
    (leaf : ∀ v, v.isLeaf = true → P v) (v : Value) : P v := by
  induction hn : sizeOf v using Nat.strongRecOn generalizing v with
  | _ n ih =>
      subst hn
      cases v with
      | object type values =>
          refine object type values fun name u hread => ih _ ?_ u rfl
          have := sizeOf_lt_of_read hread
          rw [Value.object.sizeOf_spec]
          omega
      | seq items =>
          refine seq items fun u hmem => ih _ ?_ u rfl
          have := List.sizeOf_lt_of_mem hmem
          rw [Value.seq.sizeOf_spec]
          omega
      | null => exact leaf _ rfl
      | str s => exact leaf _ rfl
      | int n => exact leaf _ rfl
      | uint n => exact leaf _ rfl
      | float x => exact leaf _ rfl
      | bool b => exact leaf _ rfl
      | timestamp t => exact leaf _ rfl

/-! ## One field -/

namespace Check

/-- The judgement of a field: it passes unread without matchers, and is decided by them otherwise,
with one reading of the clock. -/
theorem judgeField_cases (c : Check) (type : TypeKey) (values : List (String × Reading))
    (field : String) (chain : Chain) (s : Session) :
    ((s.registry.resolve ⟨c.group, type, field⟩).isEmpty = true ∧
      c.judgeField type values field chain s = (.ok (true, chain), s)) ∨
    ((s.registry.resolve ⟨c.group, type, field⟩).isEmpty = false ∧
      ((∃ e, Value.read type values field = .error e ∧
          c.judgeField type values field chain s = (.error (.access e), s)) ∨
        ∃ v s', Value.read type values field = .ok v ∧ s.Alike s' ∧
          s'.readings = s.readings + 1 ∧
          c.judgeField type values field chain s =
            (.ok (chain.judged (entryFor? (fieldPath type field) v
              (s.registry.resolve ⟨c.group, type, field⟩)
              ((s.registry.resolve ⟨c.group, type, field⟩).decision v (c.clock s.readings)))),
              s'))) := by
  unfold judgeField
  dsimp only
  generalize s.registry.resolve ⟨c.group, type, field⟩ = matchers
  cases matchers.isEmpty with
  | true => exact .inl ⟨rfl, rfl⟩
  | false =>
      refine .inr ⟨rfl, ?_⟩
      cases Value.read type values field with
      | error e => exact .inl ⟨e, rfl, rfl⟩
      | ok v =>
          exact .inr ⟨v, { s with readings := s.readings + 1 }.report
            (.judged type field c.group (entryFor? (fieldPath type field) v matchers
              (matchers.decision v (c.clock s.readings))).isNone), rfl, ⟨rfl, rfl⟩, rfl, rfl⟩

/-- A walked field: what it holds is walked, if it can be read. -/
theorem checkField_of_walked (c : Check) (type : TypeKey) (values : List (String × Reading))
    (f : IndexedField) (chain : Chain) (s : Session) (h : f.kind ≠ .rules) :
    c.checkField type values f chain s =
      match Value.read type values f.name with
      | .error e => (.error (.access e), s)
      | .ok v => c.checkNested (fieldPath type f.name) v chain s := by
  unfold checkField
  split
  · exact absurd ‹_› h
  · split
    · next e read => rw [read]
    · next v read => rw [read]

/-- An object in a field: only the chain of a failure is changed on the way out. -/
theorem checkNested_object (c : Check) (path : String) (type : TypeKey)
    (values : List (String × Reading)) (chain : Chain) (s : Session) :
    c.checkNested path (.object type values) chain s =
      ((c.checkObject none type values chain s).1.map fun ended =>
          if ended.1 then ended
          else (false, ended.2.failAt chain.mark (nestedEntry path type)),
        (c.checkObject none type values chain s).2) := by
  rw [checkNested]
  generalize c.checkObject none type values chain s = p
  obtain ⟨r, s₁⟩ := p
  cases r with
  | error e => rfl
  | ok ended =>
      obtain ⟨passed, inner⟩ := ended
      cases passed with
      | true => rfl
      | false => rfl

/-- A leaf in a walked field passes. -/
theorem checkNested_of_leaf (c : Check) (path : String) {v : Value} (h : v.isLeaf = true)
    (chain : Chain) (s : Session) : c.checkNested path v chain s = (.ok (true, chain), s) := by
  unfold checkNested
  cases v with
  | object type values => cases h
  | seq items => cases h
  | _ => rfl

/-- A leaf that no field holds passes. -/
theorem checkValue_of_leaf (c : Check) (selection : Option (List String)) {v : Value}
    (h : v.isLeaf = true) (chain : Chain) (s : Session) :
    c.checkValue selection v chain s = (.ok (true, chain), s) := by
  unfold checkValue
  cases v with
  | object type values => cases h
  | seq items => cases h
  | _ => rfl

/-! ## A whole check -/

/-- `c.Goes met chain s p`: a part of the check `c` that is handed `chain` in `s` comes to objects of
the types `met` and ends as `p`. It is put together from requests, from judgements, and from what it
holds, one part after another. -/
inductive Goes (c : Check) : List TypeKey → Chain → Session → Progress → Prop where
  /-- There is nothing to check. -/
  | passed {chain s} : Goes c [] chain s (.ok (true, chain), s)
  /-- A field cannot be read. -/
  | unread {chain s e} : Goes c [] chain s (.error (.access e), s)
  /-- A field is judged, with an entry if it does not pass. -/
  | judged {chain s s'} (entry : Option String) (alike : s.Alike s') :
      Goes c [] chain s (.ok (chain.judged entry), s')
  /-- The type of an object cannot be indexed. -/
  | failed {chain s s' type e} (fails : c.setting.ensureIndexed type s = (.error e, s')) :
      Goes c [] chain s (.error (.rule e), s')
  | indexed {met chain s s₁ type entry p}
      (ok : c.setting.ensureIndexed type s = (.ok entry, s₁)) (next : Goes c met chain s₁ p) :
      Goes c (type :: met) chain s p
  | andThen {met met' chain chain₁ s s₁ p}
      (first : Goes c met chain s (.ok (true, chain₁), s₁)) (next : Goes c met' chain₁ s₁ p) :
      Goes c (met ++ met') chain s p
  /-- What a field holds puts the entry for the field in front of its own. -/
  | inField {met chain s p} (entry : String) (inside : Goes c met chain s p) :
      Goes c met chain s
        (p.1.map fun ended =>
          if ended.1 then ended else (false, ended.2.failAt chain.mark entry), p.2)

namespace Goes

variable {c : Check} {met : List TypeKey} {chain : Chain} {s : Session} {p : Progress}

theorem proceed {next : Chain → Session → Progress} {metNext : Chain → Session → List TypeKey}
    (h : c.Goes met chain s p) (hnext : ∀ chain s, c.Goes (metNext chain s) chain s (next chain s)) :
    c.Goes (met ++ metAfter p metNext) chain s (proceed p next) := by
  -- a part that ends the walk is all there is
  have alone (hmet : metAfter p metNext = []) (hend : FieldRules.proceed p next = p) :
      c.Goes (met ++ metAfter p metNext) chain s (FieldRules.proceed p next) := by
    rw [hmet, hend, List.append_nil]
    exact h
  obtain ⟨r, s₁⟩ := p
  cases r with
  | error e => exact alone rfl rfl
  | ok ended =>
      obtain ⟨passed, chain₁⟩ := ended
      cases passed with
      | true => exact .andThen h (hnext chain₁ s₁)
      | false => exact alone rfl rfl

/-- **A check is a run of requests for types,** ended by the first one that fails. -/
theorem worked (h : c.Goes met chain s p) : c.setting.Worked s p := by
  induction h with
  | passed => exact .completed .refl (by simp)
  | unread => exact .completed .refl (by simp)
  | judged entry alike => exact .completed (.single (.noted alike)) (by simp)
  | failed fails => exact .failed .refl fails
  | indexed ok next ih => exact ih.after (.single (.indexed ok))
  | andThen first next ih ih' => exact ih'.after ih.works
  | inField entry inside ih => exact ih.map _

/-- **What a check has met is indexed** when it has ended, however it ends. -/
theorem contains_of_met (h : c.Goes met chain s p) :
    ∀ type ∈ met, p.2.index.contains type = true := by
  induction h with
  | passed => exact fun _ hmem => absurd hmem List.not_mem_nil
  | unread => exact fun _ hmem => absurd hmem List.not_mem_nil
  | judged entry alike => exact fun _ hmem => absurd hmem List.not_mem_nil
  | failed fails => exact fun _ hmem => absurd hmem List.not_mem_nil
  | indexed ok next ih =>
      intro type hmem
      rcases List.mem_cons.mp hmem with rfl | hmem
      · exact next.worked.steps.contains (Setting.ensureIndexed_closedBut ok).1
      · exact ih type hmem
  | andThen first next ih ih' =>
      intro type hmem
      rcases List.mem_append.mp hmem with hmem | hmem
      · exact next.worked.steps.contains (ih type hmem)
      · exact ih' type hmem
  | inField entry inside ih => exact ih

end Goes

variable (c : Check)

theorem judgeField_goes (type : TypeKey) (values : List (String × Reading)) (field : String)
    (chain : Chain) (s : Session) : c.Goes [] chain s (c.judgeField type values field chain s) := by
  rcases c.judgeField_cases type values field chain s with
    ⟨-, heq⟩ | ⟨-, ⟨e, -, heq⟩ | ⟨v, s', -, alike, -, heq⟩⟩
  · rw [heq]
    exact .passed
  · rw [heq]
    exact .unread
  · rw [heq]
    exact .judged _ alike

mutual

theorem checkFields_goes (selection : Option (List String)) (type : TypeKey)
    (values : List (String × Reading)) (fields : List IndexedField) (chain : Chain) (s : Session) :
    c.Goes (c.metInFields selection type values fields chain s) chain s
      (c.checkFields selection type values fields chain s) := by
  cases fields with
  | nil =>
      rw [checkFields, metInFields]
      exact .passed
  | cons f rest =>
      rw [checkFields, metInFields]
      split
      · exact checkFields_goes selection type values rest chain s
      · exact (checkField_goes type values f chain s).proceed
          (checkFields_goes selection type values rest)
termination_by (sizeOf values, fields.length, 1)

theorem checkField_goes (type : TypeKey) (values : List (String × Reading)) (f : IndexedField)
    (chain : Chain) (s : Session) :
    c.Goes (c.metInField type values f chain s) chain s (c.checkField type values f chain s) := by
  by_cases hkind : f.kind = .rules
  · rw [checkField, metInField, hkind]
    exact c.judgeField_goes type values f.name chain s
  · rw [c.checkField_of_walked type values f chain s hkind,
      c.metInField_of_walked type values f chain s hkind]
    cases hread : Value.read type values f.name with
    | error e => exact .unread
    | ok v => exact checkNested_goes (fieldPath type f.name) v chain s
termination_by (sizeOf values, 0, 2)
decreasing_by
  exact .left _ _ (sizeOf_lt_of_read hread)

theorem checkObject_goes (selection : Option (List String)) (type : TypeKey)
    (values : List (String × Reading)) (chain : Chain) (s : Session) :
    c.Goes (c.metInObject selection type values chain s) chain s
      (c.checkObject selection type values chain s) := by
  rw [checkObject, metInObject]
  cases hr : c.setting.ensureIndexed type s with
  | mk r s₁ =>
      cases r with
      | error e => exact .failed hr
      | ok entry => exact .indexed hr (checkFields_goes selection type values entry.fields chain s₁)
termination_by (sizeOf values + 1, 0, 0)

theorem checkNested_goes (path : String) (v : Value) (chain : Chain) (s : Session) :
    c.Goes (c.metInNested path v chain s) chain s (c.checkNested path v chain s) := by
  cases v with
  | object type values =>
      rw [checkNested_object, metInNested]
      exact (checkObject_goes none type values chain s).inField _
  | seq items =>
      rw [checkNested, metInNested]
      exact checkItems_goes path 0 items chain s
  | _ =>
      rw [c.checkNested_of_leaf path rfl, c.metInNested_of_leaf path rfl]
      exact .passed
termination_by (sizeOf v, 0, 0)
decreasing_by
  · refine .left _ _ ?_
    rw [Value.object.sizeOf_spec, TypeKey.mk.sizeOf_spec]
    omega
  · refine .left _ _ ?_
    rw [Value.seq.sizeOf_spec]
    omega

theorem checkItems_goes (path : String) (position : Nat) (items : List Value) (chain : Chain)
    (s : Session) :
    c.Goes (c.metInItems path position items chain s) chain s
      (c.checkItems path position items chain s) := by
  cases items with
  | nil =>
      rw [checkItems, metInItems]
      exact .passed
  | cons v rest =>
      rw [checkItems, metInItems]
      exact (checkNested_goes (elementPath path position) v chain s).proceed
        (checkItems_goes path (position + 1) rest)
termination_by (sizeOf items, 0, 0)

end

mutual

/-- **Every check of a value is put together in this way.** -/
theorem checkValue_goes (selection : Option (List String)) (v : Value) (chain : Chain)
    (s : Session) :
    c.Goes (c.metInValue selection v chain s) chain s (c.checkValue selection v chain s) := by
  unfold checkValue metInValue
  cases v with
  | object type values => exact c.checkObject_goes selection type values chain s
  | seq items => exact checkValues_goes selection items chain s
  | _ => exact .passed

theorem checkValues_goes (selection : Option (List String)) (vs : List Value) (chain : Chain)
    (s : Session) :
    c.Goes (c.metInValues selection vs chain s) chain s (c.checkValues selection vs chain s) := by
  unfold checkValues metInValues
  cases vs with
  | nil => exact .passed
  | cons v rest =>
      exact (checkValue_goes selection v chain s).proceed (checkValues_goes selection rest)

end

end Check

end FieldRules
