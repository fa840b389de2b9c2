import FieldRules.Proofs.Walk.Work

/-!
# `Proofs.Walk.Abreast` — two checks of one value, side by side

A check looks at the session in two places only: where it requests the type of an object, and where
it judges a field of an object whose type is indexed by then. So two checks of the same value, be it
in two settings, from two sessions or with two clocks, take the same course if they do so in these
places. Judgements need to be compared only for the objects that the first check comes to. The
sessions are compared by a relation that holds as long as nothing has ended the checks, and by
another one where an error has.

## Contents
- **`Abreast`**, two parts that have ended with the same answer.
- **`Check.SideBySide`**, two checks that are alike in both places, for objects of certain types.
- **`SideBySide.checkField`** and **`SideBySide.checkValue`**: they take the same course.
-/

namespace FieldRules

open Calendar

/-- Two parts have ended abreast: with the same answer, and in sessions that are related by `R`, or
by `E` if the answer is an error. -/
inductive Abreast (R E : Session → Session → Prop) {ε α : Type} :
    Except ε α × Session → Except ε α × Session → Prop where
  | ok {a s t} (related : R s t) : Abreast R E (.ok a, s) (.ok a, t)
  | error {e s t} (related : E s t) : Abreast R E (.error e, s) (.error e, t)

namespace Abreast

variable {R E : Session → Session → Prop} {ε α β : Type}

theorem answer {p q : Except ε α × Session} (h : Abreast R E p q) : q.1 = p.1 := by
  cases h with
  | ok related => rfl
  | error related => rfl

/-- Parts that have ended abreast in equal sessions are equal. -/
theorem eq {p q : Except ε α × Session} (h : Abreast R E p q) (hR : ∀ s t, R s t → t = s)
    (hE : ∀ s t, E s t → t = s) : q = p := by
  cases h with
  | ok related => rw [hR _ _ related]
  | error related => rw [hE _ _ related]

theorem map {p q : Except ε α × Session} (h : Abreast R E p q) (f : α → β) :
    Abreast R E (p.1.map f, p.2) (q.1.map f, q.2) := by
  cases h with
  | ok related => exact .ok related
  | error related => exact .error related

/-- Going on abreast after parts that have ended abreast. -/
theorem proceed {p q : Progress} {next next' : Chain → Session → Progress}
    (h : Abreast R E p q)
    (hnext : ∀ chain, p.1 = .ok (true, chain) → R p.2 q.2 →
      Abreast R E (next chain p.2) (next' chain q.2)) :
    Abreast R E (proceed p next) (proceed q next') := by
  cases h with
  | error related => exact .error related
  | @ok ended s t related =>
      obtain ⟨passed, chain⟩ := ended
      cases passed with
      | true => exact hnext chain rfl related
      | false => exact .ok related

end Abreast

namespace Check

/-- Two checks are alike wherever they look at sessions that are related by `R`: in every request,
and in the judgements of fields of objects whose types satisfy `P`. -/
structure SideBySide (c c' : Check) (P : TypeKey → Prop) (R E : Session → Session → Prop) :
    Prop where
  /-- A field that cannot be read ends both. -/
  unread : ∀ s t, R s t → E s t
  request : ∀ type s t, R s t →
    Abreast R E (c.setting.ensureIndexed type s) (c'.setting.ensureIndexed type t)
  judge : ∀ type values field chain s t, P type → R s t → s.index.contains type = true →
    Abreast R E (c.judgeField type values field chain s) (c'.judgeField type values field chain t)

namespace SideBySide

variable {c c' : Check} {P : TypeKey → Prop} {R E : Session → Session → Prop}

mutual

theorem checkFields (h : c.SideBySide c' P R E) (selection : Option (List String))
    (type : TypeKey) (values : List (String × Reading)) (fields : List IndexedField)
    (chain : Chain) {s t : Session} (hs : R s t) (indexed : s.index.contains type = true)
    (here : P type) (hmet : ∀ t ∈ c.metInFields selection type values fields chain s, P t) :
    Abreast R E (c.checkFields selection type values fields chain s)
      (c'.checkFields selection type values fields chain t) := by
  cases fields with
  | nil =>
      rw [Check.checkFields, Check.checkFields]
      exact .ok hs
  | cons f rest =>
      have hworked := (c.checkField_goes type values f chain s).worked
      rw [metInFields] at hmet
      rw [Check.checkFields, Check.checkFields]
      split
      · next outside =>
          rw [if_pos outside] at hmet
          exact checkFields h selection type values rest chain hs indexed here hmet
      · next inside =>
          rw [if_neg inside, List.forall_mem_append] at hmet
          obtain ⟨hfirst, hrest⟩ := hmet
          refine (checkField h type values f chain hs indexed here hfirst).proceed ?_
          intro chain passed hnext
          rw [metAfter_of_passed passed] at hrest
          exact checkFields h selection type values rest chain hnext
            (hworked.steps.contains indexed) here hrest
termination_by (sizeOf values, fields.length, 1)

theorem checkField (h : c.SideBySide c' P R E) (type : TypeKey) (values : List (String × Reading))
    (f : IndexedField) (chain : Chain) {s t : Session} (hs : R s t)
    (indexed : s.index.contains type = true) (here : P type)
    (hmet : ∀ t ∈ c.metInField type values f chain s, P t) :
    Abreast R E (c.checkField type values f chain s) (c'.checkField type values f chain t) := by
  by_cases hkind : f.kind = .rules
  · rw [Check.checkField, Check.checkField, hkind]
    exact h.judge type values f.name chain s t here hs indexed
  · rw [c.metInField_of_walked type values f chain s hkind] at hmet
    rw [c.checkField_of_walked type values f chain s hkind,
      c'.checkField_of_walked type values f chain t hkind]
    cases hread : Value.read type values f.name with
    | error e => exact .error (h.unread s t hs)
    | ok v =>
        rw [hread] at hmet
        exact checkNested h (fieldPath type f.name) v chain hs hmet
termination_by (sizeOf values, 0, 2)
decreasing_by
  exact .left _ _ (sizeOf_lt_of_read hread)

theorem checkObject (h : c.SideBySide c' P R E) (selection : Option (List String))
    (type : TypeKey) (values : List (String × Reading)) (chain : Chain) {s t : Session}
    (hs : R s t) (hmet : ∀ t ∈ c.metInObject selection type values chain s, P t) :
    Abreast R E (c.checkObject selection type values chain s)
      (c'.checkObject selection type values chain t) := by
  have hrequest := h.request type s t hs
  rw [metInObject] at hmet
  rw [Check.checkObject, Check.checkObject]
  cases hr : c.setting.ensureIndexed type s with
  | mk r s₁ =>
      rw [hr] at hrequest hmet
      generalize c'.setting.ensureIndexed type t = q at hrequest ⊢
      cases hrequest with
      | error related => exact .error related
      | @ok entry s₁ t₁ related =>
          obtain ⟨here, hinside⟩ := List.forall_mem_cons.mp hmet
          exact checkFields h selection type values entry.fields chain related
            (Setting.ensureIndexed_closedBut hr).1 here hinside
termination_by (sizeOf values + 1, 0, 0)

theorem checkNested (h : c.SideBySide c' P R E) (path : String) (v : Value) (chain : Chain)
    {s t : Session} (hs : R s t) :
    (∀ t ∈ c.metInNested path v chain s, P t) →
      Abreast R E (c.checkNested path v chain s) (c'.checkNested path v chain t) := by
  cases v with
  | object type values =>
      intro hmet
      rw [metInNested] at hmet
      rw [checkNested_object, checkNested_object]
      exact (checkObject h none type values chain hs hmet).map _
  | seq items =>
      intro hmet
      rw [metInNested] at hmet
      rw [Check.checkNested, Check.checkNested]
      exact checkItems h path 0 items chain hs hmet
  | _ =>
      intro _
      rw [c.checkNested_of_leaf path rfl, c'.checkNested_of_leaf path rfl]
      exact .ok hs
termination_by (sizeOf v, 0, 0)
decreasing_by
  · refine .left _ _ ?_
    rw [Value.object.sizeOf_spec, TypeKey.mk.sizeOf_spec]
    omega
  · refine .left _ _ ?_
    rw [Value.seq.sizeOf_spec]
    omega

theorem checkItems (h : c.SideBySide c' P R E) (path : String) (position : Nat)
    (items : List Value) (chain : Chain) {s t : Session} (hs : R s t)
    (hmet : ∀ t ∈ c.metInItems path position items chain s, P t) :
    Abreast R E (c.checkItems path position items chain s)
      (c'.checkItems path position items chain t) := by
  cases items with
  | nil =>
      rw [Check.checkItems, Check.checkItems]
      exact .ok hs
  | cons v rest =>
      rw [metInItems, List.forall_mem_append] at hmet
      rw [Check.checkItems, Check.checkItems]
      obtain ⟨hfirst, hrest⟩ := hmet
      refine (checkNested h (elementPath path position) v chain hs hfirst).proceed ?_
      intro chain passed hnext
      rw [metAfter_of_passed passed] at hrest
      exact checkItems h path (position + 1) rest chain hnext hrest
termination_by (sizeOf items, 0, 0)

end

mutual

/-- **Checks that are alike wherever they look at a session take the same course,** if the types of
the objects that the first of them comes to satisfy `P`. -/
theorem checkValue (h : c.SideBySide c' P R E) (selection : Option (List String)) (v : Value)
    (chain : Chain) {s t : Session} (hs : R s t)
    (hmet : ∀ t ∈ c.metInValue selection v chain s, P t) :
    Abreast R E (c.checkValue selection v chain s) (c'.checkValue selection v chain t) := by
  unfold metInValue at hmet
  unfold Check.checkValue
  cases v with
  | object type values => exact h.checkObject selection type values chain hs hmet
  | seq items => exact checkValues h selection items chain hs hmet
  | _ => exact .ok hs

theorem checkValues (h : c.SideBySide c' P R E) (selection : Option (List String))
    (vs : List Value) (chain : Chain) {s t : Session} (hs : R s t)
    (hmet : ∀ t ∈ c.metInValues selection vs chain s, P t) :
    Abreast R E (c.checkValues selection vs chain s) (c'.checkValues selection vs chain t) := by
  unfold metInValues at hmet
  unfold Check.checkValues
  cases vs with
  | nil => exact .ok hs
  | cons v rest =>
      obtain ⟨hfirst, hrest⟩ := List.forall_mem_append.mp hmet
      refine (checkValue h selection v chain hs hfirst).proceed ?_
      intro chain passed hnext
      rw [metAfter_of_passed passed] at hrest
      exact checkValues h selection rest chain hnext hrest

end

end SideBySide

end Check

end FieldRules
