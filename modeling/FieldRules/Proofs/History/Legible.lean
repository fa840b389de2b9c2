import FieldRules.Proofs.Direct.Refinement
import FieldRules.Proofs.Walk.Ending

/-!
# `Proofs.History.Legible` — values in which every declared field can be read

A check reads a field of an object only if the index of its type lists the field, and the index
lists declared fields only. So where every object can be read in all the fields that its type
declares, no check ends because of a field that cannot be read, whatever the rules are. What is left
is a malformed rule, and that has to be on one of the types inside of the value, or on one that they
lead to.

Each part of a check is handed an exact session, and so is the next one. A part ends with an error
only for such a rule (`Settled`), be it a judgement, a walked field, an object or an element.

## Contents
- **`Value.Legible`**, values in which every declared field can be read.
- **`Setting.Settled`**, how a part of a check of such a value can end.
- **`Check.checkValue_settled`** and **`Setting.evaluate_of_legible`**.
-/

namespace FieldRules

open Calendar

/-! ## Values that can be read -/

/-- Every declared field of every object inside of the value can be read. -/
def Value.Legible (ss : Schemas) (v : Value) : Prop :=
  ∀ type values, Value.Inside (.object type values) v →
    ∀ f ∈ (ss.of type).fields, ∃ u, Value.read type values f.name = .ok u

namespace Value.Legible

variable {ss : Schemas}

theorem field {type : TypeKey} {values : List (String × Reading)} {name : String} {v : Value}
    (h : Legible ss (.object type values)) (read : Value.read type values name = .ok v) :
    Legible ss v :=
  fun type' values' hinside => h type' values' (.field read hinside)

theorem element {items : List Value} {v : Value} (h : Legible ss (.seq items))
    (hmem : v ∈ items) : Legible ss v :=
  fun type values hinside => h type values (.element hmem hinside)

end Value.Legible

/-! ## How a part ends -/

/-- `w.Settled v p`: a part of a check of `v` has ended as `p`, and if that is an error, then one
for a malformed rule on what is inside of `v` or behind it. -/
def Setting.Settled (w : Setting) (v : Value) (p : Progress) : Prop :=
  ∀ e, p.1 = .error e → (∃ fault, e = .rule fault) ∧ ¬w.CompilesInside v

namespace Setting.Settled

variable {w : Setting} {v : Value} {p : Progress}

theorem ok {ended : Bool × Chain} {s : Session} : w.Settled v (.ok ended, s) := by
  intro e he
  cases he

/-- What is to blame inside of a field is to blame in the object. -/
theorem field {type : TypeKey} {values : List (String × Reading)} {name : String}
    (read : Value.read type values name = .ok v) (h : w.Settled v p) :
    w.Settled (.object type values) p := fun e he =>
  ⟨(h e he).1, fun compiles => (h e he).2 (compiles.field read)⟩

/-- What is to blame inside of an element is to blame in the sequence. -/
theorem element {items : List Value} (hmem : v ∈ items) (h : w.Settled v p) :
    w.Settled (.seq items) p := fun e he =>
  ⟨(h e he).1, fun compiles => (h e he).2 (compiles.element hmem)⟩

theorem proceed {next : Chain → Session → Progress} (h : w.Settled v p)
    (hnext : ∀ chain, w.Settled v (next chain p.2)) : w.Settled v (proceed p next) := by
  obtain ⟨r, s⟩ := p
  cases r with
  | error e => exact h
  | ok ended =>
      obtain ⟨passed, chain⟩ := ended
      cases passed with
      | true => exact hnext chain
      | false => exact .ok

theorem map (f : Bool × Chain → Bool × Chain) (h : w.Settled v p) :
    w.Settled v (p.1.map f, p.2) := by
  obtain ⟨r, s⟩ := p
  cases r with
  | error e => exact h
  | ok ended => exact .ok

/-- A request for the type of an object fails for a malformed rule that the type leads to. -/
theorem request {type : TypeKey} {values : List (String × Reading)} {s s' : Session}
    {e : RuleError} (hs : w.Exact s) (fails : w.ensureIndexed type s = (.error e, s')) :
    w.Settled (.object type values) (.error (.rule e), s') := by
  intro e' he
  obtain rfl := Except.error.inj he
  refine ⟨⟨e, rfl⟩, fun compiles => ?_⟩
  obtain ⟨bad, hpath, malformed⟩ := (ensureIndexed_error_iff hs type).mp ⟨e, by rw [fails]⟩
  exact not_malformed_iff.mpr (compiles type values .self bad hpath.reaches) malformed

end Setting.Settled

/-! ## Part by part -/

namespace Check

variable {c : Check}

/-- What a walked field holds settles in every exact session. -/
def SettlesOn (c : Check) (v : Value) : Prop :=
  ∀ path chain s, c.setting.Exact s → c.setting.Settled v (c.checkNested path v chain s)

/-- An indexed field that can be read. -/
theorem checkField_settled {type : TypeKey} {values : List (String × Reading)} {f : IndexedField}
    {v : Value} (read : Value.read type values f.name = .ok v) (held : c.SettlesOn v)
    (chain : Chain) {s : Session} (hs : c.setting.Exact s) :
    c.setting.Settled (.object type values) (c.checkField type values f chain s) := by
  by_cases hrules : f.kind = .rules
  · rw [checkField, hrules]
    rcases c.judgeField_cases type values f.name chain s with
      ⟨-, heq⟩ | ⟨-, ⟨e, unread, -⟩ | ⟨v', s', -, -, -, heq⟩⟩
    · simp only [heq]
      exact .ok
    · rw [read] at unread
      cases unread
    · simp only [heq]
      exact .ok
  · rw [c.checkField_of_walked type values f chain s hrules, read]
    exact (held _ chain s hs).field read

/-- Declared fields in order, as far as they are indexed. -/
theorem checkFields_settled (selection : Option (List String)) {type : TypeKey}
    {values : List (String × Reading)} {decls : List Field}
    (readable : ∀ f ∈ decls, ∃ u, Value.read type values f.name = .ok u)
    (held : ∀ name v, Value.read type values name = .ok v → c.SettlesOn v) (chain : Chain)
    {s : Session} (hs : c.setting.Exact s) :
    c.setting.Settled (.object type values)
      (c.checkFields selection type values (c.setting.indexed type decls) chain s) := by
  induction decls generalizing chain s with
  | nil =>
      rw [Setting.indexed, List.filterMap_nil, checkFields]
      exact .ok
  | cons f decls ih =>
      obtain ⟨⟨v, read⟩, readable⟩ := List.forall_mem_cons.mp readable
      cases hkind : c.setting.kind? type f with
      | none =>
          rw [Setting.indexed_cons_of_none hkind]
          exact ih readable chain hs
      | some kind =>
          rw [Setting.indexed_cons_of_some hkind, checkFields]
          by_cases outside : (selection.any fun names => !names.contains f.name) = true
          · rw [if_pos outside]
            exact ih readable chain hs
          · rw [if_neg outside]
            have hsteps := (c.checkField_goes type values ⟨f.name, kind⟩ chain s).worked.steps
            exact (checkField_settled read (held f.name v read) chain hs).proceed
              fun chain => ih readable chain (hs.steps hsteps)

theorem checkObject_settled (selection : Option (List String)) {type : TypeKey}
    {values : List (String × Reading)}
    (legible : Value.Legible c.setting.schemas (.object type values))
    (held : ∀ name v, Value.read type values name = .ok v → c.SettlesOn v) (chain : Chain)
    {s : Session} (hs : c.setting.Exact s) :
    c.setting.Settled (.object type values) (c.checkObject selection type values chain s) := by
  rw [checkObject]
  cases hr : c.setting.ensureIndexed type s with
  | mk r s₁ =>
      cases r with
      | error e => exact .request hs hr
      | ok entry =>
          have hsteps := c.setting.ensureIndexed_steps type s
          rw [hr] at hsteps
          obtain rfl := Setting.entry_of_ensureIndexed hs hr
          exact checkFields_settled selection (legible type values .self) held chain
            (hs.steps hsteps)

theorem checkItems_settled {path : String} {position : Nat} {items : List Value} {whole : Value}
    (heach : ∀ v ∈ items, ∀ path chain s, c.setting.Exact s →
      c.setting.Settled whole (c.checkNested path v chain s)) (chain : Chain) {s : Session}
    (hs : c.setting.Exact s) :
    c.setting.Settled whole (c.checkItems path position items chain s) := by
  induction items generalizing position chain s with
  | nil =>
      rw [checkItems]
      exact .ok
  | cons v rest ih =>
      obtain ⟨hfirst, hrest⟩ := List.forall_mem_cons.mp heach
      rw [checkItems]
      have hsteps := (c.checkNested_goes (elementPath path position) v chain s).worked.steps
      exact (hfirst _ chain s hs).proceed fun chain => ih hrest chain (hs.steps hsteps)

theorem checkNested_settled {v : Value} (legible : v.Legible c.setting.schemas) :
    c.SettlesOn v := by
  induction v using Value.held_induction with
  | object type values ih =>
      intro path chain s hs
      rw [checkNested_object]
      exact (checkObject_settled none legible
        (fun name u read => ih name u read (legible.field read)) chain hs).map _
  | seq items ih =>
      intro path chain s hs
      rw [checkNested]
      refine checkItems_settled (fun v hmem path chain s hs => ?_) chain hs
      exact (ih v hmem (legible.element hmem) path chain s hs).element hmem
  | leaf v isLeaf =>
      intro path chain s hs
      rw [c.checkNested_of_leaf path isLeaf]
      exact .ok

theorem checkValues_settled {selection : Option (List String)} {vs : List Value} {whole : Value}
    (heach : ∀ v ∈ vs, ∀ chain s, c.setting.Exact s →
      c.setting.Settled whole (c.checkValue selection v chain s)) (chain : Chain) {s : Session}
    (hs : c.setting.Exact s) :
    c.setting.Settled whole (c.checkValues selection vs chain s) := by
  induction vs generalizing chain s with
  | nil => exact .ok
  | cons v rest ih =>
      obtain ⟨hfirst, hrest⟩ := List.forall_mem_cons.mp heach
      rw [checkValues]
      have hsteps := (c.checkValue_goes selection v chain s).worked.steps
      exact (hfirst chain s hs).proceed fun chain => ih hrest chain (hs.steps hsteps)

/-- **A check of a value that can be read settles** in every exact session. -/
theorem checkValue_settled (selection : Option (List String)) {v : Value}
    (legible : v.Legible c.setting.schemas) (chain : Chain) {s : Session}
    (hs : c.setting.Exact s) : c.setting.Settled v (c.checkValue selection v chain s) := by
  induction v using Value.held_induction generalizing chain s with
  | object type values ih =>
      exact checkObject_settled selection legible
        (fun name u read => checkNested_settled (legible.field read)) chain hs
  | seq items ih =>
      exact checkValues_settled
        (fun v hmem chain s hs => (ih v hmem (legible.element hmem) chain hs).element hmem) chain hs
  | leaf v isLeaf =>
      rw [c.checkValue_of_leaf selection isLeaf]
      exact .ok

end Check

/-! ## Checks -/

/-- **A value that can be read is never misread.** In an exact session no check of it ends because
of a field, and where all types inside of it compile, with what they lead to, there is a verdict. -/
theorem Setting.evaluate_of_legible {w : Setting} {s : Session} (hs : w.Exact s)
    (clock : Nat → Instant) (group : String) {v : Value} (legible : v.Legible w.schemas)
    (selection : Option (List String)) :
    (∀ e, (w.evaluate clock group v selection s).1 ≠ .error (.access e)) ∧
      (w.CompilesInside v → ∃ verdict, (w.evaluate clock group v selection s).1 = .ok verdict) := by
  have settled := Check.checkValue_settled (c := ⟨w, groupNamed group, clock⟩) selection legible
    .empty hs
  rw [evaluate_eq]
  generalize Check.checkValue ⟨w, groupNamed group, clock⟩ selection v .empty s = p at settled
  obtain ⟨r, s'⟩ := p
  cases r with
  | ok ended => exact ⟨nofun, fun _ => ⟨_, rfl⟩⟩
  | error e =>
      obtain ⟨⟨fault, rfl⟩, blamed⟩ := settled e rfl
      exact ⟨nofun, fun compiles => absurd compiles blamed⟩

end FieldRules
