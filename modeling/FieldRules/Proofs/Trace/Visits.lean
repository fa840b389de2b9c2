import FieldRules.Proofs.Direct.Interpreter
import FieldRules.Proofs.Walk.Work

/-!
# `Proofs.Trace.Visits` — the fields of a value in the order of a walk

A walk that never stopped would visit all fields that a plan does not ignore: those of an object in
the order of declaration, the elements of a sequence in their order, and what a walked field holds
right after that field. `Plan.visits` lists these visits for a value, without any judgement. A visit
knows its way: the hops that lead down to its object, each from a field of the object above through
positions of sequences.

## Contents
- **`Objection`**, why matchers do not let a value pass, with the entry for it.
- **`Place`** and **`Hop`**, with the entries that name them, and **`Visit`** with `Visit.Passes` and
  `Visit.Fails`.
- **`Visit.AllPass`**: visits that all pass, each judgement at its own reading of the clock.
- **`Plan.visits`**, the visits to a value in order.
- **`Descends`** and **`Plan.within_of_mem_visits`**: the hops of a visit lead from an outermost
  object to the object that is visited.
-/

namespace FieldRules

open Calendar

/-! ## Objections -/

/-- `Objection path v now ms entry`: matchers do not let a value pass, and this is the entry for it.
-/
inductive Objection (path : String) (v : Value) (now : Instant) (ms : List Matcher) :
    String → Prop where
  /-- Some matcher admits, and none of those that do is hit. -/
  | notAccepted (admitting : ∃ m ∈ ms, m.polarity = .accept)
      (missed : ∀ m ∈ ms, m.polarity = .accept → m.hits v now = false) :
      Objection path v now ms (notAcceptedEntry path v (ms.filter (·.polarity = .accept)))
  /-- All matchers reject, and this one is the first to be hit. -/
  | rejected {m} (rejecting : ∀ m ∈ ms, m.polarity = .reject)
      (first : ms.find? (·.hits v now) = some m) :
      Objection path v now ms (rejectedEntry path v m)

/-- The failures of a judgement are the objections to the value. -/
theorem judgement_eq_failed_iff {path : String} {v : Value} {now : Instant} {ms : List Matcher}
    {entry : String} :
    judgement path v now ms = .failed [entry] ↔ Objection path v now ms entry := by
  constructor
  · intro h
    unfold judgement at h
    by_cases hadmitting : ∃ m ∈ ms, m.polarity = .accept
    · rw [if_pos hadmitting] at h
      by_cases hhit : ∃ m ∈ ms, m.polarity = .accept ∧ m.hits v now = true
      · rw [if_pos hhit] at h
        cases h
      · rw [if_neg hhit] at h
        cases h
        refine .notAccepted hadmitting fun m hm hp => ?_
        simpa using fun hhits => hhit ⟨m, hm, hp, hhits⟩
    · rw [if_neg hadmitting] at h
      cases hfirst : ms.find? (·.hits v now) with
      | none =>
          rw [hfirst] at h
          cases h
      | some m =>
          rw [hfirst] at h
          cases h
          refine .rejected (fun m hm => ?_) hfirst
          cases hp : m.polarity with
          | accept => exact absurd ⟨m, hm, hp⟩ hadmitting
          | reject => rfl
  · intro h
    unfold judgement
    cases h with
    | notAccepted admitting missed =>
        have hmissed : ¬∃ m ∈ ms, m.polarity = .accept ∧ m.hits v now = true := by
          rintro ⟨m, hm, hp, hhits⟩
          rw [missed m hm hp] at hhits
          cases hhits
        rw [if_pos admitting, if_neg hmissed]
    | rejected rejecting first =>
        have hnone : ¬∃ m ∈ ms, m.polarity = .accept := by
          rintro ⟨m, hm, hp⟩
          rw [rejecting m hm] at hp
          cases hp
        rw [if_neg hnone, first]

/-! ## Places and hops -/

/-- A place in an object: a field, and positions in the nested sequences that it holds, outermost
first. -/
structure Place where
  type : TypeKey
  field : String
  positions : List Nat
  deriving DecidableEq, Repr

namespace Place

/-- The place as entries name it. -/
def path (p : Place) : String :=
  p.positions.foldl elementPath (fieldPath p.type p.field)

/-- An element of the sequence at a place. -/
def element (p : Place) (position : Nat) : Place :=
  { p with positions := p.positions ++ [position] }

theorem path_element (p : Place) (position : Nat) :
    (p.element position).path = elementPath p.path position := by
  simp [path, element, List.foldl_append]

end Place

/-- A step down from an object to an object that it holds. -/
structure Hop where
  place : Place
  /-- The type of the object at the place. -/
  target : TypeKey
  deriving DecidableEq, Repr

/-- The entry for a failure further down. -/
def Hop.entry (h : Hop) : String :=
  nestedEntry h.place.path h.target

/-! ## Visits -/

/-- A visit to a field of an object, at the end of some hops. -/
structure Visit where
  hops : List Hop
  type : TypeKey
  values : List (String × Reading)
  field : PlannedField

namespace Visit

/-- The same visit, seen from one object further up. -/
def under (hop : Hop) (visit : Visit) : Visit :=
  { visit with hops := hop :: visit.hops }

/-- The field can be read and, if it is judged, its value passes. -/
def Passes (visit : Visit) (now : Instant) : Prop :=
  ∃ v, Value.read visit.type visit.values visit.field.name = .ok v ∧
    ∀ ms, visit.field.treatment = .judged ms →
      judgement (fieldPath visit.type visit.field.name) v now ms = .passed

/-- The field is judged, and there is an objection to its value. -/
def Fails (visit : Visit) (now : Instant) (entry : String) : Prop :=
  ∃ v ms, Value.read visit.type visit.values visit.field.name = .ok v ∧
    visit.field.treatment = .judged ms ∧
    Objection (fieldPath visit.type visit.field.name) v now ms entry

/-- Whether the field is judged, for which the clock is read once. -/
def isJudged (visit : Visit) : Bool :=
  match visit.field.treatment with
  | .judged _ => true
  | _ => false

/-- Visits in order all pass, the first judgement of them at reading `n` of the clock. -/
def AllPass (clock : Nat → Instant) : Nat → List Visit → Prop
  | _, [] => True
  | n, visit :: rest => visit.Passes (clock n) ∧ AllPass clock (n + [visit].countP isJudged) rest

theorem allPass_append {clock : Nat → Instant} {n : Nat} {visits more : List Visit} :
    AllPass clock n (visits ++ more) ↔
      AllPass clock n visits ∧ AllPass clock (n + visits.countP isJudged) more := by
  induction visits generalizing n with
  | nil => simp [AllPass]
  | cons visit rest ih =>
      have hcount : (visit :: rest).countP isJudged =
          [visit].countP isJudged + rest.countP isJudged := by
        rw [← List.countP_append, List.singleton_append]
      rw [List.cons_append, AllPass, AllPass, ih, and_assoc, hcount, Nat.add_assoc]

theorem countP_under (hop : Hop) (visits : List Visit) :
    (visits.map (under hop)).countP isJudged = visits.countP isJudged := by
  rw [List.countP_map]
  rfl

theorem allPass_under {clock : Nat → Instant} {n : Nat} {hop : Hop} {visits : List Visit} :
    AllPass clock n (visits.map (under hop)) ↔ AllPass clock n visits := by
  induction visits generalizing n with
  | nil => exact Iff.rfl
  | cons visit rest ih => exact and_congr Iff.rfl ih

end Visit

/-! ## The visits to a value -/

namespace Plan

mutual

/-- The visits to planned fields of an object in order. -/
def visitsTo (plan : Plan) (type : TypeKey) (values : List (String × Reading))
    (fields : List PlannedField) : List Visit :=
  match fields with
  | [] => []
  | f :: rest => plan.visitsAt type values f ++ plan.visitsTo type values rest
termination_by (sizeOf values, fields.length, 1)

/-- The visit to one field of an object, with the visits to what it holds if it is walked. -/
def visitsAt (plan : Plan) (type : TypeKey) (values : List (String × Reading))
    (f : PlannedField) : List Visit :=
  match f.treatment with
  | .ignored => []
  | .judged _ => [⟨[], type, values, f⟩]
  | .walked =>
    ⟨[], type, values, f⟩ ::
      match _found : Value.read type values f.name with
      | .error _ => []
      | .ok v => plan.visitsInside ⟨type, f.name, []⟩ v
termination_by (sizeOf values, 0, 2)
decreasing_by
  exact .left _ _ (sizeOf_lt_of_read _found)

/-- The visits to what is at a place. -/
def visitsInside (plan : Plan) (place : Place) (v : Value) : List Visit :=
  match v with
  | .object type values =>
    (plan.visitsTo type values (plan type)).map (Visit.under ⟨place, type⟩)
  | .seq items => plan.visitsInItems place 0 items
  | _ => []
termination_by (sizeOf v, 0, 0)
decreasing_by
  · refine .left _ _ ?_
    rw [Value.object.sizeOf_spec, TypeKey.mk.sizeOf_spec]
    omega
  · refine .left _ _ ?_
    rw [Value.seq.sizeOf_spec]
    omega

/-- The visits to elements of the sequence at a place, from a position on. -/
def visitsInItems (plan : Plan) (place : Place) (position : Nat) (items : List Value) :
    List Visit :=
  match items with
  | [] => []
  | v :: rest =>
    plan.visitsInside (place.element position) v ++ plan.visitsInItems place (position + 1) rest
termination_by (sizeOf items, 0, 0)

end

/-- Whether a selection keeps a field; without one all fields are kept. -/
def keeps (selection : Option (List String)) (f : PlannedField) : Bool :=
  selection.all (·.contains f.name)

mutual

/-- The visits to a value that is not held by a field, in order. A selection holds for the outermost
objects. -/
def visits (plan : Plan) (selection : Option (List String)) (v : Value) : List Visit :=
  match v with
  | .object type values => plan.visitsTo type values ((plan type).filter (keeps selection))
  | .seq items => plan.visitsToAll selection items
  | _ => []

/-- The visits to several values in order. -/
def visitsToAll (plan : Plan) (selection : Option (List String)) (vs : List Value) : List Visit :=
  match vs with
  | [] => []
  | v :: rest => plan.visits selection v ++ plan.visitsToAll selection rest

end

/-! ## Small facts -/

theorem mem_visitsTo {plan : Plan} {type : TypeKey} {values : List (String × Reading)}
    {fields : List PlannedField} {visit : Visit} :
    visit ∈ plan.visitsTo type values fields ↔
      ∃ f ∈ fields, visit ∈ plan.visitsAt type values f := by
  induction fields with
  | nil =>
      rw [visitsTo]
      simp
  | cons f rest ih =>
      rw [visitsTo]
      simp [ih]

theorem mem_visitsInItems {plan : Plan} {place : Place} {position : Nat} {items : List Value}
    {visit : Visit} :
    visit ∈ plan.visitsInItems place position items ↔
      ∃ k v, items[k]? = some v ∧ visit ∈ plan.visitsInside (place.element (position + k)) v := by
  induction items generalizing position with
  | nil =>
      rw [visitsInItems]
      simp
  | cons u rest ih =>
      rw [visitsInItems, List.mem_append, ih]
      constructor
      · rintro (hfirst | ⟨k, v, hk, hvisit⟩)
        · exact ⟨0, u, rfl, hfirst⟩
        · refine ⟨k + 1, v, hk, ?_⟩
          rwa [Nat.add_assoc, Nat.add_comm 1 k] at hvisit
      · rintro ⟨k, v, hk, hvisit⟩
        cases k with
        | zero =>
            cases hk
            exact .inl hvisit
        | succ k =>
            refine .inr ⟨k, v, hk, ?_⟩
            rwa [Nat.add_assoc, Nat.add_comm 1 k]

theorem mem_visitsToAll {plan : Plan} {selection : Option (List String)} {vs : List Value}
    {visit : Visit} :
    visit ∈ plan.visitsToAll selection vs ↔ ∃ v ∈ vs, visit ∈ plan.visits selection v := by
  induction vs with
  | nil => simp [visitsToAll]
  | cons v rest ih => simp [visitsToAll, ih]

theorem visitsAt_of_walked (plan : Plan) (type : TypeKey) (values : List (String × Reading))
    {f : PlannedField} (h : f.treatment = .walked) :
    plan.visitsAt type values f = ⟨[], type, values, f⟩ ::
      match Value.read type values f.name with
      | .error _ => []
      | .ok v => plan.visitsInside ⟨type, f.name, []⟩ v := by
  rw [visitsAt, h]
  dsimp only
  congr 1
  split
  · next e read => rw [read]
  · next v read => rw [read]

end Plan

/-! ## The way to a visit -/

/-- What stands at positions of nested sequences, outermost first. -/
def Value.at? (v : Value) : List Nat → Option Value
  | [] => some v
  | k :: ks =>
    match v with
    | .seq items => items[k]?.bind (·.at? ks)
    | _ => none

theorem Value.at?_concat {v : Value} {ks : List Nat} {items : List Value} (k : Nat)
    (h : v.at? ks = some (.seq items)) : v.at? (ks ++ [k]) = items[k]? := by
  induction ks generalizing v with
  | nil =>
      cases h
      cases hk : items[k]? with
      | none => simp [at?, hk]
      | some u => simp [at?, hk]
  | cons l ks ih =>
      cases v with
      | seq outer =>
          cases hl : outer[l]? with
          | none => simp [at?, hl] at h
          | some u =>
              simp only [at?, hl, Option.bind_some, List.cons_append] at h ⊢
              exact ih h
      | _ => simp [at?] at h

/-- `Descends hops o u`: the hops lead from the object `o` down to the object `u`. -/
inductive Descends : List Hop → Value → Value → Prop where
  | here {type values} : Descends [] (.object type values) (.object type values)
  | down {type values field positions v target inner hops u}
      (read : Value.read type values field = .ok v)
      (found : v.at? positions = some (.object target inner))
      (next : Descends hops (.object target inner) u) :
      Descends (⟨⟨type, field, positions⟩, target⟩ :: hops) (.object type values) u

/-- A visit inside of an object: its hops lead from there to the object that is visited, and its
field is one of those that are planned for that object. -/
structure Visit.Within (plan : Plan) (o : Value) (visit : Visit) : Prop where
  descends : Descends visit.hops o (.object visit.type visit.values)
  planned : visit.field ∈ plan visit.type

namespace Plan

variable {plan : Plan}

/-- Visits to an object are inside of it, if those to what its fields hold are. -/
theorem within_of_mem_visitsTo {type : TypeKey} {values : List (String × Reading)}
    {fields : List PlannedField} {visit : Visit} (hfields : ∀ f ∈ fields, f ∈ plan type)
    (hinside : ∀ name v, Value.read type values name = .ok v →
      ∀ visit ∈ plan.visitsInside ⟨type, name, []⟩ v, visit.Within plan (.object type values))
    (h : visit ∈ plan.visitsTo type values fields) : visit.Within plan (.object type values) := by
  obtain ⟨f, hf, hvisit⟩ := mem_visitsTo.mp h
  have hself : Visit.Within plan (.object type values) ⟨[], type, values, f⟩ :=
    ⟨.here, hfields f hf⟩
  cases ht : f.treatment with
  | ignored => simp [visitsAt, ht] at hvisit
  | judged ms =>
      rw [visitsAt, ht] at hvisit
      rw [List.mem_singleton.mp hvisit]
      exact hself
  | walked =>
      rw [visitsAt_of_walked _ _ _ ht] at hvisit
      rcases List.mem_cons.mp hvisit with rfl | hvisit
      · exact hself
      · cases hread : Value.read type values f.name with
        | error e => simp [hread] at hvisit
        | ok v =>
            rw [hread] at hvisit
            exact hinside f.name v hread visit hvisit

/-- Visits to what stands somewhere in a field are inside of the object with that field. -/
theorem within_of_mem_visitsInside (v : Value) :
    ∀ {type values name root positions}, Value.read type values name = .ok root →
      root.at? positions = some v → ∀ visit ∈ plan.visitsInside ⟨type, name, positions⟩ v,
        visit.Within plan (.object type values) := by
  induction v using Value.held_induction with
  | object target inner ih =>
      intro type values name root positions hread hfound visit hvisit
      rw [visitsInside] at hvisit
      obtain ⟨visit', hvisit', rfl⟩ := List.mem_map.mp hvisit
      have hwithin := within_of_mem_visitsTo (fun f hf => hf)
        (fun name v hread => ih name v hread hread rfl) hvisit'
      exact ⟨.down hread hfound hwithin.descends, hwithin.planned⟩
  | seq items ih =>
      intro type values name root positions hread hfound visit hvisit
      rw [visitsInside] at hvisit
      obtain ⟨k, v, hk, hvisit⟩ := mem_visitsInItems.mp hvisit
      rw [Nat.zero_add] at hvisit
      refine ih v (List.mem_of_getElem? hk) hread ?_ visit hvisit
      rw [Value.at?_concat k hfound, hk]
  | leaf v hleaf =>
      intro type values name root positions hread hfound visit hvisit
      cases v with
      | object type values => cases hleaf
      | seq items => cases hleaf
      | _ =>
          rw [visitsInside] at hvisit
          · cases hvisit
          all_goals exact fun _ => nofun

/-- **Every visit is inside of an outermost object:** the value itself, or an element of the
sequences that it is made of. -/
theorem within_of_mem_visits {selection : Option (List String)} (v : Value) :
    ∀ visit ∈ plan.visits selection v,
      ∃ positions o, v.at? positions = some o ∧ visit.Within plan o := by
  induction v using Value.held_induction with
  | object type values ih =>
      intro visit hvisit
      rw [visits] at hvisit
      exact ⟨[], _, rfl, within_of_mem_visitsTo (fun f hf => (List.mem_filter.mp hf).1)
        (fun name v hread => within_of_mem_visitsInside v hread rfl) hvisit⟩
  | seq items ih =>
      intro visit hvisit
      rw [visits] at hvisit
      obtain ⟨u, hu, hvisit⟩ := mem_visitsToAll.mp hvisit
      obtain ⟨positions, o, hfound, hwithin⟩ := ih u hu visit hvisit
      obtain ⟨k, hk⟩ := List.mem_iff_getElem?.mp hu
      exact ⟨k :: positions, o, by simp [Value.at?, hk, hfound], hwithin⟩
  | leaf v hleaf =>
      intro visit hvisit
      cases v with
      | object type values => cases hleaf
      | seq items => cases hleaf
      | _ => simp [visits] at hvisit

end Plan

end FieldRules
