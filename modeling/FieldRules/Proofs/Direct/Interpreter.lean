import FieldRules.Check.Validator
import FieldRules.Proofs.Declared

/-!
# `Proofs.Direct.Interpreter` — checks without index and registry

What a check comes to, said in one recursion over the value. Schemas and rule book are looked up
afresh for every object that is met: a plan lists the declared fields of its type in order, each
with what happens to it in the group of the check. Nothing is kept from one object to the next, and
no request comes before another one.

A malformed rule is no matter of an interpreter: its only errors are fields that cannot be read.

## Contents
- **`Outcome`** of a part of the interpretation, with the entries of that part alone, and
  **`judgement`**, the outcome for a value under a list of matchers.
- **`Treatment`**, **`Plan`** and **`Setting.plan`**, what happens to the declared fields of a type.
- **`Direct`** and its functions `fields`, `inside` and `value`, the interpreter of a plan.
- **`Setting.interpret`**, the verdict of the interpreter.
-/

namespace FieldRules

open Calendar

/-! ## Outcomes -/

/-- The outcome of a part of the interpretation. -/
inductive Outcome where
  | passed
  /-- Something failed, with the entries for it, outermost first. -/
  | failed (chain : List String)
  deriving DecidableEq, Repr

/-- The verdict of an outcome. -/
def Outcome.verdict (group : String) : Outcome → Verdict
  | .passed => ⟨true, group, []⟩
  | .failed chain => ⟨false, group, chain⟩

/-! ## Judging a value -/

/-- The outcome for a value under the matchers of a group. Where one of them admits, a hit of an
admitting matcher is needed and enough; where none does, the first one that is hit rejects. -/
def judgement (path : String) (v : Value) (now : Instant) (ms : List Matcher) : Outcome :=
  if ∃ m ∈ ms, m.polarity = .accept then
    if ∃ m ∈ ms, m.polarity = .accept ∧ m.hits v now = true then .passed
    else .failed [notAcceptedEntry path v (ms.filter (·.polarity = .accept))]
  else
    match ms.find? (·.hits v now) with
    | some m => .failed [rejectedEntry path v m]
    | none => .passed

/-! ## Plans -/

/-- What happens to a field of an object. -/
inductive Treatment where
  /-- It passes unread. -/
  | ignored
  /-- It is read and judged by matchers, of which there is at least one. -/
  | judged (matchers : List Matcher)
  /-- It is read, and what it holds is walked. -/
  | walked

/-- A declared field and what happens to it. -/
structure PlannedField where
  name : String
  treatment : Treatment

/-- What happens to the fields of the objects of a type, in the order of declaration. -/
abbrev Plan := TypeKey → List PlannedField

namespace Setting

/-- What happens to a declared field in a group. The matchers are those on any declaration of its
name; a field with rules of other groups only is not walked either. -/
def treatment (w : Setting) (group : String) (type : TypeKey) (f : Field) : Treatment :=
  match w.kind? type f with
  | none => .ignored
  | some .rules =>
    if w.matchersOn group type f.name = [] then .ignored
    else .judged (w.matchersOn group type f.name)
  | some .nested => .walked
  | some .container => .walked

/-- A declared field in the plan of its type. -/
def planned (w : Setting) (group : String) (type : TypeKey) (f : Field) : PlannedField :=
  ⟨f.name, w.treatment group type f⟩

/-- The plan of a group. -/
def plan (w : Setting) (group : String) : Plan := fun type =>
  (w.schemas.of type).fields.map (w.planned group type)

theorem treatment_of_ruled {w : Setting} {group : String} {type : TypeKey} {f : Field}
    (h : w.enabledRules type f ≠ []) :
    w.treatment group type f =
      if w.matchersOn group type f.name = [] then .ignored
      else .judged (w.matchersOn group type f.name) := by
  rw [treatment, kind?_of_ruled h]

theorem treatment_of_unwalked {w : Setting} {group : String} {type : TypeKey} {f : Field}
    (hr : w.enabledRules type f = []) (ht : f.target? = none) :
    w.treatment group type f = .ignored := by
  rw [treatment, kind?_of_ruleless hr, ht]
  rfl

/-- A field that leads to a type is walked. -/
theorem treatment_of_walked {w : Setting} {group : String} {type : TypeKey} {f : Field}
    (hr : w.enabledRules type f = []) (ht : f.target? ≠ none) :
    w.treatment group type f = .walked := by
  rw [treatment, kind?_of_ruleless hr]
  cases htarget : f.target? with
  | none => exact absurd htarget ht
  | some found =>
      rcases kind_of_target? htarget with hkind | hkind
      · rw [Option.map_some, hkind]
      · rw [Option.map_some, hkind]

end Setting

/-! ## The interpreter -/

/-- An interpreter of a plan at an instant. -/
structure Direct where
  plan : Plan
  now : Instant

namespace Direct

mutual

/-- Takes planned fields of an object in order, up to the first that does not pass. With a
selection, fields outside of it are passed over. -/
def fields (d : Direct) (selection : Option (List String)) (type : TypeKey)
    (values : List (String × Reading)) (planned : List PlannedField) : Except AccessError Outcome :=
  match planned with
  | [] => .ok .passed
  | f :: rest =>
    if selection.any fun names => !names.contains f.name then d.fields selection type values rest
    else
      match d.field type values f with
      | .ok .passed => d.fields selection type values rest
      | stopped => stopped
termination_by (sizeOf values, planned.length, 1)

/-- Treats one field of an object as planned. -/
def field (d : Direct) (type : TypeKey) (values : List (String × Reading)) (f : PlannedField) :
    Except AccessError Outcome :=
  match f.treatment with
  | .ignored => .ok .passed
  | .judged ms =>
    match Value.read type values f.name with
    | .error e => .error e
    | .ok v => .ok (judgement (fieldPath type f.name) v d.now ms)
  | .walked =>
    match _found : Value.read type values f.name with
    | .error e => .error e
    | .ok v => d.inside (fieldPath type f.name) v
termination_by (sizeOf values, 0, 2)
decreasing_by
  exact .left _ _ (sizeOf_lt_of_read _found)

/-- Takes the planned fields of an object, or those of a selection. -/
def object (d : Direct) (selection : Option (List String)) (type : TypeKey)
    (values : List (String × Reading)) : Except AccessError Outcome :=
  d.fields selection type values (d.plan type)
termination_by (sizeOf values + 1, 0, 0)

/-- Walks what a field holds, by the type of the object that is there. -/
def inside (d : Direct) (path : String) (v : Value) : Except AccessError Outcome :=
  match v with
  | .object type values =>
    match d.object none type values with
    | .ok (.failed chain) => .ok (.failed (nestedEntry path type :: chain))
    | other => other
  | .seq items => d.elements path 0 items
  | _ => .ok .passed
termination_by (sizeOf v, 0, 0)
decreasing_by
  · refine .left _ _ ?_
    rw [Value.object.sizeOf_spec, TypeKey.mk.sizeOf_spec]
    omega
  · refine .left _ _ ?_
    rw [Value.seq.sizeOf_spec]
    omega

/-- Walks the elements of a sequence from a position on, up to the first that does not pass. -/
def elements (d : Direct) (path : String) (position : Nat) (items : List Value) :
    Except AccessError Outcome :=
  match items with
  | [] => .ok .passed
  | v :: rest =>
    match d.inside (elementPath path position) v with
    | .ok .passed => d.elements path (position + 1) rest
    | stopped => stopped
termination_by (sizeOf items, 0, 0)

end

mutual

/-- Takes a value that is not held by a field. A sequence passes its selection on to its elements.
-/
def value (d : Direct) (selection : Option (List String)) (v : Value) :
    Except AccessError Outcome :=
  match v with
  | .object type values => d.object selection type values
  | .seq items => d.values selection items
  | _ => .ok .passed

/-- Takes values in order, up to the first that does not pass. -/
def values (d : Direct) (selection : Option (List String)) (vs : List Value) :
    Except AccessError Outcome :=
  match vs with
  | [] => .ok .passed
  | v :: rest =>
    match d.value selection v with
    | .ok .passed => d.values selection rest
    | stopped => stopped

end

/-! ## Small facts -/

theorem field_of_walked (d : Direct) (type : TypeKey) (values : List (String × Reading))
    (f : PlannedField) (h : f.treatment = .walked) :
    d.field type values f =
      match Value.read type values f.name with
      | .error e => .error e
      | .ok v => d.inside (fieldPath type f.name) v := by
  rw [field, h]
  dsimp only
  split
  · next e read => rw [read]
  · next v read => rw [read]

end Direct

/-! ## Verdicts -/

/-- The verdict of the interpreter on a value in a group. A blank group stands for the default
group, and verdicts name the group that is meant. -/
def Setting.interpret (w : Setting) (now : Instant) (group : String) (v : Value)
    (selection : Option (List String)) : Except AccessError Verdict :=
  (Direct.value ⟨w.plan (groupNamed group), now⟩ selection v).map
    (Outcome.verdict (groupNamed group))

end FieldRules
