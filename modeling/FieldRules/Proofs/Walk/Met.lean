import FieldRules.Check.Validator

/-!
# `Proofs.Walk.Met` — the objects that a check comes to

A check comes to an object when it has indexed its type and begins with its fields. Which objects
these are depends on how the check goes: a field that does not pass ends it, and so do a field that
cannot be read and a type with a malformed rule. So what is met is told along with the check, part by
part. A type that cannot be indexed is not among the types that are met; nothing is known about it,
and the check ends there.

## Contents
- **`metAfter`**, what is met after a part of a check.
- **`Check.metInFields`**, **`metInNested`** and **`metInValue`**, the types of the objects that a part
  of a check comes to, in order.
- **`Setting.met`**, those of a whole check.
-/

namespace FieldRules

open Calendar

/-- What is met after a part of a check: nothing unless the part passed. -/
def metAfter (p : Progress) (next : Chain → Session → List TypeKey) : List TypeKey :=
  match p with
  | (.ok (true, chain), s) => next chain s
  | _ => []

theorem metAfter_of_passed {p : Progress} {chain : Chain} (passed : p.1 = .ok (true, chain))
    (next : Chain → Session → List TypeKey) : metAfter p next = next chain p.2 := by
  obtain ⟨r, s⟩ := p
  cases passed
  rfl

namespace Check

mutual

/-- Among indexed fields of an object, up to the first that does not pass. -/
def metInFields (c : Check) (selection : Option (List String)) (type : TypeKey)
    (values : List (String × Reading)) (fields : List IndexedField) (chain : Chain) (s : Session) :
    List TypeKey :=
  match fields with
  | [] => []
  | f :: rest =>
    if selection.any fun names => !names.contains f.name then
      c.metInFields selection type values rest chain s
    else
      c.metInField type values f chain s ++
        metAfter (c.checkField type values f chain s) (c.metInFields selection type values rest)
termination_by (sizeOf values, fields.length, 1)

/-- In one indexed field of an object. A field with rules is judged, and nothing is met in it. -/
def metInField (c : Check) (type : TypeKey) (values : List (String × Reading)) (f : IndexedField)
    (chain : Chain) (s : Session) : List TypeKey :=
  match f.kind with
  | .rules => []
  | _ =>
    match _found : Value.read type values f.name with
    | .error _ => []
    | .ok v => c.metInNested (fieldPath type f.name) v chain s
termination_by (sizeOf values, 0, 2)
decreasing_by
  exact .left _ _ (sizeOf_lt_of_read _found)

/-- An object of a type that can be indexed, and what is met among its fields. -/
def metInObject (c : Check) (selection : Option (List String)) (type : TypeKey)
    (values : List (String × Reading)) (chain : Chain) (s : Session) : List TypeKey :=
  match c.setting.ensureIndexed type s with
  | (.error _, _) => []
  | (.ok entry, s) => type :: c.metInFields selection type values entry.fields chain s
termination_by (sizeOf values + 1, 0, 0)

/-- In what a walked field holds. -/
def metInNested (c : Check) (path : String) (v : Value) (chain : Chain) (s : Session) :
    List TypeKey :=
  match v with
  | .object type values => c.metInObject none type values chain s
  | .seq items => c.metInItems path 0 items chain s
  | _ => []
termination_by (sizeOf v, 0, 0)
decreasing_by
  · refine .left _ _ ?_
    rw [Value.object.sizeOf_spec, TypeKey.mk.sizeOf_spec]
    omega
  · refine .left _ _ ?_
    rw [Value.seq.sizeOf_spec]
    omega

/-- Among the elements of a sequence from a position on, up to the first that does not pass. -/
def metInItems (c : Check) (path : String) (position : Nat) (items : List Value) (chain : Chain)
    (s : Session) : List TypeKey :=
  match items with
  | [] => []
  | v :: rest =>
    c.metInNested (elementPath path position) v chain s ++
      metAfter (c.checkNested (elementPath path position) v chain s)
        (c.metInItems path (position + 1) rest)
termination_by (sizeOf items, 0, 0)

end

mutual

/-- In a value that is not held by a field. -/
def metInValue (c : Check) (selection : Option (List String)) (v : Value) (chain : Chain)
    (s : Session) : List TypeKey :=
  match v with
  | .object type values => c.metInObject selection type values chain s
  | .seq items => c.metInValues selection items chain s
  | _ => []

/-- Among several values, up to the first that does not pass. -/
def metInValues (c : Check) (selection : Option (List String)) (vs : List Value) (chain : Chain)
    (s : Session) : List TypeKey :=
  match vs with
  | [] => []
  | v :: rest =>
    c.metInValue selection v chain s ++
      metAfter (c.checkValue selection v chain s) (c.metInValues selection rest)

end

/-- Nothing is met in a leaf. -/
theorem metInNested_of_leaf (c : Check) (path : String) {v : Value} (h : v.isLeaf = true)
    (chain : Chain) (s : Session) : c.metInNested path v chain s = [] := by
  unfold metInNested
  cases v with
  | object type values => cases h
  | seq items => cases h
  | _ => rfl

/-- In a walked field is met what is met in what it holds, if it can be read. -/
theorem metInField_of_walked (c : Check) (type : TypeKey) (values : List (String × Reading))
    (f : IndexedField) (chain : Chain) (s : Session) (h : f.kind ≠ .rules) :
    c.metInField type values f chain s =
      match Value.read type values f.name with
      | .error _ => []
      | .ok v => c.metInNested (fieldPath type f.name) v chain s := by
  unfold metInField
  split
  · exact absurd ‹_› h
  · split
    · next e read => rw [read]
    · next v read => rw [read]

end Check

/-- The types of the objects that a check of a value in a group comes to, in order. -/
def Setting.met (w : Setting) (clock : Nat → Instant) (group : String) (target : Value)
    (selection : Option (List String)) (s : Session) : List TypeKey :=
  Check.metInValue ⟨w, groupNamed group, clock⟩ selection target .empty s

end FieldRules
