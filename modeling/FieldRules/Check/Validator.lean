import FieldRules.Check.Chain
import FieldRules.Check.Verdict
import FieldRules.Check.Walk

/-!
# `FieldRules.Check.Validator` — checking values

A check walks the objects of a value. The type of every object met is indexed first, then its
indexed fields are taken in order until one fails. A field with rules is judged by the matchers of
the group of the check and passes unread where there are none; other indexed fields are walked. A
failure inside of a walked field is preceded in the chain by an entry for that field.

Every part of the walk takes the chain of entries recorded so far and hands it on. The walk ends
because it only ever goes to what an object or sequence holds.

## Contents
- **`Check`**, what a check works from: the setting, the group, and a clock that may move between
  two readings.
- **`Progress`** of a part of the walk, and the functions `judgeField`, `checkFields`, `checkNested`
  and `checkValue`.
- **`Setting.evaluate`** and the entry points `check…` and `validate…`.
-/

namespace FieldRules

open Calendar

/-! ## What a check works from -/

/-- A check in a group. The clock gives the instant of each of its readings. -/
structure Check where
  setting : Setting
  group : String
  clock : Nat → Instant

/-- Whether a part of the walk passed, with the chain afterwards, or what ended the walk; and what
the engine knows afterwards. -/
abbrev Progress := Except CheckError (Bool × Chain) × Session

/-! ## Entries of a chain -/

/-- A field as entries name it. -/
def fieldPath (type : TypeKey) (field : String) : String :=
  type.shortName ++ "." ++ field

/-- An element of a sequence as entries name it. -/
def elementPath (path : String) (position : Nat) : String :=
  path ++ "[" ++ Value.intText position ++ "]"

/-- The entry for a value that no admitting matcher admits. -/
def notAcceptedEntry (path : String) (v : Value) (white : List Matcher) : String :=
  path ++ ": value " ++ v.text ++ " is not accepted by " ++
    " or ".intercalate (white.map Matcher.text)

/-- The entry for a value that a matcher rejects. -/
def rejectedEntry (path : String) (v : Value) (m : Matcher) : String :=
  path ++ ": value " ++ v.text ++ " is rejected by " ++ m.text

/-- The entry in front of a failure inside of a walked field. -/
def nestedEntry (path : String) (type : TypeKey) : String :=
  path ++ ": nested " ++ type.shortName ++ " failed"

/-- The entry for a decision on a value; none where the value passes. -/
def entryFor? (path : String) (v : Value) (r : Resolved) : Decision → Option String
  | .pass => none
  | .notAccepted => some (notAcceptedEntry path v r.white)
  | .rejected m => some (rejectedEntry path v m)

/-! ## What is found in an object is smaller -/

theorem sizeOf_lt_of_lookup {fields : List (String × Reading)} {name : String} {r : Reading}
    (h : fields.lookup name = some r) : sizeOf r < sizeOf fields := by
  induction fields with
  | nil => simp at h
  | cons e es ih =>
      obtain ⟨n, x⟩ := e
      rw [List.lookup_cons] at h
      split at h
      · injection h with h
        subst h
        simp
        omega
      · have := ih h
        simp
        omega

theorem sizeOf_lt_of_read {type : TypeKey} {fields : List (String × Reading)} {name : String}
    {v : Value} (h : Value.read type fields name = .ok v) : sizeOf v < sizeOf fields := by
  unfold Value.read at h
  split at h
  · rename_i heq
    injection h with h
    subst h
    have := sizeOf_lt_of_lookup heq
    simp at this
    omega
  · simp at h
  · simp at h

/-! ## The walk -/

namespace Check

/-- Judges a field of an object by the matchers of the group. -/
def judgeField (c : Check) (type : TypeKey) (values : List (String × Reading)) (field : String)
    (chain : Chain) (s : Session) : Progress :=
  let matchers := s.registry.resolve ⟨c.group, type, field⟩
  if matchers.isEmpty then (.ok (true, chain), s)
  else
    match Value.read type values field with
    | .error e => (.error (.access e), s)
    | .ok v =>
      -- The clock is read once for each field that is judged.
      let entry := entryFor? (fieldPath type field) v matchers
        (matchers.decision v (c.clock s.readings))
      (.ok (chain.judged entry), { s with readings := s.readings + 1 }.report
        (.judged type field c.group entry.isNone))

mutual

/-- Checks indexed fields of an object in order, up to the first that does not pass. With a
selection, fields outside of it are passed over. -/
def checkFields (c : Check) (selection : Option (List String)) (type : TypeKey)
    (values : List (String × Reading)) (fields : List IndexedField) (chain : Chain) (s : Session) :
    Progress :=
  match fields with
  | [] => (.ok (true, chain), s)
  | f :: rest =>
    if selection.any fun names => !names.contains f.name then
      c.checkFields selection type values rest chain s
    else
      match c.checkField type values f chain s with
      | (.ok (true, chain), s) => c.checkFields selection type values rest chain s
      | stopped => stopped
termination_by (sizeOf values, fields.length, 1)

/-- Checks one indexed field of an object. -/
def checkField (c : Check) (type : TypeKey) (values : List (String × Reading)) (f : IndexedField)
    (chain : Chain) (s : Session) : Progress :=
  match f.kind with
  | .rules => c.judgeField type values f.name chain s
  | _ =>
    match _found : Value.read type values f.name with
    | .error e => (.error (.access e), s)
    | .ok v => c.checkNested (fieldPath type f.name) v chain s
termination_by (sizeOf values, 0, 2)
decreasing_by
  exact .left _ _ (sizeOf_lt_of_read _found)

/-- Checks all indexed fields of an object, or those of a selection. -/
def checkObject (c : Check) (selection : Option (List String)) (type : TypeKey)
    (values : List (String × Reading)) (chain : Chain) (s : Session) : Progress :=
  match c.setting.ensureIndexed type s with
  | (.error e, s) => (.error (.rule e), s)
  | (.ok entry, s) => c.checkFields selection type values entry.fields chain s
termination_by (sizeOf values + 1, 0, 0)

/-- Checks what a walked field holds. -/
def checkNested (c : Check) (path : String) (v : Value) (chain : Chain) (s : Session) : Progress :=
  match v with
  | .object type values =>
    -- A selection of fields holds for the outermost objects only.
    match c.checkObject none type values chain s with
    | (.ok (false, inner), s) =>
      (.ok (false, inner.failAt chain.mark (nestedEntry path type)), s)
    | other => other
  | .seq items => c.checkItems path 0 items chain s
  | _ => (.ok (true, chain), s)
termination_by (sizeOf v, 0, 0)
decreasing_by
  · refine .left _ _ ?_
    rw [Value.object.sizeOf_spec, TypeKey.mk.sizeOf_spec]
    omega
  · refine .left _ _ ?_
    rw [Value.seq.sizeOf_spec]
    omega

/-- Checks the elements of a sequence from a position on, up to the first that does not pass. -/
def checkItems (c : Check) (path : String) (position : Nat) (items : List Value) (chain : Chain)
    (s : Session) : Progress :=
  match items with
  | [] => (.ok (true, chain), s)
  | v :: rest =>
    match c.checkNested (elementPath path position) v chain s with
    | (.ok (true, chain), s) => c.checkItems path (position + 1) rest chain s
    | stopped => stopped
termination_by (sizeOf items, 0, 0)

end

mutual

/-- Checks a value that is not held by a field. A sequence passes its selection on to its
elements; leaves and absent values pass. -/
def checkValue (c : Check) (selection : Option (List String)) (v : Value) (chain : Chain)
    (s : Session) : Progress :=
  match v with
  | .object type values => c.checkObject selection type values chain s
  | .seq items => c.checkValues selection items chain s
  | _ => (.ok (true, chain), s)

/-- Checks values in order, up to the first that does not pass. -/
def checkValues (c : Check) (selection : Option (List String)) (vs : List Value) (chain : Chain)
    (s : Session) : Progress :=
  match vs with
  | [] => (.ok (true, chain), s)
  | v :: rest =>
    match c.checkValue selection v chain s with
    | (.ok (true, chain), s) => c.checkValues selection rest chain s
    | stopped => stopped

end

end Check

/-! ## Entry points -/

/-- A list of fields as a selection: the empty list selects all of them. -/
def selectionOf (fields : List String) : Option (List String) :=
  if fields.isEmpty then none else some fields

namespace Setting

variable (w : Setting) (clock : Nat → Instant)

/-- Indexes a type ahead of its first check. -/
def prepare (type : TypeKey) (s : Session) : Except RuleError Unit × Session :=
  let (r, s) := w.ensureIndexed type s
  (r.map fun _ => (), s)

/-- Checks a value in a group. -/
def evaluate (group : String) (target : Value) (selection : Option (List String)) (s : Session) :
    Except CheckError Verdict × Session :=
  let group := groupNamed group
  let (r, s) := Check.checkValue ⟨w, group, clock⟩ selection target .empty s
  (r.map fun (passed, chain) => ⟨passed, group, chain.entries⟩, s)

/-- Whether the listed fields of an object pass in a group; no list stands for all fields. -/
def checkGroupFields (group : String) (target : Value) (fields : List String) (s : Session) :
    Except CheckError Bool × Session :=
  let (r, s) := w.evaluate clock group target (selectionOf fields) s
  (r.map Verdict.passed, s)

/-- Whether an object passes in a group. -/
def checkGroup (group : String) (target : Value) (s : Session) : Except CheckError Bool × Session :=
  w.checkGroupFields clock group target [] s

/-- Whether the listed fields of an object pass in the default group. -/
def checkFields (target : Value) (fields : List String) (s : Session) :
    Except CheckError Bool × Session :=
  w.checkGroupFields clock defaultGroup target fields s

/-- Whether an object passes in the default group. -/
def check (target : Value) (s : Session) : Except CheckError Bool × Session :=
  w.checkGroupFields clock defaultGroup target [] s

/-- Demands that the listed fields of an object pass in a group. -/
def validateGroupFields (group : String) (target : Value) (fields : List String) (s : Session) :
    Except CheckError Unit × Session :=
  let (r, s) := w.evaluate clock group target (selectionOf fields) s
  (r.bind fun v => v.result.mapError .failed, s)

/-- Demands that an object passes in a group. -/
def validateGroup (group : String) (target : Value) (s : Session) :
    Except CheckError Unit × Session :=
  w.validateGroupFields clock group target [] s

/-- Demands that the listed fields of an object pass in the default group. -/
def validateFields (target : Value) (fields : List String) (s : Session) :
    Except CheckError Unit × Session :=
  w.validateGroupFields clock defaultGroup target fields s

/-- Demands that an object passes in the default group. -/
def validate (target : Value) (s : Session) : Except CheckError Unit × Session :=
  w.validateGroupFields clock defaultGroup target [] s

end Setting

end FieldRules
