import FieldRules.Check.Session

/-!
# `FieldRules.Check.Walk` — indexing a type and all that it leads to

To index a type, the rules on its fields are compiled, the types of its walked fields are indexed
first, and only then are its rules registered and its index entered. A malformed rule ends the
request; types that were finished before it stay indexed, and the type at hand leaves no trace.

Types may lead back to themselves. The types that are under way are kept on a stack, and a type on
the stack is not entered again: it is finished by the frame that put it there. The walk ends because
every type it enters is listed among the schemas and new on the stack, apart from types without
fields, which lead nowhere.

## Contents
- **`Setting.compileField`**, the filed rules of a field.
- **`Field.target?`**, where a walked field leads.
- **`Setting.collect`**, the walk through the fields of a type, and **`Setting.ensureIndexed`**.
-/

namespace FieldRules

/-! ## The rules of a field -/

/-- The rule on a field once for each of its groups. -/
def Rule.filed (r : Rule) (field : String) (m : Matcher) : List FieldRule :=
  r.effectiveGroups.map fun group => ⟨group, field, m⟩

/-- Compiles rules on a field in order and files each under its groups. -/
def compileRules (owner field : String) : List Rule → Except RuleError (List FieldRule)
  | [] => .ok []
  | r :: rs =>
    match Matcher.compileFor owner field r with
    | .error e => .error e
    | .ok m => (compileRules owner field rs).map (r.filed field m ++ ·)

/-- Compiles and files the rules on a field that have an effect. -/
def Setting.compileField (w : Setting) (type : TypeKey) (f : Field) :
    Except RuleError (List FieldRule) :=
  compileRules type.shortName f.name (w.enabledRules type f)

/-! ## Where a field leads -/

/-- The checked type that a field without rules leads to, if the field is to be walked, and how it
is treated. -/
def Field.target? (f : Field) : Option (FieldKind × TypeKey) :=
  if f.checked then
    match f.type with
    | .leaf => none
    | .foreign => none
    | .nested type => some (.nested, type)
    | .container shape element =>
      (FieldType.container shape element).checkableElement?.map fun type => (.container, type)
  else none

/-- What is reported about a field without rules before the type it leads to is entered. -/
def Field.events (f : Field) (type : TypeKey) : List Event :=
  if f.checked then
    match f.type with
    | .leaf => [.notWalkable type f.name]
    | .foreign => [.notWalkable type f.name]
    | .nested _ => []
    | .container shape element =>
      match (FieldType.container shape element).checkableElement? with
      | none => [.leafContainer type f.name]
      | some target => [.container type f.name shape target]
  else []

/-! ## The walk -/

/-- The types that are listed among the schemas and not on the stack. -/
def Schemas.remaining (s : Schemas) (stack : List TypeKey) : List TypeKey :=
  s.types.filter fun type => !stack.contains type

/-- A new type on the stack leaves fewer types to enter. -/
theorem Schemas.remaining_cons_lt {s : Schemas} {type : TypeKey} {stack : List TypeKey}
    (listed : type ∈ s.types) (new : type ∉ stack) :
    (s.remaining (type :: stack)).length < (s.remaining stack).length := by
  unfold remaining
  generalize s.types = types at listed
  induction types with
  | nil => simp at listed
  | cons t ts ih =>
      have hle : (ts.filter fun t => !(type :: stack).contains t).length ≤
          (ts.filter fun t => !stack.contains t).length := by
        rw [← List.countP_eq_length_filter, ← List.countP_eq_length_filter]
        refine List.countP_mono_left fun a _ ha => ?_
        simp only [List.contains_cons, Bool.not_or, Bool.and_eq_true] at ha
        exact ha.2
      by_cases ht : t = type
      · subst ht
        rw [List.filter_cons_of_neg (by simp), List.filter_cons_of_pos (by simpa using new)]
        simp only [List.length_cons]
        omega
      · have hmem : type ∈ ts := (List.mem_cons.mp listed).resolve_left fun h => ht h.symm
        have := ih hmem
        by_cases hs : t ∈ stack
        · rw [List.filter_cons_of_neg (by simp [hs]), List.filter_cons_of_neg (by simp [hs])]
          exact this
        · rw [List.filter_cons_of_pos (by simp [hs, ht]), List.filter_cons_of_pos (by simp [hs])]
          simp only [List.length_cons]
          omega

/-- What the fields of a type come to: those that need attention, and the filed rules. -/
structure Collected where
  fields : List IndexedField
  rules : List FieldRule
  deriving DecidableEq, Repr

/-- Puts a field with its filed rules in front. -/
def Collected.add (c : Collected) (field : IndexedField) (rules : List FieldRule) : Collected :=
  ⟨field :: c.fields, rules ++ c.rules⟩

namespace Setting

/-- Reports what is odd about the entries of the rule book for a type. -/
def enter (w : Setting) (type : TypeKey) (s : Session) : Session :=
  let named := w.book.fieldsFor type.shortName
  let shared :=
    if named.isEmpty then []
    else ((s.index.namesake? type).map fun other => Event.sharedName type other).toList
  let undeclared := named.filter fun name => ((w.schemas.of type).get? name).isNone
  s.reportAll (shared ++ undeclared.map (Event.undeclaredField type))

/-- Registers the filed rules of a type and enters its index, unless it is indexed already. -/
def publish (type : TypeKey) (c : Collected) (s : Session) : ClassIndex × Session :=
  match s.index.get? type with
  | some existing => (existing, s)
  | none =>
    let entry : ClassIndex := ⟨type, c.fields⟩
    (entry,
      { s with
        index := s.index.insert entry
        registry := s.registry.registerAll type c.rules }.report
          (.indexed type c.fields.length c.rules.length))

/-- Ends the work on a type: with its index, or with the malformed rule that was met. -/
def finish (type : TypeKey) : Except RuleError Collected × Session →
    Except RuleError ClassIndex × Session
  | (.error e, s) => (.error e, s)
  | (.ok c, s) =>
    let (entry, s) := publish type c s
    (.ok entry, s)

/-- Goes through fields of `type` in order. The stack holds the types under way, `type` first. -/
def collect (w : Setting) (type : TypeKey) (stack : List TypeKey) (fields : List Field)
    (s : Session) : Except RuleError Collected × Session :=
  match fields with
  | [] => (.ok ⟨[], []⟩, s)
  | f :: rest =>
    match w.compileField type f with
    | .error e => (.error e, s)
    -- A field with an enabled rule is never walked, whatever its marker says.
    | .ok (rule :: rules) =>
      let filed := rule :: rules
      let (r, s) := w.collect type stack rest (s.report (.fieldRules type f.name filed.length))
      (r.map (·.add ⟨f.name, .rules⟩ filed), s)
    | .ok [] =>
      let s := s.reportAll (f.events type)
      match f.target? with
      | none => w.collect type stack rest s
      | some (kind, target) =>
        if _new : target ∈ stack then
          -- The target is finished further down the stack.
          let (r, s) := w.collect type stack rest (s.report (.underWay target stack.length))
          (r.map (·.add ⟨f.name, kind⟩ []), s)
        else if s.index.contains target then
          let (r, s) := w.collect type stack rest s
          (r.map (·.add ⟨f.name, kind⟩ []), s)
        else
          -- The target comes first; a malformed rule anywhere in it ends the work on `type` too.
          match finish target
            (w.collect target (target :: stack) (w.schemas.of target).fields
              (w.enter target s)) with
          | (.error e, s) => (.error e, s)
          | (.ok _, s) =>
            let (r, s) := w.collect type stack rest s
            (r.map (·.add ⟨f.name, kind⟩ []), s)
termination_by ((w.schemas.remaining stack).length, fields.length)
decreasing_by
  · exact .right _ (by simp)
  · exact .right _ (by simp)
  · exact .right _ (by simp)
  · exact .right _ (by simp)
  · by_cases hf : (w.schemas.of target).fields = []
    · rw [hf]
      by_cases hl : target ∈ w.schemas.types
      · exact .left _ _ (Schemas.remaining_cons_lt hl _new)
      · have : w.schemas.remaining (target :: stack) = w.schemas.remaining stack := by
          refine List.filter_congr fun t ht => ?_
          have : t ≠ target := fun heq => hl (heq ▸ ht)
          simp [this]
        rw [this]
        exact .right _ (by simp)
    · exact .left _ _ (Schemas.remaining_cons_lt (Schemas.mem_types_of_fields_ne_nil hf) _new)
  · exact .right _ (by simp)

/-- Indexes a type that is not indexed yet. -/
def build (w : Setting) (type : TypeKey) (s : Session) : Except RuleError ClassIndex × Session :=
  finish type (w.collect type [type] (w.schemas.of type).fields (w.enter type s))

/-- The index of a type, which is made first where there is none. -/
def ensureIndexed (w : Setting) (type : TypeKey) (s : Session) :
    Except RuleError ClassIndex × Session :=
  match s.index.get? type with
  | some entry => (.ok entry, s)
  | none => w.build type s

end Setting

end FieldRules
