import FieldRules.Value

/-!
# `FieldRules.Store.Index` — which fields of a type need attention

A type is indexed once. Its index lists the fields that carry rules and the fields that are walked,
in the order of their declaration, and is never changed afterwards.

## Contents
- **`FieldKind`**, **`IndexedField`** and **`ClassIndex`**, the index of one type.
- **`Index`**, the indexed types, each listed once, with `insert`, `get?`, `contains` and
  `namesake?`.
-/

namespace FieldRules

/-- How a field is treated. -/
inductive FieldKind where
  /-- Its value is judged by the matchers of the field. -/
  | rules
  /-- It holds an object, which is walked with the rules of its own type. -/
  | nested
  /-- It holds a container whose elements are walked. -/
  | container
  deriving DecidableEq, Repr

/-- The word for a kind of field. -/
def FieldKind.text : FieldKind → String
  | .rules => "rules"
  | .nested => "nested"
  | .container => "container"

/-- A field that needs attention. -/
structure IndexedField where
  name : String
  kind : FieldKind
  deriving DecidableEq, Repr

/-- The indexed fields of a type, in the order of declaration. -/
structure ClassIndex where
  type : TypeKey
  fields : List IndexedField
  deriving DecidableEq, Repr

namespace ClassIndex

/-- The first indexed field of a name. -/
def get? (c : ClassIndex) (name : String) : Option IndexedField :=
  c.fields.find? (·.name == name)

/-- The names of the indexed fields. -/
def names (c : ClassIndex) : List String :=
  c.fields.map IndexedField.name

end ClassIndex

/-- The indexed types. -/
structure Index where
  classes : List ClassIndex
  distinct : (classes.map ClassIndex.type).Nodup
  deriving DecidableEq, Repr

namespace Index

/-- The index without types. -/
def empty : Index :=
  ⟨[], List.nodup_nil⟩

/-- The index of a type. -/
def get? (i : Index) (type : TypeKey) : Option ClassIndex :=
  i.classes.find? (·.type == type)

/-- Whether a type is indexed. -/
def contains (i : Index) (type : TypeKey) : Bool :=
  i.classes.any (·.type == type)

/-- The number of indexed types. -/
def size (i : Index) : Nat :=
  i.classes.length

/-- Whether no type is indexed. -/
def isEmpty (i : Index) : Bool :=
  i.classes.isEmpty

/-- Another indexed type with the short name of a type. -/
def namesake? (i : Index) (type : TypeKey) : Option TypeKey :=
  (i.classes.map ClassIndex.type).find? fun other =>
    other ≠ type && other.shortName == type.shortName

/-- Lists a type that is not listed yet; a type that is listed keeps its entry. -/
def insert (i : Index) (c : ClassIndex) : Index :=
  if h : c.type ∈ i.classes.map ClassIndex.type then i
  else
    ⟨i.classes ++ [c], by
      rw [List.map_append, List.nodup_append]
      refine ⟨i.distinct, by simp, ?_⟩
      rintro a ha b hb rfl
      rw [List.map_singleton, List.mem_singleton] at hb
      exact h (hb ▸ ha)⟩

/-! ## Small facts -/

theorem contains_iff (i : Index) (type : TypeKey) :
    i.contains type = true ↔ type ∈ i.classes.map ClassIndex.type := by
  simp [contains]

theorem get?_eq_none_iff (i : Index) (type : TypeKey) :
    i.get? type = none ↔ i.contains type = false := by
  simp [get?, contains]

theorem type_of_get? {i : Index} {type : TypeKey} {c : ClassIndex} (h : i.get? type = some c) :
    c.type = type := by
  have := List.find?_some h
  simpa using this

theorem classes_insert {i : Index} {c : ClassIndex} (h : i.contains c.type = false) :
    (i.insert c).classes = i.classes ++ [c] := by
  have hn : c.type ∉ i.classes.map ClassIndex.type := fun hm => by
    rw [(contains_iff i c.type).mpr hm] at h
    exact Bool.noConfusion h
  rw [insert, dif_neg hn]

/-- A newly listed type is found, and the other types keep their entries. -/
theorem get?_insert {i : Index} {c : ClassIndex} (h : i.contains c.type = false) (type : TypeKey) :
    (i.insert c).get? type = if type = c.type then some c else i.get? type := by
  rw [get?, classes_insert h, List.find?_append]
  by_cases ht : type = c.type
  · subst ht
    have : i.get? c.type = none := (get?_eq_none_iff i c.type).mpr h
    rw [get?] at this
    simp [this]
  · have hne : (c.type == type) = false := by simpa using fun heq => ht heq.symm
    simp [get?, ht, hne]

end Index

end FieldRules
