import FieldRules.Rule.Basic
import FieldRules.Value

/-!
# `FieldRules.Schema` — what a checked type declares

## Contents
- **`FieldType`**, the declared type of a field, and `FieldType.checkableElement?`, the checked type
  inside of any containers.
- **`Field`** and **`Schema`**. Names may repeat; `Schema.get?` finds the first declaration.
- **`Schemas`**, the schemas of finitely many types. A type without one has no fields.
-/

namespace FieldRules

/-! ## Declared types -/

/-- What kind of container a field holds. Elements of all kinds are walked alike. -/
inductive Shape where
  | sequence
  | set
  | mapValues
  | array
  deriving DecidableEq, Repr

/-- The word for a shape. -/
def Shape.text : Shape → String
  | .sequence => "Sequence"
  | .set => "Set"
  | .mapValues => "MapValues"
  | .array => "Array"

/-- The declared type of a field. -/
inductive FieldType where
  /-- A number, text, instant or truth value. -/
  | leaf
  /-- Neither a leaf nor of a checked type. -/
  | foreign
  /-- An object of a checked type. -/
  | nested (type : TypeKey)
  /-- A container, possibly of containers. -/
  | container (shape : Shape) (element : FieldType)
  deriving DecidableEq, Repr

namespace FieldType

/-- The shape of a container. -/
def shape? : FieldType → Option Shape
  | .container shape _ => some shape
  | _ => none

/-- Whether the field holds a leaf. -/
def isLeaf : FieldType → Bool
  | .leaf => true
  | _ => false

/-- The checked type inside of any containers. -/
def checkableElement? : FieldType → Option TypeKey
  | .leaf => none
  | .foreign => none
  | .nested type => some type
  | .container _ element => element.checkableElement?

end FieldType

/-! ## Schemas -/

/-- A declared field. -/
structure Field where
  name : String
  type : FieldType
  /-- The rules on the field, disabled ones included. -/
  rules : List Rule
  /-- Whether the value of the field is walked with the rules of its own type. -/
  checked : Bool
  deriving DecidableEq, Repr

/-- The declared fields of a type, in order. -/
structure Schema where
  fields : List Field
  deriving DecidableEq, Repr

/-- The first declaration of a name. -/
def Schema.get? (s : Schema) (name : String) : Option Field :=
  s.fields.find? (·.name == name)

/-- The schemas of finitely many types. -/
structure Schemas where
  entries : List (TypeKey × Schema)
  deriving DecidableEq, Repr

namespace Schemas

/-- The schema of a type; no fields for a type that is not listed. -/
def of (s : Schemas) (type : TypeKey) : Schema :=
  (s.entries.lookup type).getD ⟨[]⟩

/-- The types that are listed. -/
def types (s : Schemas) : List TypeKey :=
  s.entries.map Prod.fst

theorem lookup_eq_none_of_not_mem {α β : Type} [BEq α] [LawfulBEq α] {entries : List (α × β)}
    {a : α} (h : a ∉ entries.map Prod.fst) : entries.lookup a = none := by
  induction entries with
  | nil => rfl
  | cons e es ih =>
      rw [List.map_cons, List.mem_cons, not_or] at h
      have hne : (a == e.1) = false := by simpa using h.1
      rw [List.lookup_cons, hne]
      exact ih h.2

/-- Only listed types have fields. -/
theorem mem_types_of_fields_ne_nil {s : Schemas} {type : TypeKey} (h : (s.of type).fields ≠ []) :
    type ∈ s.types :=
  Decidable.byContradiction fun hn => h (by simp [of, lookup_eq_none_of_not_mem hn])

end Schemas

end FieldRules
