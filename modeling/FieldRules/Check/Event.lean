import FieldRules.Schema

/-!
# `FieldRules.Check.Event` — what the engine reports about its work

Indexing and checking leave a trail of events for whoever watches a program. Events have no effect.

## Contents
- **`Level`** and **`Event`**.
- **`Event.message`** and **`Event.details`**, the wording of an event and the named values that go
  with it.
-/

namespace FieldRules

/-- How much attention an event deserves. -/
inductive Level where
  | trace
  | debug
  | warn
  deriving DecidableEq, Repr

/-- The word for a level. -/
def Level.text : Level → String
  | .trace => "TRACE"
  | .debug => "DEBUG"
  | .warn => "WARN"

/-- A step of the engine's work. -/
inductive Event where
  /-- A type was reached again while it was being indexed, with so many types under way. -/
  | underWay (type : TypeKey) (depth : Nat)
  /-- A type was indexed with so many fields and filed rules. -/
  | indexed (type : TypeKey) (fields rules : Nat)
  /-- The rule book names a type by a short name that another indexed type shares. -/
  | sharedName (type other : TypeKey)
  /-- The rule book names a field that the type does not declare. -/
  | undeclaredField (type : TypeKey) (field : String)
  /-- A field has so many filed rules. -/
  | fieldRules (type : TypeKey) (field : String) (rules : Nat)
  /-- A field is to be walked but holds a container of leaves. -/
  | leafContainer (type : TypeKey) (field : String)
  /-- The elements of a container are of a checked type. -/
  | container (type : TypeKey) (field : String) (shape : Shape) (element : TypeKey)
  /-- A field is to be walked but holds neither an object nor a container. -/
  | notWalkable (type : TypeKey) (field : String)
  /-- A field was judged. -/
  | judged (type : TypeKey) (field group : String) (passed : Bool)
  deriving DecidableEq, Repr

namespace Event

/-- The level of an event. -/
def level : Event → Level
  | .underWay _ _ => .debug
  | .indexed _ _ _ => .debug
  | .sharedName _ _ => .warn
  | .undeclaredField _ _ => .warn
  | .fieldRules _ _ _ => .trace
  | .leafContainer _ _ => .trace
  | .container _ _ _ _ => .trace
  | .notWalkable _ _ => .trace
  | .judged _ _ _ _ => .trace

/-- The wording of an event. -/
def message : Event → String
  | .underWay _ _ => "type already being indexed, skipping re-entrant request"
  | .indexed _ _ _ => "indexed type"
  | .sharedName type _ =>
    "rule document entry `" ++ type.shortName ++ "` applies to both types sharing that name"
  | .undeclaredField _ _ =>
    "rule document names a field the type does not declare; ignoring"
  | .fieldRules _ _ _ => "field has rules"
  | .leafContainer _ _ => "container of leaves, nothing to walk"
  | .container _ _ _ _ => "walking container"
  | .notWalkable _ _ => "check marker on a non-checkable field"
  | .judged _ _ _ _ => "checked field"

/-- The named values that go with an event. -/
def details : Event → List (String × String)
  | .underWay type depth =>
    [("type_name", type.shortName), ("depth", Value.intText depth)]
  | .indexed type fields rules =>
    [("type_name", type.shortName), ("fields", Value.intText fields),
      ("rules", Value.intText rules)]
  | .sharedName type other => [("type_name", type.id), ("other", other.id)]
  | .undeclaredField type field => [("type_name", type.shortName), ("field", field)]
  | .fieldRules type field rules =>
    [("type_name", type.shortName), ("field", field), ("rules", Value.intText rules)]
  | .leafContainer type field => [("type_name", type.shortName), ("field", field)]
  | .container type field shape element =>
    [("type_name", type.shortName), ("field", field), ("shape", "Some(" ++ shape.text ++ ")"),
      ("element", element.shortName)]
  | .notWalkable type field => [("type_name", type.shortName), ("field", field)]
  | .judged type field group passed =>
    [("type_name", type.shortName), ("field", field), ("group", group),
      ("passed", Value.boolText passed)]

end Event

end FieldRules
