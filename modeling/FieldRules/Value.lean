import FieldRules.Calendar.Text
import FieldRules.Number.Shortest

/-!
# `FieldRules.Value` — what the fields of an object hold

## Contents
- **`TypeKey`**, the identity of a checked type, with the short name that messages show.
- **`Value`**: the leaves that rules judge, objects of checked types, and sequences. An object lists
  what each of its fields reads as, which may be a failure.
- **`Value.read`**, reading a field by name.
- **Texts.** `literalText?` is what lists of literals and patterns see; `text` is what messages
  show; `debugText` adds the kind of value.
-/

namespace FieldRules

open Calendar Number

/-- The identity of a checked type. Several types may share a short name, which is what messages and
rule books use. -/
structure TypeKey where
  id : String
  shortName : String
  deriving DecidableEq, Repr

/-- A field that could not be read: which field of which type, and why. -/
structure AccessError where
  typeName : String
  field : String
  reason : String
  deriving DecidableEq, Repr

/-- The text of the error. -/
def AccessError.message (e : AccessError) : String :=
  "cannot read " ++ e.typeName ++ "." ++ e.field ++ ": " ++ e.reason

mutual

/-- The value of a field. -/
inductive Value where
  | null
  | str (s : String)
  | int (n : Int64)
  | uint (n : UInt64)
  | float (x : Binary64)
  | bool (b : Bool)
  | timestamp (t : Instant)
  /-- An object of a checked type, with what its fields read as. -/
  | object (type : TypeKey) (fields : List (String × Reading))
  /-- The elements of a container, in order. -/
  | seq (items : List Value)

/-- What a field reads as. -/
inductive Reading where
  | value (v : Value)
  /-- The field cannot be read. The error is the one that the object gives, whatever type and field
  it names. -/
  | unreadable (error : AccessError)

end

instance : Inhabited Value := ⟨.null⟩

namespace Value

/-! ## Kinds of values -/

/-- Whether the value is absent. -/
def isNull : Value → Bool
  | .null => true
  | _ => false

/-- Whether rules judge the value itself. Objects and sequences are walked instead. -/
def isLeaf : Value → Bool
  | .object _ _ => false
  | .seq _ => false
  | _ => true

/-- The text of a string value. -/
def asString? : Value → Option String
  | .str s => some s
  | _ => none

/-- The type of an object. -/
def objectType? : Value → Option TypeKey
  | .object type _ => some type
  | _ => none

/-- The word for the kind of value. -/
def kind : Value → String
  | .null => "null"
  | .str _ => "string"
  | .int _ => "int"
  | .uint _ => "int"
  | .float _ => "float"
  | .bool _ => "bool"
  | .timestamp _ => "timestamp"
  | .object _ _ => "object"
  | .seq _ => "sequence"

/-! ## Reading a field -/

/-- Reads the first field of the given name. An object without the field names itself in the
error. -/
def read (type : TypeKey) (fields : List (String × Reading)) (name : String) :
    Except AccessError Value :=
  match fields.lookup name with
  | some (.value v) => .ok v
  | some (.unreadable error) => .error error
  | none => .error ⟨type.shortName, name, "no such field"⟩

/-! ## Texts -/

/-- The text of a truth value. -/
def boolText (b : Bool) : String :=
  if b then "true" else "false"

/-- The text of a whole number. -/
def intText (n : Int) : String :=
  String.ofList (ofInt n)

/-- The canonical text of a leaf that is present. Absent values, objects and sequences have none. -/
def literalText? : Value → Option String
  | .null => none
  | .str s => some s
  | .int n => some (intText n.toInt)
  | .uint n => some (intText n.toNat)
  | .float x => some x.text
  | .bool b => some (boolText b)
  | .timestamp t => some t.text
  | .object _ _ => none
  | .seq _ => none

/-- The value as messages show it: strings and timestamps in quotes, objects by the short name of
their type, sequences by their length. -/
def text : Value → String
  | .null => "null"
  | .str s => "\"" ++ s ++ "\""
  | .int n => intText n.toInt
  | .uint n => intText n.toNat
  | .float x => x.text
  | .bool b => boolText b
  | .timestamp t => "'" ++ t.text ++ "'"
  | .object type _ => type.shortName
  | .seq items => "[" ++ intText items.length ++ " elements]"

mutual

/-- The value with its kind; sequences element by element. -/
def debugText : Value → String
  | .seq items => "[" ++ ", ".intercalate (debugTexts items) ++ "]"
  | v => v.kind ++ "(" ++ v.text ++ ")"

/-- The elements of a sequence with their kinds. -/
def debugTexts : List Value → List String
  | [] => []
  | v :: vs => debugText v :: debugTexts vs

end

end Value

end FieldRules
