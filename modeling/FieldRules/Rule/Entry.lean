import FieldRules.Rule.Matcher
import FieldRules.Store.Dictionary

/-!
# `FieldRules.Rule.Entry` — rules as documents state them

An entry of a rule document may state any number of conditions. It is a rule if it states exactly
one.

## Contents
- **`Literal`**, a literal as it is written, with the text that field values are compared with.
- **`RuleEntry`** and **`RuleEntry.toRule`**.
- **`RuleDocument`**, the entries by type and field in ascending order of the names.
-/

namespace FieldRules

open Number Store

/-! ## Entries -/

/-- A literal of a document. -/
inductive Literal where
  | text (s : String)
  | int (n : Int64)
  | float (x : Binary64)
  | bool (b : Bool)
  | null
  deriving DecidableEq, Repr

/-- The text that a field value is compared with: that of a value of the same kind. -/
def Literal.toText : Literal → String
  | .text s => s
  | .int n => Value.intText n.toInt
  | .float x => x.text
  | .bool b => Value.boolText b
  | .null => nullLiteral

/-- A rule as a document states it: any number of conditions, of which there should be one. -/
structure RuleEntry where
  values : Option (List Literal)
  range : Option String
  pattern : Option String
  groups : List String
  accept : Bool
  disabled : Bool
  deriving DecidableEq, Repr

namespace RuleEntry

/-- The conditions that the entry states, each with its name. -/
def conditions (e : RuleEntry) : List (String × Condition) :=
  (e.values.map fun vs => ("values", Condition.values (vs.map Literal.toText))).toList ++
    (e.range.map fun r => ("range", Condition.range r)).toList ++
    (e.pattern.map fun p => ("pattern", Condition.pattern p)).toList

/-- The rule of an entry that states exactly one condition. -/
def toRule (e : RuleEntry) : Except RuleFault Rule :=
  match e.conditions with
  | [] => .error .noCondition
  | [(_, condition)] => .ok ⟨condition, e.groups, e.accept, e.disabled⟩
  | several => .error (.ambiguous (several.map Prod.fst))

end RuleEntry

/-- Entries by the short name of a type and the name of a field. -/
structure RuleDocument where
  types : Dictionary (Dictionary (List RuleEntry))
  deriving DecidableEq, Repr

namespace RuleDocument

/-- The document without entries. -/
def empty : RuleDocument :=
  ⟨.empty⟩

/-- All entries in order, each with its type and field. -/
def listing (d : RuleDocument) : List (String × String × RuleEntry) :=
  d.types.entries.flatMap fun (owner, fields) =>
    fields.entries.flatMap fun (field, entries) =>
      entries.map fun e => (owner, field, e)

end RuleDocument

end FieldRules
