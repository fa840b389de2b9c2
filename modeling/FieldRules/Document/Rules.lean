import FieldRules.Document.Node

/-!
# `FieldRules.Document.Rules` — reading rule documents

A document is a record of the one field `types`, which maps the short names of types to records that
map the names of fields to lists of entries.

## Contents
- **`groups?`**, one group, several groups, or none.
- **`RuleEntry.ofNode?`** and **`RuleDocument.ofNode?`**.
-/

namespace FieldRules

open Document

/-- A text that stands where any literal would do. -/
def Document.Atom.plainText? (a : Atom) : Option String :=
  match a.literal? with
  | some (.text s) => some s
  | _ => none

/-- The groups of an entry: none for an absent value, one for a text, several for a list. -/
def groups? : Node → Option (List String)
  | .atom a =>
    match a.literal? with
    | some .null => some []
    | some (.text s) => some [s]
    | _ => none
  | .list true _ => none
  | .list false items => items.mapM fun n => n.scalar? Atom.plainText?
  | .record _ => none

/-- The names of the fields of an entry, in order. -/
def RuleEntry.fieldNames : List String :=
  ["values", "range", "pattern", "group", "accept", "disable"]

/-- Reads an entry. -/
def RuleEntry.ofNode? (d : Dialect) (n : Node) : Option RuleEntry := do
  let fields ← n.fields? d fieldNames
  return {
    values := ← fields.optional? "values" fun v =>
      v.1.list? fun item => item.1.scalar? Atom.literal?
    range := ← fields.scalar? "range" Atom.text?
    pattern := ← fields.scalar? "pattern" Atom.text?
    groups := ← fields.getOr? "group" [] fun v => groups? v.1
    accept := ← fields.getOr? "accept" true fun v => v.1.scalar? Atom.bool?
    disabled := ← fields.getOr? "disable" false fun v => v.1.scalar? Atom.bool?
  }

/-- Reads a rule document. -/
def RuleDocument.ofNode? (d : Dialect) (n : Node) : Option RuleDocument := do
  let fields ← n.fields? d ["types"]
  let types ← fields.getOr? "types" .empty fun types =>
    types.1.dictionary? fun type =>
      type.1.dictionary? fun entries =>
        entries.1.list? fun entry => RuleEntry.ofNode? d entry.1
  return ⟨types⟩

end FieldRules
