import FieldRules.Rule.Entry

/-!
# `FieldRules.Document.Node` — the content of a document before it has a meaning

JSON and YAML documents come down to the same thing: scalars, lists and records. They differ in what
a scalar may stand for, so a scalar is kept as all that it reads as, by what is expected in its
place.

## Contents
- **`Atom`** and **`Node`**.
- **`Dialect`**, what else the formats disagree about.
- **`Within`**, the nodes inside of a node, on which readers of nested records recurse.
- **Readers.** `Node.items?`, `Node.mapping?` and `Node.fields?` open a node; `Fields.get?` and its
  kin read a field of a record that has to be there, may be missing, or may be absent.
-/

namespace FieldRules.Document

open Number

/-! ## Nodes -/

/-- What a scalar reads as, by what is expected in its place. -/
structure Atom where
  /-- Where a text is expected. -/
  text? : Option String
  /-- Where a truth value is expected. -/
  bool? : Option Bool
  /-- Where a whole number is expected. -/
  int? : Option Int64
  /-- Where a floating-point number is expected. -/
  float? : Option Binary64
  /-- Where any literal is welcome. -/
  literal? : Option Literal
  /-- Where one of several words is expected. -/
  word? : Option String
  /-- Where a value may be absent: whether it is. -/
  absent? : Option Bool
  /-- Whether the scalar stands for an empty list or record. -/
  blank : Bool
  deriving DecidableEq, Repr

/-- A part of a document. -/
inductive Node where
  | atom (a : Atom)
  /-- A list; `named` where the document names a type for it, which it may not where a list is one
  choice among others. -/
  | list (named : Bool) (items : List Node)
  /-- Keys and values; a key that is no text is not given. -/
  | record (entries : List (Option String × Node))

/-- What the formats of documents disagree about. -/
structure Dialect where
  /-- Whether a list stands for a record whose fields it gives in order. -/
  positional : Bool
  /-- Whether a record of a single absent value stands for its key, where a word is expected. -/
  wordRecords : Bool
  deriving DecidableEq, Repr

/-- The liberties of JSON documents. -/
def Dialect.json : Dialect := ⟨true, true⟩

/-- The liberties of YAML documents. -/
def Dialect.yaml : Dialect := ⟨false, false⟩

/-- The nodes inside of a node. -/
abbrev Within (n : Node) := { v : Node // sizeOf v < sizeOf n }

/-- The fields of a record. -/
abbrev Fields (n : Node) := List (String × Within n)

/-! ## Opening a node -/

namespace Node

/-- What a scalar reads as; nothing for lists and records. -/
def scalar? (read : Atom → Option α) : Node → Option α
  | .atom a => read a
  | _ => none

/-- A text. -/
def text? (n : Node) : Option String :=
  n.scalar? Atom.text?

/-- One of several words. -/
def word? (d : Dialect) : Node → Option String
  | .atom a => a.word?
  | .list _ _ => none
  | .record [(some key, .atom a)] =>
    if d.wordRecords && a.absent? = some true then some key else none
  | .record _ => none

/-- The items of a list. -/
def items? (n : Node) : Option (List (Within n)) :=
  match n with
  | .list _ items => some <| items.attach.map fun ⟨v, h⟩ => ⟨v, by
      have := List.sizeOf_lt_of_mem h
      rw [Node.list.sizeOf_spec]
      omega⟩
  | .atom a => if a.blank then some [] else none
  | .record _ => none

/-- The entries of a record whose keys are texts. -/
def mapping? (n : Node) : Option (Fields n) :=
  match n with
  | .record entries => entries.attach.mapM fun ⟨(key?, v), h⟩ =>
      key?.map fun key => (key, ⟨v, by
        have := List.sizeOf_lt_of_mem h
        rw [Node.record.sizeOf_spec]
        rw [Prod.mk.sizeOf_spec] at this
        omega⟩)
  | .atom a => if a.blank then some [] else none
  | .list _ _ => none

/-- The fields of a record of the given field names, none of them unknown or repeated. -/
def fields? (d : Dialect) (names : List String) (n : Node) : Option (Fields n) := do
  if d.positional then
    if let .list _ _ := n then
      let items ← n.items?
      if items.length ≤ names.length then return names.zip items
      none
  let fields ← n.mapping?
  let keys := fields.map Prod.fst
  if keys.all names.contains && keys.eraseDups.length = keys.length then some fields else none

/-- The items of a list, each read alike. -/
def list? (n : Node) (read : Within n → Option α) : Option (List α) := do
  (← n.items?).mapM read

/-- Texts mapped to what their values read as; the last value of a repeated key counts. -/
def dictionary? (n : Node) (read : Within n → Option α) : Option (Store.Dictionary α) := do
  let entries ← (← n.mapping?).mapM fun (key, v) => (read v).map fun x => (key, x)
  return .ofList entries

/-- Whether a value is absent where it may be. -/
def absent? : Node → Option Bool
  | .atom a => a.absent?
  | _ => some false

end Node

/-! ## Reading fields -/

namespace Fields

variable {n : Node}

/-- A field that has to be there. -/
def get? (fields : Fields n) (name : String) (read : Within n → Option α) : Option α := do
  read (← fields.lookup name)

/-- A field that may be missing. -/
def getOr? (fields : Fields n) (name : String) (default : α) (read : Within n → Option α) :
    Option α :=
  match fields.lookup name with
  | some v => read v
  | none => some default

/-- A field whose value may be missing or absent. -/
def optional? (fields : Fields n) (name : String) (read : Within n → Option α) :
    Option (Option α) :=
  fields.getOr? name none fun v => do
    if ← v.1.absent? then return none
    return some (← read v)

/-- A scalar field whose value may be missing or absent. -/
def scalar? (fields : Fields n) (name : String) (read : Atom → Option α) : Option (Option α) :=
  fields.optional? name fun v => v.1.scalar? read

end Fields

end FieldRules.Document
