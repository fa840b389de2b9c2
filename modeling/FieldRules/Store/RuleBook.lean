import FieldRules.Rule.Entry
import FieldRules.Store.Buckets

/-!
# `FieldRules.Store.RuleBook` — rules kept apart from the types they are on

A rule book adds rules to the fields of types by the short names of the types. It is filled from a
rule document or rule by rule.

## Contents
- **`RuleBook`**, with `insert`, `rulesFor` and `fieldsFor`.
- **`RuleBook.ofDocument`**, which fails at the first entry that is no rule.
-/

namespace FieldRules

open Store

/-! ## Rule books -/

/-- Rules by the short name of a type and the name of a field. -/
structure RuleBook where
  rules : Buckets (String × String) Rule
  deriving DecidableEq, Repr

namespace RuleBook

/-- The book without rules. -/
def empty : RuleBook :=
  ⟨.empty⟩

/-- Adds a rule on a field, after those that the book has for it. -/
def insert (b : RuleBook) (owner field : String) (r : Rule) : RuleBook :=
  ⟨b.rules.push (owner, field) r⟩

/-- The rules on a field, in the order in which they were added. -/
def rulesFor (b : RuleBook) (owner field : String) : List Rule :=
  b.rules.get (owner, field)

/-- The fields of a type that the book has rules on. -/
def fieldsFor (b : RuleBook) (owner : String) : List String :=
  (b.rules.keys.filter fun k => k.1 == owner).map Prod.snd

/-- Whether the book holds no rule. -/
def isEmpty (b : RuleBook) : Bool :=
  b.rules.isEmpty

/-- Adds the entries of a listing, up to the first one that is no rule. -/
def insertEntries (b : RuleBook) : List (String × String × RuleEntry) → Except RuleError RuleBook
  | [] => .ok b
  | (owner, field, e) :: rest =>
    match e.toRule with
    | .ok r => (b.insert owner field r).insertEntries rest
    | .error fault => .error ⟨owner, field, fault⟩

/-- The book of a document, unless one of its entries is no rule. -/
def ofDocument (d : RuleDocument) : Except RuleError RuleBook :=
  empty.insertEntries d.listing

/-! ## Small facts -/

theorem rulesFor_empty (owner field : String) : empty.rulesFor owner field = [] := rfl

/-- An added rule comes last for its field, and no other field changes. -/
theorem rulesFor_insert (b : RuleBook) (owner field owner' field' : String) (r : Rule) :
    (b.insert owner field r).rulesFor owner' field' =
      if (owner', field') = (owner, field) then b.rulesFor owner' field' ++ [r]
      else b.rulesFor owner' field' :=
  b.rules.get_push (owner, field) (owner', field') r

/-- The fields listed for a type are those with a rule. -/
theorem mem_fieldsFor (b : RuleBook) (owner field : String) :
    field ∈ b.fieldsFor owner ↔ b.rulesFor owner field ≠ [] := by
  rw [rulesFor, ← b.rules.mem_keys]
  simp [fieldsFor]

end RuleBook

end FieldRules
