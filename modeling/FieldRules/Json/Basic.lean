import FieldRules.Document.Node

/-!
# `FieldRules.Json.Basic` — JSON values

## Contents
- **`Json`**. Whole numbers of 64 bits, signed or not, are kept apart from other numbers. Records
  keep their entries as they were written, repeated keys included.
- **`Json.get?`**, a field of a record; of several with one key the last one counts.
- **`Json.node`**, the value as content of a document.
-/

namespace FieldRules

open Document Number

/-- A JSON value. -/
inductive Json where
  | null
  | bool (b : Bool)
  /-- A whole number that fits into 64 bits, with or without a sign. -/
  | int (n : Int)
  | float (x : Binary64)
  | text (s : String)
  | list (items : List Json)
  | record (entries : List (String × Json))

namespace Json

/-- A field of a record. -/
def get? (key : String) : Json → Option Json
  | .record entries => entries.reverse.lookup key
  | _ => none

/-! ## As content of a document -/

/-- A scalar that reads as nothing but a value that is there. -/
def plainAtom : Atom := ⟨none, none, none, none, none, none, some false, false⟩

/-- What a number of 64 bits reads as. -/
def intAtom (n : Int) : Atom :=
  let int? := if fitsSigned64 n then some (Int64.ofInt n) else none
  { plainAtom with
    int?
    float? := some (Binary64.ofInt n)
    literal? := some (match int? with
      | some k => .int k
      | none => .float (Binary64.ofInt n)) }

/-- What a text reads as. -/
def textAtom (s : String) : Atom :=
  { plainAtom with text? := some s, literal? := some (.text s), word? := some s }

mutual

/-- The value as content of a document. -/
def node : Json → Node
  | .null => .atom { plainAtom with literal? := some .null, absent? := some true }
  | .bool b => .atom { plainAtom with bool? := some b, literal? := some (.bool b) }
  | .int n => .atom (intAtom n)
  | .float x => .atom { plainAtom with float? := some x, literal? := some (.float x) }
  | .text s => .atom (textAtom s)
  | .list items => .list false (nodes items)
  | .record entries => .record (entryNodes entries)

/-- The items of a list as content. -/
def nodes : List Json → List Node
  | [] => []
  | j :: js => node j :: nodes js

/-- The entries of a record as content. -/
def entryNodes : List (String × Json) → List (Option String × Node)
  | [] => []
  | (key, j) :: es => (some key, node j) :: entryNodes es

end

mutual

/-- The value with only the last entry of each repeated key. -/
def settled : Json → Json
  | .list items => .list (settledItems items)
  | .record entries => .record (settledEntries entries)
  | j => j

/-- The items of a list, each with only the last entry of a repeated key. -/
def settledItems : List Json → List Json
  | [] => []
  | j :: js => settled j :: settledItems js

/-- The last entries of each key. -/
def settledEntries : List (String × Json) → List (String × Json)
  | [] => []
  | (key, j) :: es =>
    let rest := settledEntries es
    if (es.lookup key).isSome then rest else (key, settled j) :: rest

end

end Json

end FieldRules
