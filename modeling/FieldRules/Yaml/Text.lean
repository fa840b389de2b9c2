import FieldRules.Yaml.Meaning
import FieldRules.Yaml.Tree

/-!
# `FieldRules.Yaml.Text` — YAML texts as content of documents

An alias stands for the node that was last given its anchor. The nodes behind aliases are put in
their place, within two bounds: on how deep lists and records nest, and on how many aliases are
followed.

## Contents
- **`anchored`**, the nodes with anchors.
- **`expand?`**, a tree as content.
- **`readAll?`**, the documents of a text, and **`read?`**, its only document.
-/

namespace FieldRules.Yaml

open Document

/-! ## Anchors -/

mutual

/-- The nodes with anchors inside of a tree, in the order of the text. -/
def anchored : Tree → List (Nat × Tree)
  | .alias _ => []
  | .scalar anchor tag style text =>
    (anchor.map fun n => (n, .scalar anchor tag style text)).toList
  | .sequence anchor tag items =>
    (anchor.map fun n => (n, .sequence anchor tag items)).toList ++ anchoredItems items
  | .mapping anchor tag entries =>
    (anchor.map fun n => (n, .mapping anchor tag entries)).toList ++ anchoredEntries entries

/-- The nodes with anchors inside of items. -/
def anchoredItems : List Tree → List (Nat × Tree)
  | [] => []
  | t :: ts => anchored t ++ anchoredItems ts

/-- The nodes with anchors inside of keys and values. -/
def anchoredEntries : List (Tree × Tree) → List (Nat × Tree)
  | [] => []
  | (key, value) :: es => anchored key ++ anchored value ++ anchoredEntries es

end

mutual

/-- The size of a tree: one for a scalar or an alias, two more than its parts for a collection. -/
def size : Tree → Nat
  | .alias _ => 1
  | .scalar _ _ _ _ => 1
  | .sequence _ _ items => 2 + sizeItems items
  | .mapping _ _ entries => 2 + sizeEntries entries

/-- The size of items. -/
def sizeItems : List Tree → Nat
  | [] => 0
  | t :: ts => size t + sizeItems ts

/-- The size of keys and values. -/
def sizeEntries : List (Tree × Tree) → Nat
  | [] => 0
  | (key, value) :: es => size key + size value + sizeEntries es

end

/-! ## Content -/

/-- How deep lists and records may nest. -/
def maxDepth : Nat := 128

/-- How many aliases may be followed, as a multiple of the size of a document. -/
def aliasFactor : Nat := 100

/-- The node behind an alias, with what is left of the aliases that may be followed. Any other node
is itself. -/
def follow? (anchors : List (Nat × Tree)) (left : Nat) : Tree → Option (Tree × Nat)
  | .alias n =>
    match left with
    | 0 => none
    | left + 1 => (anchors.lookup n).map fun t => (t, left)
  | t => some (t, left)

/-- The text of a key, if it has one. -/
def keyText? : Node → Option String
  | .atom a => a.text?
  | _ => none

mutual

/-- A tree as content that nests at most `depth` deep, with what is left of the aliases. -/
def expand? (anchors : List (Nat × Tree)) (depth left : Nat) (tree : Tree) :
    Option (Node × Nat) := do
  let (tree, left) ← follow? anchors left tree
  match tree, depth with
  | .scalar _ tag style text, _ => return (.atom (scalarAtom tag style text), left)
  | .sequence _ tag items, depth + 1 =>
    let (items, left) ← expandItems? anchors depth left items
    return (.list (tag.bind Tag.name?).isSome items, left)
  | .mapping _ _ entries, depth + 1 =>
    let (entries, left) ← expandEntries? anchors depth left entries
    return (.record entries, left)
  | _, _ => none
termination_by (depth, sizeOf tree)

/-- Items as content. -/
def expandItems? (anchors : List (Nat × Tree)) (depth left : Nat) (items : List Tree) :
    Option (List Node × Nat) :=
  match items with
  | [] => some ([], left)
  | t :: ts => do
    let (n, left) ← expand? anchors depth left t
    let (ns, left) ← expandItems? anchors depth left ts
    return (n :: ns, left)
termination_by (depth, sizeOf items)

/-- Keys and values as content. -/
def expandEntries? (anchors : List (Nat × Tree)) (depth left : Nat)
    (entries : List (Tree × Tree)) : Option (List (Option String × Node) × Nat) :=
  match entries with
  | [] => some ([], left)
  | (key, value) :: es => do
    let (key, left) ← expand? anchors depth left key
    let (value, left) ← expand? anchors depth left value
    let (rest, left) ← expandEntries? anchors depth left es
    return ((keyText? key, value) :: rest, left)
termination_by (depth, sizeOf entries)

end

/-- A document as content. -/
def nodeOfTree? (tree : Tree) : Option Node :=
  (expand? (anchored tree).reverse maxDepth (aliasFactor * size tree) tree).map Prod.fst

/-! ## Texts -/

/-- The documents of a text. A text without any counts as one that holds nothing. -/
def readAll? (text : String) : Option (List Node) := do
  match ← trees? text with
  | [] => return [.atom missingAtom]
  | trees => trees.mapM nodeOfTree?

/-- The document of a text that holds no other one. -/
def read? (text : String) : Option Node := do
  match ← readAll? text with
  | [n] => some n
  | _ => none

end FieldRules.Yaml
