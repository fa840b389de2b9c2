import FieldRules.Yaml.Token

/-!
# `FieldRules.Yaml.Tree` — tokens as trees

## Contents
- **`Tree`**, a node with its tag and anchor. Anchors are numbers: a new anchor has the number of
  distinct names before it.
- **`Stream`**, the tokens that are left with the anchors so far, and the readers of nodes on it.
  All of them take fuel, which the number of tokens bounds.
- **`trees?`**, the documents of a text.
-/

namespace FieldRules.Yaml

/-- A node of a document. -/
inductive Tree where
  /-- Stands for the node that has the anchor. -/
  | alias (anchor : Nat)
  | scalar (anchor : Option Nat) (tag : Option Tag) (style : Style) (text : String)
  | sequence (anchor : Option Nat) (tag : Option Tag) (items : List Tree)
  | mapping (anchor : Option Nat) (tag : Option Tag) (entries : List (Tree × Tree))

/-! ## Tokens that are left -/

/-- Tokens with the anchors by name and the number of distinct names. -/
structure Stream where
  tokens : List Token
  anchors : List (String × Nat)
  names : Nat
  deriving DecidableEq, Repr

namespace Stream

/-- Without the next token. -/
def skip (s : Stream) : Stream :=
  { s with tokens := s.tokens.tail }

/-- Whether a given token comes next. -/
def sees (s : Stream) (t : Token) : Bool :=
  s.tokens.head? = some t

/-- Whether one of some tokens comes next, or none at all. -/
def seesAny (s : Stream) (ts : List Token) : Bool :=
  s.tokens.head?.any ts.contains

/-- Gives an anchor its number. A name that is used again gets another number. -/
def define (s : Stream) (name : String) : Nat × Stream :=
  let known := (s.anchors.lookup name).isSome
  (s.names, { s with
    anchors := (name, s.names) :: s.anchors
    names := if known then s.names else s.names + 1 })

end Stream

/-- A node that is not there. -/
def emptyTree : Tree :=
  .scalar none none .plain ""

/-! ## Tags and anchors -/

/-- What may stand before a node. -/
structure Properties where
  anchor : Option String
  tag : Option Tag
  deriving DecidableEq, Repr

/-- Takes a tag and an anchor, in either order, as far as they are there. -/
def Stream.takeProperties? (handles : Handles) (s : Stream) :
    Option (Properties × Stream) :=
  match s.tokens with
  | .anchor name :: .tag handle suffix :: ts => do
    return (⟨some name, some (← expandTag? handles handle suffix)⟩, { s with tokens := ts })
  | .tag handle suffix :: .anchor name :: ts => do
    return (⟨some name, some (← expandTag? handles handle suffix)⟩, { s with tokens := ts })
  | .anchor name :: ts => some (⟨some name, none⟩, { s with tokens := ts })
  | .tag handle suffix :: ts => do
    return (⟨none, some (← expandTag? handles handle suffix)⟩, { s with tokens := ts })
  | _ => some (⟨none, none⟩, s)

/-- Gives the anchor of a node its number. -/
def Stream.defineAnchor (s : Stream) : Option String → Option Nat × Stream
  | some name =>
    let (n, s) := s.define name
    (some n, s)
  | none => (none, s)

/-! ## Nodes -/

namespace Stream

mutual

/-- Takes a node. Blocks may start here where `block` holds, and a sequence that is not indented
where `unindented` holds. -/
def takeNode? (handles : Handles) (block unindented : Bool) :
    Nat → Stream → Option (Tree × Stream)
  | 0, _ => none
  | fuel + 1, s =>
    match s.tokens with
    | .alias name :: _ => (s.anchors.lookup name).map fun n => (.alias n, s.skip)
    | _ => do
      let (properties, s) ← s.takeProperties? handles
      let tag := properties.tag
      let (anchor, opened) := s.skip.defineAnchor properties.anchor
      match s.tokens with
      | .scalar style text :: _ => return (.scalar anchor tag style text, opened)
      | .flowSequence :: _ =>
        let (items, s) ← takeFlowItems? handles true fuel opened
        return (.sequence anchor tag items, s)
      | .flowMapping :: _ =>
        let (entries, s) ← takeFlowEntries? handles true fuel opened
        return (.mapping anchor tag entries, s)
      | t :: _ =>
        if unindented && t = .blockEntry then
          let (anchor, s) := s.defineAnchor properties.anchor
          let (items, s) ← takeUnindented? handles fuel s
          return (.sequence anchor tag items, s)
        else if block && t = .blockSequence then
          let (items, s) ← takeItems? handles fuel opened
          return (.sequence anchor tag items, s)
        else if block && t = .blockMapping then
          let (entries, s) ← takeEntries? handles fuel opened
          return (.mapping anchor tag entries, s)
        else takeMissing? properties s
      | [] => takeMissing? properties s

/-- A node of which nothing but a tag or an anchor is there. -/
def takeMissing? (properties : Properties) (s : Stream) : Option (Tree × Stream) :=
  if properties.anchor.isSome || properties.tag.isSome then
    let (anchor, s) := s.defineAnchor properties.anchor
    some (.scalar anchor properties.tag .plain "", s)
  else none

/-- Takes a node of a block, or none where one of some tokens comes next. -/
def takeBlockNode? (handles : Handles) (unindented : Bool) (stops : List Token) :
    Nat → Stream → Option (Tree × Stream)
  | 0, _ => none
  | fuel + 1, s =>
    if s.seesAny stops then some (emptyTree, s)
    else takeNode? handles true unindented fuel s

/-- Takes a node of a flow collection, or none where one of some tokens comes next. -/
def takeFlowNode? (handles : Handles) (stops : List Token) :
    Nat → Stream → Option (Tree × Stream)
  | 0, _ => none
  | fuel + 1, s =>
    if s.seesAny stops then some (emptyTree, s) else takeNode? handles false false fuel s

/-- Takes the items of a block sequence and its end. -/
def takeItems? (handles : Handles) : Nat → Stream → Option (List Tree × Stream)
  | 0, _ => none
  | fuel + 1, s =>
    if s.sees .blockEnd then some ([], s.skip)
    else if s.sees .blockEntry then do
      let (item, s) ← takeBlockNode? handles false [.blockEntry, .blockEnd] fuel s.skip
      let (items, s) ← takeItems? handles fuel s
      return (item :: items, s)
    else none

/-- Takes the items of a sequence that is not indented. -/
def takeUnindented? (handles : Handles) : Nat → Stream → Option (List Tree × Stream)
  | 0, _ => none
  | fuel + 1, s =>
    if s.sees .blockEntry then do
      let (item, s) ←
        takeBlockNode? handles false [.blockEntry, .key, .value, .blockEnd] fuel s.skip
      let (items, s) ← takeUnindented? handles fuel s
      return (item :: items, s)
    else some ([], s)

/-- Takes the entries of a block mapping and its end. -/
def takeEntries? (handles : Handles) :
    Nat → Stream → Option (List (Tree × Tree) × Stream)
  | 0, _ => none
  | fuel + 1, s =>
    if s.sees .blockEnd then some ([], s.skip)
    else if s.sees .key then do
      let (key, s) ← takeBlockNode? handles true [.key, .value, .blockEnd] fuel s.skip
      let (value, s) ←
        if s.sees .value then takeBlockNode? handles true [.key, .value, .blockEnd] fuel s.skip
        else some (emptyTree, s)
      let (entries, s) ← takeEntries? handles fuel s
      return ((key, value) :: entries, s)
    else none

/-- Takes the items of a flow sequence and its end. -/
def takeFlowItems? (handles : Handles) (first : Bool) :
    Nat → Stream → Option (List Tree × Stream)
  | 0, _ => none
  | fuel + 1, s =>
    if s.sees .flowSequenceEnd then some ([], s.skip)
    else do
      let s ← if first then some s else if s.sees .flowEntry then some s.skip else none
      if s.sees .flowSequenceEnd then return ([], s.skip)
      let (item, s) ←
        if s.sees .key then takePair? handles fuel s.skip else takeNode? handles false false fuel s
      let (items, s) ← takeFlowItems? handles false fuel s
      return (item :: items, s)

/-- Takes an entry that stands in a flow sequence as a mapping of its own. A key that is not there
swallows the token in its place. -/
def takePair? (handles : Handles) : Nat → Stream → Option (Tree × Stream)
  | 0, _ => none
  | fuel + 1, s => do
    let (key, s) ←
      if s.tokens.isEmpty then none
      else if s.seesAny [.value, .flowEntry, .flowSequenceEnd] then some (emptyTree, s.skip)
      else takeNode? handles false false fuel s
    let (value, s) ←
      if s.sees .value then takeFlowNode? handles [.flowEntry, .flowSequenceEnd] fuel s.skip
      else some (emptyTree, s)
    return (.mapping none none [(key, value)], s)

/-- Takes the entries of a flow mapping and its end. -/
def takeFlowEntries? (handles : Handles) (first : Bool) :
    Nat → Stream → Option (List (Tree × Tree) × Stream)
  | 0, _ => none
  | fuel + 1, s =>
    if s.sees .flowMappingEnd then some ([], s.skip)
    else do
      let s ← if first then some s else if s.sees .flowEntry then some s.skip else none
      if s.sees .flowMappingEnd then return ([], s.skip)
      let (key, value, s) ←
        if s.sees .key then do
          let (key, s) ←
            takeFlowNode? handles [.value, .flowEntry, .flowMappingEnd] fuel s.skip
          let (value, s) ←
            if s.sees .value then takeFlowNode? handles [.flowEntry, .flowMappingEnd] fuel s.skip
            else some (emptyTree, s)
          some (key, value, s)
        else do
          let (key, s) ← takeNode? handles false false fuel s
          some (key, emptyTree, s)
      let (entries, s) ← takeFlowEntries? handles false fuel s
      return ((key, value) :: entries, s)

end

end Stream

/-! ## Documents -/

/-- Takes the directives before a document. Handles must not be declared twice, nor the version be
given twice; it has to be 1.1 or 1.2. -/
def takeDirectives? (version : Bool) (handles : Handles) :
    List Token → Option (Handles × List Token)
  | .version major minor :: ts =>
    if version || major ≠ 1 || (minor ≠ 1 && minor ≠ 2) then none
    else takeDirectives? true handles ts
  | .handle name stem :: ts =>
    if (handles.lookup name).isSome then none
    else takeDirectives? version ((name, stem) :: handles) ts
  | ts => some (handles ++ knownHandles, ts)

/-- Takes the root of a document. -/
def takeRoot? (handles : Handles) (ts : List Token) :
    Option (Tree × List Token) := do
  let (tree, s) ← Stream.takeNode? handles true false (4 * ts.length + 4) ⟨ts, [], 0⟩
  return (tree, s.tokens)

/-- Whether no node can come after the start of a document. -/
def startsNoNode : List Token → Bool
  | [] => true
  | t :: _ =>
    match t with
    | .version _ _ => true
    | .handle _ _ => true
    | .documentStart => true
    | .documentEnd => true
    | _ => false

/-- Takes the documents that are left. Only the first one may do without a mark at its start. -/
def takeDocuments? (first : Bool) : Nat → List Token → Option (List Tree)
  | 0, _ => none
  | fuel + 1, ts => do
    let ts := if first then ts else ts.dropWhile (· = .documentEnd)
    if ts.isEmpty then return []
    let (tree, ts) ←
      if first && (!startsNoNode ts || ts.head? = some .documentEnd) then takeRoot? knownHandles ts
      else
        match ← takeDirectives? false [] ts with
        | (handles, .documentStart :: ts) =>
          if startsNoNode ts then some (emptyTree, ts) else takeRoot? handles ts
        | _ => none
    let ts := if ts.head? = some .documentEnd then ts.tail else ts
    let trees ← takeDocuments? false fuel ts
    return tree :: trees

/-- The documents of a text; there may be none. -/
def trees? (text : String) : Option (List Tree) := do
  let ts ← tokens? text
  takeDocuments? true (ts.length + 1) ts

end FieldRules.Yaml
