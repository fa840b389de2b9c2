import FieldRules.Pattern.Encoding
import FieldRules.Pattern.Form

/-!
# `FieldRules.Pattern.Footprint` — the memory that a pattern takes

A pattern is matched by an automaton that reads bytes, once from the start of a text to its end and
once from the end to the start. A pattern is too large if one of the two automata is. What they take
is counted here by going through their construction, state by state.

A state takes `stateBytes`. A state that reads one of several bytes keeps a list of edges besides,
and a state that offers a choice keeps a list of links; each entry of a list is counted.

## Contents
- **`Usage`**, the states and list entries so far.
- **Classes.** `Suffixes.count` and `Prefixes.count`, for reading forwards and backwards. Both reuse
  states that they find in a table. The table forgets: two entries with the same slot displace each
  other, so what is found depends on the numbers of the states.
- **`Trie`**, alternations of literals.
- **`Form.count`**, any pattern, and **`Form.fits`**, whether both automata keep within `maxBytes`.
-/

namespace FieldRules.Pattern

open FieldRules.Unicode

/-! ## Usage -/

/-- What the states so far take: their number, and the bytes of the lists that they keep. -/
structure Usage where
  states : Nat
  lists : Nat
  deriving DecidableEq, Repr

/-- Bytes of a state, apart from its lists. -/
def stateBytes : Nat := 32

/-- Bytes of an edge in a list of edges. -/
def edgeBytes : Nat := 8

/-- Bytes of a link in a list of links. -/
def linkBytes : Nat := 4

/-- Bytes that an automaton may take. -/
def maxBytes : Nat := 10 * 1024 * 1024

namespace Usage

/-- All bytes. -/
def bytes (u : Usage) : Nat := stateBytes * u.states + u.lists

/-- Whether the limit is kept. -/
def fits (u : Usage) : Bool := u.bytes ≤ maxBytes

/-- More states. -/
def addStates (count : Nat) (u : Usage) : Usage :=
  { u with states := u.states + count }

/-- More edges in lists. -/
def addEdges (count : Nat) (u : Usage) : Usage :=
  { u with lists := u.lists + edgeBytes * count }

/-- More links in lists. -/
def addLinks (count : Nat) (u : Usage) : Usage :=
  { u with lists := u.lists + linkBytes * count }

/-- Leads from a state to the next one: an entry if the state offers a choice. -/
def lead (choice : Bool) (u : Usage) : Usage :=
  if choice then u.addLinks 1 else u

end Usage

/-! ## Slots -/

/-- The start of the hash of a table key. -/
def hashStart : UInt64 := 14695981039346656037

/-- Takes one more number into a hash. -/
def hashStep (hash : UInt64) (n : Nat) : UInt64 :=
  (hash ^^^ n.toUInt64) * 1099511628211

/-- The slot of a key in a table of the given size. -/
def slot (size : Nat) (key : List Nat) : Nat :=
  (key.foldl hashStep hashStart).toNat % size

/-! ## Classes, read forwards -/

/-- An edge: the bytes that it takes and the state that it leads to. -/
structure Edge where
  first : Nat
  last : Nat
  target : Nat
  deriving DecidableEq, Repr

/-- A state under construction: the edges whose target is known, in reverse, and the byte range of
the edge whose target is not. -/
structure Pending where
  edges : List Edge
  current : Option ByteRange

/-- Settles the edge under way. -/
def Pending.settle (p : Pending) (target : Nat) : List Edge :=
  match p.current with
  | some (first, last) => ⟨first, last, target⟩ :: p.edges
  | none => p.edges

/-- The construction of a class from its sequences in ascending order. States with the same edges
are shared as far as the table remembers them. -/
structure Suffixes where
  usage : Usage
  table : Array (Option (List Edge × Nat))

namespace Suffixes

/-- Slots of the table. -/
def tableSize : Nat := 10000

/-- The slot of a state with these edges. -/
def slotOf (edges : List Edge) : Nat :=
  slot tableSize (edges.reverse.flatMap fun e => [e.first, e.last, e.target])

/-- The number of a state with these edges: one from the table or a new one. -/
def intern (s : Suffixes) (edges : List Edge) : Suffixes × Nat :=
  let place := slotOf edges
  let fresh (s : Suffixes) : Suffixes × Nat :=
    let number := s.usage.states
    ({ usage := (s.usage.addStates 1).addEdges edges.length
       table := s.table.setIfInBounds place (some (edges, number)) }, number)
  match s.table[place]? with
  | some (some (known, number)) => if known = edges then (s, number) else fresh s
  | _ => fresh s

/-- Finishes states from the deepest one upwards; the deepest one leads to `target`. The number of
the uppermost one is returned. -/
def finish (target : Nat) : List Pending → Suffixes → Suffixes × Nat
  | [], s => (s, target)
  | p :: deeper, s =>
    let (s, number) := finish target deeper s
    s.intern (p.settle number)

/-- Adds a sequence below the states under construction. As long as the sequence goes on like the
previous one it shares its states; where it stops, the states of the previous one are finished. -/
def add (target : Nat) : List ByteRange → List Pending → Suffixes → List Pending × Suffixes
  | r :: rs, p :: deeper, s =>
    if p.current = some r then
      let (deeper, s) := add target rs deeper s
      (p :: deeper, s)
    else
      let (s, number) := finish target deeper s
      (⟨p.settle number, some r⟩ :: rs.map fun r => ⟨[], some r⟩, s)
  | _, pending, s => (pending, s)

/-- The usage after a class. All sequences lead to a state of their own. -/
def count (seqs : List (List ByteRange)) (u : Usage) : Usage :=
  let target := u.states
  let start : List Pending × Suffixes :=
    ([⟨[], none⟩], ⟨u.addStates 1, Array.replicate tableSize none⟩)
  let (pending, s) := seqs.foldl (fun (pending, s) seq => add target seq pending s) start
  (finish target pending s).1.usage

end Suffixes

/-! ## Classes, read backwards -/

/-- The construction of a class where its bytes are read last to first: a choice between the last
bytes of all sequences. An edge to a state is shared with earlier sequences as far as the table
remembers it. -/
structure Prefixes where
  usage : Usage
  table : Array (Option (Edge × Nat))

namespace Prefixes

/-- Slots of the table. -/
def tableSize : Nat := 1000

/-- The number of a state with this edge: one from the table or a new one. -/
def intern (s : Prefixes) (e : Edge) : Prefixes × Nat :=
  let place := slot tableSize [e.target, e.first, e.last]
  let fresh (s : Prefixes) : Prefixes × Nat :=
    let number := s.usage.states
    ({ usage := s.usage.addStates 1
       table := s.table.setIfInBounds place (some (e, number)) }, number)
  match s.table[place]? with
  | some (some (known, number)) => if known = e then (s, number) else fresh s
  | _ => fresh s

/-- Adds a sequence, first byte first, that ends in `target`. -/
def add (target : Nat) : List ByteRange → Prefixes → Prefixes
  | [], s => { s with usage := s.usage.addLinks 1 }
  | (first, last) :: rs, s =>
    let (s, number) := s.intern ⟨first, last, target⟩
    add number rs s

/-- The usage after a class: a choice, an end, and the states of the sequences. -/
def count (seqs : List (List ByteRange)) (u : Usage) : Usage :=
  let target := u.states + 1
  (seqs.foldl (fun s seq => add target seq s)
    ⟨u.addStates 2, Array.replicate tableSize none⟩).usage

end Prefixes

/-! ## Alternations of literals -/

/-- A tree of literals. Where a literal ends the edges so far are closed off as a chunk, because
literals that come later are preferred less. -/
inductive Trie where
  | node (chunks : List (List (Nat × Trie))) (edges : List (Nat × Trie))

namespace Trie

/-- The tree without literals. -/
def empty : Trie := .node [] []

/-- Puts an entry in the place of the one with its key, or after all others. -/
def put (b : Nat) (f : Trie → Trie) : List (Nat × Trie) → List (Nat × Trie)
  | [] => [(b, f empty)]
  | (c, t) :: edges => if c = b then (c, f t) :: edges else (c, t) :: put b f edges

/-- Adds a literal. -/
def insert : List Nat → Trie → Trie
  | [], .node chunks edges =>
    if edges.isEmpty && !chunks.isEmpty && chunks.all List.isEmpty then .node chunks edges
    else .node (chunks ++ [edges]) []
  | b :: bs, .node chunks edges => .node chunks (put b (insert bs) edges)

/-- Whether nothing goes on from here. -/
def isLeaf : Trie → Bool
  | .node chunks edges => chunks.all List.isEmpty && edges.isEmpty

/-- A chunk as a state: none if it is empty, and a list of edges if there are several. -/
def countChunk (size : Nat) (u : Usage) : Usage :=
  if size = 0 then u
  else
    let u := (u.addStates 1).addLinks 1
    if size = 1 then u else u.addEdges size

mutual

/-- The usage after the states of a tree. A leaf needs none, since what leads to it can lead to the
end. Any other tree is a choice between its chunks, with the end after each one but the last. -/
def count : Trie → Usage → Usage
  | .node chunks edges, u =>
    if (Trie.node chunks edges).isLeaf then u
    else
      let u := countChunk edges.length (countEdges edges (countChunks chunks u))
      u.addStates 1

/-- The usage after chunks that the end follows. -/
def countChunks : List (List (Nat × Trie)) → Usage → Usage
  | [], u => u
  | chunk :: chunks, u =>
    countChunks chunks ((countChunk chunk.length (countEdges chunk u)).addLinks 1)

/-- The usage after the trees that edges lead to. -/
def countEdges : List (Nat × Trie) → Usage → Usage
  | [], u => u
  | (_, t) :: edges, u => countEdges edges (count t u)

end

end Trie

/-! ## Patterns -/

/-- The directions in which a text is read. -/
inductive Direction where
  | forward
  | backward
  deriving DecidableEq, Repr

/-- The usage after a part, and whether the part ends with a state that offers a choice; `none` as
soon as the limit is exceeded. -/
abbrev Counted := Option (Usage × Bool)

/-- Several copies of a part one after another. `last` says how what stands before ends, if anything
does. -/
def countCopies (part : Usage → Counted) :
    Nat → Option Bool → Usage → Option (Usage × Option Bool)
  | 0, last, u => some (u, last)
  | copies + 1, last, u => do
    let (u, choice) ← part u
    if u.fits then countCopies part copies (some choice) (u.lead (last.getD false)) else none

/-- Several copies of a part each of which may be left out together with all that follow. -/
def countOptional (part : Usage → Counted) : Nat → Bool → Usage → Counted
  | 0, last, u => some (u, last)
  | copies + 1, last, u => do
    let (u, choice) ← part ((u.addStates 1).addLinks 2)
    if u.fits then countOptional part copies choice (u.lead last) else none

/-- The copies that have to be taken, or an empty state if there are none. -/
def countLeast (part : Usage → Counted) (least : Nat) (u : Usage) : Counted := do
  match ← countCopies part least none u with
  | (u, some choice) => return (u, choice)
  | (u, none) => return (u.addStates 1, false)

/-- A repetition. `consumes` says that the part never matches the empty text, which spares a
repetition without a limit two states. -/
def countRepetition (part : Usage → Counted) (consumes : Bool) (least : Nat) (most : Option Nat)
    (u : Usage) : Counted :=
  match least, most with
  | 0, some 1 => do
    let (u, choice) ← part ((u.addStates 1).addLinks 2)
    return ((u.addStates 1).lead choice, false)
  | 0, none => do
    if consumes then
      let (u, choice) ← part (u.addStates 1)
      return ((u.addLinks 1).lead choice, true)
    else
      let (u, choice) ← part u
      return (((u.addStates 3).addLinks 4).lead choice, false)
  | least, none => do
    let (u, choice) ← countLeast part least u
    return (((u.addStates 1).addLinks 1).lead choice, true)
  | least, some most => do
    let (u, choice) ← countLeast part least u
    if least = most then return (u, choice)
    else
      let (u, choice) ← countOptional part (most - least) choice (u.addStates 1)
      return (u.lead choice, false)

namespace Form

/-- The literals of branches that are all literals, as their bytes in the order of reading. -/
def literals? (d : Direction) (forms : List Form) : Option (List (List Nat)) :=
  forms.mapM fun
    | .literal cs =>
      let bytes := cs.flatMap fun c => encode c.toNat
      some (if d = .forward then bytes else bytes.reverse)
    | _ => none

/-- A class: one list of edges for ASCII characters. -/
def countSet (d : Direction) (s : Spans) (u : Usage) : Usage :=
  if s.isAscii then (u.addStates 2).addEdges s.size
  else
    match d with
    | .forward => Suffixes.count (sequences s) u
    | .backward => Prefixes.count (sequences s) u

mutual

/-- The usage after a form. -/
def count (d : Direction) : Form → Usage → Counted
  | .empty, u => some (u.addStates 1, false)
  | .literal cs, u => some (u.addStates (String.ofList cs).utf8ByteSize, false)
  | .set _ s, u => some (countSet d s u, false)
  | .look _, u => some (u.addStates 1, false)
  | .repetition least most _ a, u =>
    countRepetition (count d a) (a.least?.any (0 < ·)) least most u
  | .capture _ a, u =>
    match d with
    | .forward => do
      let (u, choice) ← count d a (u.addStates 1)
      return ((u.addStates 1).lead choice, false)
    | .backward => count d a u
  | .row parts, u => do
    let (u, last) ← match d with
      | .forward => countForward d parts none u
      | .backward => countBackward d parts u
    return (u, last.getD false)
  | .branches forms, u =>
    match literals? d forms with
    | some literals => some ((literals.foldl (fun t bytes => t.insert bytes) Trie.empty).count
        (u.addStates 1), false)
    | none => (countBranches d 0 forms u).map fun u => (u, false)

/-- The usage after the parts of a row, first to last. -/
def countForward (d : Direction) :
    List Form → Option Bool → Usage → Option (Usage × Option Bool)
  | [], last, u => some (u, last)
  | a :: as, last, u => do
    let (u, choice) ← count d a u
    countForward d as (some choice) (u.lead (last.getD false))

/-- The usage after the parts of a row, last to first. -/
def countBackward (d : Direction) : List Form → Usage → Option (Usage × Option Bool)
  | [], u => some (u, none)
  | a :: as, u => do
    let (u, last) ← countBackward d as u
    let (u, choice) ← count d a u
    return (u.lead (last.getD false), some choice)

/-- The usage after branches from position `k` on. The choice between them and their common end
follow the first two. -/
def countBranches (d : Direction) (k : Nat) : List Form → Usage → Option Usage
  | [], u => some u
  | a :: as, u => do
    let (u, choice) ← count d a u
    let u := (u.addLinks 1).lead choice
    countBranches d (k + 1) as (if k = 1 then u.addStates 2 else u)

end

/-- Whether a match can only start where reading starts. -/
def isAnchored (d : Direction) (a : Form) : Bool :=
  match d with
  | .forward => a.begins .textStart
  | .backward => a.ends .textEnd

/-- The usage of the automaton of a pattern. An empty state leads to it, or a loop over any bytes if
a match can start anywhere. The whole match is captured where the text is read forwards, and a state
says that there is one. -/
def footprint (d : Direction) (a : Form) : Option Usage := do
  let start : Usage :=
    if a.isAnchored d then ⟨1, 0⟩ else ((⟨3, 0⟩ : Usage).addEdges 1).addLinks 2
  let (u, choice) ← (Form.capture 0 a).count d start
  return (u.addStates 1).lead choice

/-- Whether both automata keep within the limit. -/
def fits (a : Form) : Bool :=
  (a.footprint .backward).any Usage.fits && (a.footprint .forward).any Usage.fits

end Form

end FieldRules.Pattern
