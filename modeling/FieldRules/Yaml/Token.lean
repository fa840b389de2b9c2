import FieldRules.Yaml.Scalar
import FieldRules.Yaml.Tag

/-!
# `FieldRules.Yaml.Token` — YAML texts as tokens

Indentation becomes tokens of its own, and so do keys that nothing but the colon after them gives
away. Wherever such a key could start, the place is remembered; when the colon comes, the tokens
that open a mapping and a key are put in there.

## Contents
- **`Token`**.
- **`Scanner`**, the tokens so far with the columns of the open blocks and, for the block level and
  each open flow collection, the place where a key may have started.
- **`Scanner.step?`**, one token further, and **`tokens?`**, all tokens of a text.
-/

namespace FieldRules.Yaml

/-! ## Tokens -/

/-- A token. The end of the text has none. -/
inductive Token where
  | version (major minor : Nat)
  /-- A handle of tags with the bytes that it stands for. -/
  | handle (name : String) (stem : List UInt8)
  | documentStart
  | documentEnd
  | blockSequence
  | blockMapping
  | blockEnd
  | flowSequence
  | flowSequenceEnd
  | flowMapping
  | flowMappingEnd
  | blockEntry
  | flowEntry
  | key
  | value
  | alias (name : String)
  | anchor (name : String)
  | tag (handle : String) (suffix : List UInt8)
  | scalar (style : Style) (text : String)
  deriving DecidableEq, Repr

/-! ## The scanner -/

/-- The place of a token that a colon may turn into a key. -/
structure KeyPlace where
  /-- Whether the colon has to come, because the token stands in the column of an open block. -/
  required : Bool
  /-- The number of tokens before it. -/
  position : Nat
  offset : Nat
  line : Nat
  column : Nat
  deriving DecidableEq, Repr

/-- A text of which some tokens have been taken. -/
structure Scanner where
  cursor : Cursor
  /-- The tokens so far, the latest first. -/
  taken : List Token
  count : Nat
  /-- The column of the innermost block; −1 outside of all blocks. -/
  indent : Int
  /-- The columns of the blocks around it. -/
  outer : List Int
  /-- Where a key may have started on the block level, if no flow collection is open, else in the
  innermost flow collection. -/
  place : Option KeyPlace
  /-- The same for the levels around it, one for each open flow collection. -/
  outerPlaces : List (Option KeyPlace)
  /-- Whether a key may start here. -/
  keyAllowed : Bool
  deriving DecidableEq, Repr

namespace Scanner

/-- Nothing is taken yet. -/
def start (text : List Char) : Scanner :=
  ⟨.start text, [], 0, -1, [], none, [], true⟩

/-- Whether a flow collection is open. -/
def inFlow (s : Scanner) : Bool :=
  !s.outerPlaces.isEmpty

/-- Adds a token. -/
def push (s : Scanner) (t : Token) : Scanner :=
  { s with taken := t :: s.taken, count := s.count + 1 }

/-- Puts a token in after the given number of tokens. -/
def putAt (s : Scanner) (position : Nat) (t : Token) : Scanner :=
  let later := s.taken.take (s.count - position)
  { s with taken := later ++ t :: s.taken.drop (s.count - position), count := s.count + 1 }

/-- Passes over characters. -/
def advance (s : Scanner) (count : Nat) : Scanner :=
  { s with cursor := s.cursor.advance count }

/-! ## Keys -/

/-- Forgets where a key may have started, unless its colon has to come. -/
def dropPlace? (s : Scanner) : Option Scanner :=
  if s.place.any KeyPlace.required then none else some { s with place := none }

/-- Remembers that a key may start here. -/
def savePlace? (s : Scanner) : Option Scanner :=
  if s.keyAllowed then do
    let s ← s.dropPlace?
    let c := s.cursor
    return { s with
      place := some ⟨!s.inFlow && s.indent = c.column, s.count, c.offset, c.line, c.column⟩ }
  else some s

/-- The greatest length in bytes of a key that was not announced. -/
def maxKeyLength : Nat := 1024

/-- Whether a colon here comes too late for a place: a key stands on one line and is not longer than
`maxKeyLength`. -/
def isStale (s : Scanner) (p : KeyPlace) : Bool :=
  p.line < s.cursor.line || p.offset + maxKeyLength < s.cursor.offset

/-- Forgets the places for which it is too late. A colon that had to come must not be late. -/
def dropStale? (s : Scanner) : Option Scanner := do
  let fresh (p? : Option KeyPlace) : Option (Option KeyPlace) :=
    match p? with
    | none => some none
    | some p => if s.isStale p then (if p.required then none else some none) else some (some p)
  return { s with place := ← fresh s.place, outerPlaces := ← s.outerPlaces.mapM fresh }

/-! ## Indentation -/

/-- Closes the blocks right of a column. -/
def closeBlocks (column : Int) : Nat → Scanner → Scanner
  | 0, s => s
  | fuel + 1, s =>
    if column < s.indent then
      closeBlocks column fuel
        { s.push .blockEnd with indent := s.outer.headD (-1), outer := s.outer.tail }
    else s

/-- Closes the blocks right of a column, outside of flow collections. -/
def unroll (s : Scanner) (column : Int) : Scanner :=
  if s.inFlow then s else closeBlocks column (s.outer.length + 1) s

/-- Opens a block in a column, unless one is open there or right of it. -/
def roll (s : Scanner) (column position : Nat) (t : Token) : Scanner :=
  if !s.inFlow && s.indent < column then
    { s.putAt position t with indent := column, outer := s.indent :: s.outer }
  else s

/-! ## Passing over what carries no meaning -/

/-- Passes over blanks, comments and line ends. Every line may start with a byte order mark. A tab
counts as a blank except where a key may start in a block. A new line lets a key start. -/
def skipBlank : Nat → Scanner → Scanner
  | 0, s => s
  | fuel + 1, s =>
    let c := s.cursor
    let c := if c.column = 0 && c.sees byteOrderMark then c.advance 1 else c
    let c := c.skipWhile fun x => x = ' ' || ((s.inFlow || !s.keyAllowed) && x = '\t')
    let c := if c.sees '#' then c.skipWhile fun x => !isLineEnd x else c
    if c.atLineEnd then
      skipBlank fuel { s with cursor := c.skipLineEnd, keyAllowed := s.keyAllowed || !s.inFlow }
    else { s with cursor := c }

/-! ## Directives -/

/-- Takes a number of at most nine digits. -/
def takeNumber? (c : Cursor) : Option (Nat × Cursor) :=
  let (ds, c) := c.takeWhile Char.isDigit
  if ds.isEmpty || 9 < ds.length then none else some (Number.value ds, c)

/-- Takes the version that a directive gives. -/
def takeVersion? (c : Cursor) : Option (Token × Cursor) := do
  let (major, c) ← takeNumber? (c.skipWhile isGap)
  if c.sees '.' then
    let (minor, c) ← takeNumber? (c.advance 1)
    return (.version major minor, c)
  none

/-- Takes the handle that a directive declares and what it stands for. -/
def takeHandleDirective? (c : Cursor) : Option (Token × Cursor) := do
  let (handle, complete, c) ← takeHandle? (c.skipWhile isGap)
  if complete && c.peek?.any isGap then
    let c := c.skipWhile isGap
    let (stem, c) ← takeTagBytes? true c.rest.length c
    if !stem.isEmpty && endsWord c.peek? then
      return (.handle (String.ofList handle) (beforeZero stem), c)
    none
  else none

/-- Takes a directive with the rest of its line. -/
def takeDirective? (c : Cursor) : Option (Token × Cursor) := do
  let (name, c) := (c.advance 1).takeWhile isNameChar
  if endsWord c.peek? then
    let (t, c) ←
      if name = "YAML".toList then takeVersion? c
      else if name = "TAG".toList then takeHandleDirective? c
      else none
    return (t, ← c.skipRestOfLine?)
  none

/-! ## Names and tags -/

/-- Takes a name after its indicator. -/
def takeName? (c : Cursor) : Option (String × Cursor) :=
  let (name, c) := (c.advance 1).takeWhile isNameChar
  let ends := c.peek?.all fun x => isGap x || isLineEnd x || "?:,]\x7d%@`".toList.contains x
  if name.isEmpty || !ends then none else some (String.ofList name, c)

/-- Takes a tag: in angle brackets, or a handle with a suffix. -/
def takeTag? (flow : Bool) (c : Cursor) : Option (Token × Cursor) := do
  let (handle, suffix, c) ←
    if c.peekAt? 1 = some '<' then do
      let c := c.advance 2
      let (suffix, c) ← takeTagBytes? true c.rest.length c
      if suffix.isEmpty || !c.sees '>' then none else some ("", beforeZero suffix, c.advance 1)
    else do
      let (handle, complete, c) ← takeHandle? c
      let (suffix, c) ← takeTagBytes? false c.rest.length c
      if complete && 1 < handle.length then
        if suffix.isEmpty then none else some (String.ofList handle, beforeZero suffix, c)
      else
        -- What looked like the start of a handle belongs to the suffix of a local tag.
        let suffix := beforeZero (bytesOf (String.ofList (handle.drop 1)) ++ suffix)
        some (if suffix.isEmpty then ("", bytesOf "!", c) else ("!", suffix, c))
  if endsWord c.peek? || (flow && c.sees ',') then
    return (.tag handle suffix, c)
  none

/-! ## One token further -/

/-- Takes a token that stands for itself and opens or closes nothing. -/
def takeMark? (s : Scanner) (length : Nat) (t : Token) : Option Scanner := do
  let s ← (s.unroll (-1)).dropPlace?
  return ({ s with keyAllowed := false }.push t).advance length

/-- Opens a flow collection. -/
def openFlow? (s : Scanner) (t : Token) : Option Scanner := do
  let s ← s.savePlace?
  return ({ s with
    place := none, outerPlaces := s.place :: s.outerPlaces, keyAllowed := true }.push t).advance 1

/-- Closes a flow collection. -/
def closeFlow? (s : Scanner) (t : Token) : Option Scanner := do
  let s ← s.dropPlace?
  let s := match s.outerPlaces with
    | place :: outerPlaces => { s with place, outerPlaces }
    | [] => s
  return ({ s with keyAllowed := false }.push t).advance 1

/-- Takes the comma between items of a flow collection. -/
def takeFlowEntry? (s : Scanner) : Option Scanner := do
  let s ← s.dropPlace?
  return ({ s with keyAllowed := true }.push .flowEntry).advance 1

/-- Opens a block at an indicator, where a key may start. -/
def openBlock? (s : Scanner) (t : Token) : Option Scanner :=
  if s.inFlow then some s
  else if s.keyAllowed then some (s.roll s.cursor.column s.count t)
  else none

/-- Takes the indicator of an item of a block sequence. -/
def takeBlockEntry? (s : Scanner) : Option Scanner := do
  let s ← (← s.openBlock? .blockSequence).dropPlace?
  return ({ s with keyAllowed := true }.push .blockEntry).advance 1

/-- Takes the indicator of a key. -/
def takeKey? (s : Scanner) : Option Scanner := do
  let s ← (← s.openBlock? .blockMapping).dropPlace?
  return ({ s with keyAllowed := !s.inFlow }.push .key).advance 1

/-- Takes the colon before a value. If a key may have started before it, this was one. -/
def takeValue? (s : Scanner) : Option Scanner := do
  match s.place with
  | some p =>
    -- The tokens of the key are taken already, so its marks are put in before them.
    let s := (s.putAt p.position .key).roll p.column p.position .blockMapping
    return ({ s with place := none, keyAllowed := false }.push .value).advance 1
  | none =>
    let s ← s.openBlock? .blockMapping
    return ({ s with keyAllowed := !s.inFlow }.push .value).advance 1

/-- Takes something that may be a key, as far as a reader gets. -/
def takeItem? (s : Scanner) (read : Cursor → Option (Token × Cursor)) : Option Scanner := do
  let s ← s.savePlace?
  let (t, c) ← read s.cursor
  return { s.push t with cursor := c, keyAllowed := false }

/-- Takes a plain scalar. If a line end follows it, a key may start. -/
def takePlain? (s : Scanner) : Option Scanner := do
  let s ← s.savePlace?
  let (text, broken, c) ← Yaml.takePlain? s.inFlow s.indent s.cursor
  return { s.push (.scalar .plain (String.ofList text)) with cursor := c, keyAllowed := broken }

/-- Takes a quoted scalar. -/
def takeQuoted? (double : Bool) (c : Cursor) : Option (Token × Cursor) := do
  let (text, c) ← Yaml.takeQuoted? double c
  return (.scalar (if double then .doubleQuoted else .singleQuoted) (String.ofList text), c)

/-- Takes a block scalar. -/
def takeBlock? (s : Scanner) (style : Style) : Option Scanner := do
  let s ← s.dropPlace?
  let (text, c) ← Yaml.takeBlock? (style = .literal) s.indent s.cursor
  return { s.push (.scalar style (String.ofList text)) with cursor := c, keyAllowed := true }

/-- The characters that start no plain scalar. -/
def isIndicator (c : Char) : Bool :=
  "-?:,[]\x7b\x7d#&*!|>'\"%@`".toList.contains c

/-- Whether a plain scalar starts with a character before another one. -/
def startsPlain (flow : Bool) (c : Char) (next : Option Char) : Bool :=
  (!isGap c && !isLineEnd c && !isIndicator c) ||
    (c = '-' && !next.any isGap) ||
    (!flow && (c = '?' || c = ':') && !endsWord next)

/-- Takes the token that starts with a character. -/
def takeToken? (s : Scanner) (x : Char) : Option Scanner :=
  let c := s.cursor
  let next := c.peekAt? 1
  if c.column = 0 && x = '%' then do
    let s ← (s.unroll (-1)).dropPlace?
    let (t, c) ← takeDirective? c
    return { s.push t with cursor := c, keyAllowed := false }
  else if c.atMark '-' then s.takeMark? 3 .documentStart
  else if c.atMark '.' then s.takeMark? 3 .documentEnd
  else if x = '[' then s.openFlow? .flowSequence
  else if x = '\x7b' then s.openFlow? .flowMapping
  else if x = ']' then s.closeFlow? .flowSequenceEnd
  else if x = '\x7d' then s.closeFlow? .flowMappingEnd
  else if x = ',' then s.takeFlowEntry?
  else if x = '-' && endsWord next then s.takeBlockEntry?
  else if x = '?' && (s.inFlow || endsWord next) then s.takeKey?
  else if x = ':' && (s.inFlow || endsWord next) then s.takeValue?
  else if x = '*' then s.takeItem? fun c => (takeName? c).map fun (name, c) => (.alias name, c)
  else if x = '&' then s.takeItem? fun c => (takeName? c).map fun (name, c) => (.anchor name, c)
  else if x = '!' then s.takeItem? (takeTag? s.inFlow)
  else if x = '|' && !s.inFlow then s.takeBlock? .literal
  else if x = '>' && !s.inFlow then s.takeBlock? .folded
  else if x = '\'' then s.takeItem? (takeQuoted? false)
  else if x = '"' then s.takeItem? (takeQuoted? true)
  else if startsPlain s.inFlow x next then s.takePlain?
  else none

/-- Takes all tokens. Every turn but the last consumes a character. -/
def run? : Nat → Scanner → Option (List Token)
  | 0, _ => none
  | fuel + 1, s => do
    let s ← (skipBlank (s.cursor.rest.length + 1) s).dropStale?
    let s := s.unroll s.cursor.column
    match s.cursor.peek? with
    | some x => run? fuel (← s.takeToken? x)
    | none =>
      let s ← (s.unroll (-1)).dropPlace?
      return s.taken.reverse

end Scanner

/-- The tokens of a text. -/
def tokens? (text : String) : Option (List Token) :=
  let cs := text.toList
  if cs.all isAdmitted then (Scanner.start cs).run? (cs.length + 1) else none

end FieldRules.Yaml
