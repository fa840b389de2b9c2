import FieldRules.Json.Text
import FieldRules.Yaml.Cursor

/-!
# `FieldRules.Yaml.Tag` — the tags of YAML nodes

A tag is written with characters of names and some signs, and with percent signs before the bytes
of any other character. The bytes count as they are written: they need not be a text, and what comes
after a zero byte counts for nothing.

## Contents
- **`Tag`**, what a tag says about its node, and **`Tag.ofBytes`**.
- **`takeTagBytes?`**, the characters of a tag as bytes.
- **`expandTag?`**, the bytes that a handle and a suffix stand for.
-/

namespace FieldRules.Yaml

/-! ## Bytes -/

/-- The bytes of a text. -/
def bytesOf (s : String) : List UInt8 :=
  s.toUTF8.data.toList

/-- The bytes before the first zero byte. -/
def beforeZero (bs : List UInt8) : List UInt8 :=
  bs.takeWhile (· ≠ 0)

/-! ## Tags -/

/-- What a tag says about its node. -/
inductive Tag where
  | null
  | bool
  | int
  | float
  /-- A tag of the document's own, with its name if its bytes are a text. -/
  | own (name : Option String)
  /-- A tag that says nothing here. -/
  | other
  deriving DecidableEq, Repr

/-- What the tags of YAML itself start with. -/
def coreStem : String := "tag:yaml.org,2002:"

/-- The tag that some bytes spell. One of the document's own starts with an exclamation mark. -/
def Tag.ofBytes : List UInt8 → Tag
  | 0x21 :: name => .own (String.fromUTF8? ⟨name.toArray⟩)
  | bs =>
    if bs = bytesOf (coreStem ++ "null") then .null
    else if bs = bytesOf (coreStem ++ "bool") then .bool
    else if bs = bytesOf (coreStem ++ "int") then .int
    else if bs = bytesOf (coreStem ++ "float") then .float
    else .other

/-- The name of a tag of the document's own. -/
def Tag.name? : Tag → Option String
  | .own name => name
  | _ => none

/-! ## Handles -/

/-- Handles of tags, each with the bytes that it stands for. -/
abbrev Handles := List (String × List UInt8)

/-- The handles that every document knows. -/
def knownHandles : Handles :=
  [("!", bytesOf "!"), ("!!", bytesOf coreStem)]

/-- The tag that a handle and a suffix stand for. Without a handle the suffix is all of it. -/
def expandTag? (handles : Handles) (handle : String) (suffix : List UInt8) : Option Tag :=
  if handle.isEmpty then some (.ofBytes suffix)
  else (handles.lookup handle).map fun stem => .ofBytes (stem ++ suffix)

/-- Takes a handle of tags: an exclamation mark, or a name between two. The result says whether it
is complete. -/
def takeHandle? (c : Cursor) : Option (List Char × Bool × Cursor) :=
  if c.sees '!' then
    let (name, c) := (c.advance 1).takeWhile isNameChar
    if c.sees '!' then some ('!' :: name ++ ['!'], true, c.advance 1)
    else some ('!' :: name, name.isEmpty, c)
  else none

/-! ## Characters -/

/-- The characters of tags; within angle brackets and directives, some indicators belong to them. -/
def isTagChar (wide : Bool) (c : Char) : Bool :=
  isNameChar c || ";/?:@&=+$.%!~*'()".toList.contains c || (wide && ",[]".toList.contains c)

/-- The number of bytes that a first byte announces. -/
def byteCount? (b : UInt8) : Option Nat :=
  if b < 0x80 then some 1
  else if b / 0x20 = 6 then some 2
  else if b / 0x10 = 14 then some 3
  else if b / 0x08 = 30 then some 4
  else none

/-- Takes one byte after a percent sign. -/
def takeByte? (c : Cursor) : Option (UInt8 × Cursor) :=
  match c.rest with
  | '%' :: a :: b :: _ => do
    return (.ofNat (16 * (← Json.hexDigit? a) + (← Json.hexDigit? b)), c.advance 3)
  | _ => none

/-- Takes bytes that continue a character. -/
def takeContinuation? : Nat → Cursor → Option (List UInt8 × Cursor)
  | 0, c => some ([], c)
  | count + 1, c => do
    let (b, c) ← takeByte? c
    if b / 0x40 = 2 then
      let (bs, c) ← takeContinuation? count c
      return (b :: bs, c)
    none

/-- Takes the bytes of a character, as many as the first of them announces. -/
def takeBytes? (c : Cursor) : Option (List UInt8 × Cursor) := do
  let (b, c) ← takeByte? c
  let (bs, c) ← takeContinuation? ((← byteCount? b) - 1) c
  return (b :: bs, c)

/-- Takes the characters of a tag as bytes. -/
def takeTagBytes? (wide : Bool) : Nat → Cursor → Option (List UInt8 × Cursor)
  | 0, c => some ([], c)
  | fuel + 1, c =>
    match c.peek? with
    | none => some ([], c)
    | some x =>
      if isTagChar wide x then do
        let (bs, c) ← if x = '%' then takeBytes? c else some ([.ofNat x.toNat], c.advance 1)
        let (rest, c) ← takeTagBytes? wide fuel c
        return (bs ++ rest, c)
      else some ([], c)

end FieldRules.Yaml
