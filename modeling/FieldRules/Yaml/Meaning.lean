import FieldRules.Document.Node
import FieldRules.Yaml.Scalar
import FieldRules.Yaml.Tag

/-!
# `FieldRules.Yaml.Meaning` — what the scalars of YAML texts stand for

The meaning of a plain scalar is found in its text: an absent value, a truth value, a whole number,
a floating-point number, and failing all of these a text. Quoted scalars and blocks are texts. A tag
can force one of the meanings.

## Contents
- **Words and numbers**: `isNull`, `bool?`, `readWhole?` with its bases, `readFloat?`.
- **`plainLiteral?`** and **`literal?`**, the meaning where any literal is welcome.
- **`scalarAtom`**, all that a scalar reads as.
-/

namespace FieldRules.Yaml

open Document Number

/-! ## Words -/

/-- The words for an absent value. -/
def isNull (s : String) : Bool :=
  s = "~" || s = "null" || s = "Null" || s = "NULL"

/-- The words for truth values. -/
def bool? (s : String) : Option Bool :=
  if s = "true" ∨ s = "True" ∨ s = "TRUE" then some true
  else if s = "false" ∨ s = "False" ∨ s = "FALSE" then some false
  else none

/-! ## Numbers -/

/-- Several digits of which the first is a nought, with or without a sign. They are no number,
because a nought in front may mark a code. -/
def isPaddedCode (cs : List Char) : Bool :=
  match (splitSign cs).2 with
  | '0' :: d :: ds => (d :: ds).all Char.isDigit
  | _ => false

/-- Digits of a base, at least one. -/
def readDigits? (base : Nat) (cs : List Char) : Option Nat := do
  if cs.isEmpty then none
  let ds ← cs.mapM Json.hexDigit?
  if ds.all (· < base) then some (ds.foldl (fun n d => base * n + d) 0) else none

/-- A whole number without a sign, in the base that it is marked with. -/
def readMagnitude? : List Char → Option Nat
  | '0' :: 'x' :: cs => readDigits? 16 cs
  | '0' :: 'o' :: cs => readDigits? 8 cs
  | '0' :: 'b' :: cs => readDigits? 2 cs
  | cs => readDigits? 10 cs

/-- A whole number of any size. -/
def readWhole? (cs : List Char) : Option Int :=
  if isPaddedCode cs then none
  else
    match splitSign cs with
    | (true, cs) => (readMagnitude? cs).map fun n => -(n : Int)
    | (false, cs) => (readMagnitude? cs).map Int.ofNat

/-- A whole number of 64 bits with a sign. -/
def readInt64? (s : String) : Option Int64 :=
  ((readWhole? s.toList).filter fitsSigned64).map Int64.ofInt

/-- A floating-point number: a finite decimal or one of the words for what is not finite. -/
def readFloat? (s : String) : Option Binary64 :=
  if s = ".inf" ∨ s = ".Inf" ∨ s = ".INF" ∨ s = "+.inf" ∨ s = "+.Inf" ∨ s = "+.INF" then
    some (.infinity false)
  else if s = "-.inf" ∨ s = "-.Inf" ∨ s = "-.INF" then some (.infinity true)
  else if s = ".nan" ∨ s = ".NaN" ∨ s = ".NAN" then some .nan
  else (Binary64.read? s.toList).filter Binary64.isFinite

/-! ## Literals -/

/-- A whole number as a literal. Beyond 64 bits with a sign it counts as a floating-point number,
but only as far as 64 bits without a sign reach. -/
def intLiteral? (n : Int) : Option Literal :=
  if fitsSigned64 n then some (.int (Int64.ofInt n))
  else if fitsUnsigned64 n then some (.float (Binary64.ofInt n))
  else none

/-- Whether a whole number fits into 128 bits, without a sign or with one. -/
def fitsWide (n : Int) : Bool :=
  leastSigned128 ≤ n && n ≤ greatestUnsigned128

/-- The meaning of a text without quotes. -/
def plainLiteral? (s : String) : Option Literal :=
  if s.isEmpty || isNull s then some .null
  else
    match bool? s with
    | some b => some (.bool b)
    | none =>
      match (readWhole? s.toList).filter fitsWide with
      | some n => intLiteral? n
      | none =>
        if isPaddedCode s.toList then some (.text s)
        else
          match readFloat? s with
          | some x => some (.float x)
          | none => some (.text s)

/-- The meaning of a scalar where any literal is welcome. A tag with a name of the document's own
gives it a meaning that is no literal. -/
def literal? (tag : Option Tag) (style : Style) (s : String) : Option Literal :=
  let open? := if style = .plain then plainLiteral? s else some (.text s)
  match tag with
  | none => open?
  | some (.own none) => open?
  | some (.own (some _)) => none
  | some .bool => (bool? s).map .bool
  | some .int => ((readWhole? s.toList).filter fitsWide).bind intLiteral?
  | some .float => (readFloat? s).map .float
  | some .null => if isNull s then some .null else none
  | some .other => some (.text s)

/-! ## All readings -/

/-- Whether a scalar may be read as the kind that a tag names: plain scalars may, and lines that are
kept if they carry that tag. -/
def isOpenTo (kind : Tag) (tag : Option Tag) (style : Style) : Bool :=
  style = .plain || (style = .literal && tag = some kind)

/-- The word that a scalar stands for where one of several is expected. The name of a tag is the
word itself, and then the scalar has to be absent. -/
def word? (tag : Option Tag) (style : Style) (s : String) : Option String :=
  match tag.bind Tag.name? with
  | none => some s
  | some name => if style = .plain && (s.isEmpty || isNull s) then some name else none

/-- Whether a scalar is absent where it may be. -/
def absent? (tag : Option Tag) (style : Style) (s : String) : Option Bool :=
  if style ≠ .plain then some false
  else
    match tag with
    | none => some (s.isEmpty || isNull s)
    | some .null => if isNull s then some true else none
    | some _ => some false

/-- All that a scalar reads as. -/
def scalarAtom (tag : Option Tag) (style : Style) (s : String) : Atom where
  text? := some s
  bool? := if isOpenTo .bool tag style then bool? s else none
  int? := if isOpenTo .int tag style then readInt64? s else none
  float? := if isOpenTo .float tag style then readFloat? s else none
  literal? := literal? tag style s
  word? := word? tag style s
  absent? := absent? tag style s
  blank := style = .plain && s.isEmpty

/-- A document without a node reads as an empty list or record, or as nothing. -/
def missingAtom : Atom :=
  ⟨none, none, none, none, some .null, none, some true, true⟩

end FieldRules.Yaml
