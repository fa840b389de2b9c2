import FieldRules.Unicode.Age
import FieldRules.Unicode.Segment

/-!
# `FieldRules.Unicode.Property` — what a pattern may ask of a character

## Contents
- **`Property`**: categories, scripts, ages, classes at breaks and yes-or-no properties under one
  type, with `Property.chars`, the characters that have one.
- **`Property.ofName?`** and **`Property.ofNameValue?`**, the look-up of `Greek` and of
  `Script=Greek`.
-/

namespace FieldRules.Unicode

/-- A property that a pattern may ask for. -/
inductive Property where
  /-- Every character. -/
  | any
  /-- The characters below U+0080. -/
  | ascii
  /-- The characters that have a meaning assigned. -/
  | assigned
  /-- The characters of some general categories. -/
  | categories (categories : List Category)
  /-- The characters of the script with a code. -/
  | script (code : String)
  /-- The characters whose script extensions include the script with a code. -/
  | scriptExtension (code : String)
  /-- The characters with a yes-or-no property. -/
  | binary (p : Binary)
  /-- The characters known by an edition of the standard. -/
  | age (edition : Nat)
  /-- The characters of a class at the breaks between graphemes. -/
  | grapheme (cls : GraphemeClass)
  /-- The characters of a class at the breaks between words. -/
  | word (cls : WordClass)
  /-- The characters of a class at the breaks between sentences. -/
  | sentence (cls : SentenceClass)
  deriving DecidableEq, Repr

namespace Property

/-- The characters with the property. -/
def chars : Property → Spans
  | .any => .range 0 lastCode
  | .ascii => .range 0 0x7F
  | .assigned => (Category.chars [.unassigned]).compl
  | .categories cs => Category.chars cs
  | .script code => scriptChars code
  | .scriptExtension code => scriptExtensionChars code
  | .binary p => p.chars
  | .age edition => knownBy edition
  | .grapheme cls => cls.chars
  | .word cls => cls.chars
  | .sentence cls => cls.chars

/-- The property of a general category, or of one of the three classes that stand beside them. -/
def category? (name : List Char) : Option Property :=
  if name = "any".toList then some .any
  else if name = "assigned".toList then some .assigned
  else if name = "ascii".toList then some .ascii
  else (Category.named? name).map .categories

/-- The property with a name that stands alone: a yes-or-no property, a category or a script, looked
for in this order. -/
def ofName? (name : List Char) : Option Property :=
  let name := looseName name
  match Binary.named? name with
  | some p => some (.binary p)
  | none =>
    match category? name with
    | some p => some p
    | none => (scriptNamed? name).map .script

/-- The property with a name and a value, as in `script=greek`. -/
def ofNameValue? (name value : List Char) : Option Property :=
  let value := looseName value
  match String.ofList (looseName name) with
  | "gc" | "generalcategory" => category? value
  | "sc" | "script" => (scriptNamed? value).map .script
  | "scx" | "scriptextensions" => (scriptNamed? value).map .scriptExtension
  | "age" => (editionNamed? value).map .age
  | "gcb" | "graphemeclusterbreak" => (GraphemeClass.named? value).map .grapheme
  | "wb" | "wordbreak" => (WordClass.named? value).map .word
  | "sb" | "sentencebreak" => (SentenceClass.named? value).map .sentence
  | _ => none

end Property

end FieldRules.Unicode
