/-!
# `FieldRules.Text.Occurrence` — texts that occur in other texts

## Contents
- **`afterFirst?`**, what follows the first occurrence of a text.
- **`occursIn`**, and **`firstMissing?`** for several texts that should occur one after another.
-/

namespace FieldRules.Text

/-- What follows the first occurrence of a text. -/
def afterFirst? (part : List Char) : List Char → Option (List Char)
  | [] => if part.isEmpty then some [] else none
  | c :: cs =>
    if part.isPrefixOf (c :: cs) then some ((c :: cs).drop part.length) else afterFirst? part cs

/-- Whether a text occurs in another one. -/
def occursIn (part whole : String) : Bool :=
  (afterFirst? part.toList whole.toList).isSome

/-- The first of several texts that does not occur after the first occurrences of those before
it. -/
def firstMissing? : List String → List Char → Option String
  | [], _ => none
  | part :: parts, whole =>
    match afterFirst? part.toList whole with
    | some rest => firstMissing? parts rest
    | none => some part

end FieldRules.Text
