import FieldRules.Unicode.Recent

/-!
# `FieldRules.Text.Quoted` — texts in quotes, with escapes

A text is quoted so that every character of it can be seen. Quotes and backslashes are escaped, line
ends and tabs have short escapes, and what cannot be printed, or would join the character before it,
is written by its code point.

## Contents
- **`escapedChar`**, how a character is written.
- **`quoted`**, and **`quotedOption`** for a text that may be missing.
-/

namespace FieldRules.Text

open FieldRules.Unicode

/-- Hexadecimal digits of a number. -/
def hexDigits (n : Nat) : List Char :=
  Nat.toDigits 16 n

/-- A character inside of quotes. -/
def escapedChar (c : Char) : List Char :=
  if c = '\x00' then ['\\', '0']
  else if c = '\t' then ['\\', 't']
  else if c = '\r' then ['\\', 'r']
  else if c = '\n' then ['\\', 'n']
  else if c = '"' then ['\\', '"']
  else if c = '\\' then ['\\', '\\']
  else if isJoiningMark c || !isPrintable c then
    ['\\', 'u', '\x7b'] ++ hexDigits c.toNat ++ ['\x7d']
  else [c]

/-- A text in quotes. -/
def quoted (s : String) : String :=
  String.ofList ('"' :: s.toList.flatMap escapedChar ++ ['"'])

/-- A text in quotes that may be missing. -/
def quotedOption : Option String → String
  | some s => "Some(" ++ quoted s ++ ")"
  | none => "None"

end FieldRules.Text
