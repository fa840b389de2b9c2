import FieldRules.Json.Number

/-!
# `FieldRules.Json.Text` — JSON values as text

## Contents
- **Reading.** `Json.read?` takes one value with blanks around it and nothing else. All readers take
  fuel, which the length of the text bounds, and return what is left.
- **Writing.** `Json.chars` and `Json.written`, without blanks.
-/

namespace FieldRules.Json

open Number

/-! ## Blanks and words -/

/-- The blanks of JSON. -/
def isSpace (c : Char) : Bool :=
  c = ' ' || c = '\n' || c = '\t' || c = '\r'

/-- Drops blanks. -/
def skipSpace (cs : List Char) : List Char :=
  cs.dropWhile isSpace

/-- Takes a given word. -/
def takeWord? (word cs : List Char) : Option (List Char) :=
  if word.isPrefixOf cs then some (cs.drop word.length) else none

/-! ## Strings -/

/-- The value of a hexadecimal digit. -/
def hexDigit? (c : Char) : Option Nat :=
  if c.isDigit then some (c.toNat - '0'.toNat)
  else if 'a' ≤ c ∧ c ≤ 'f' then some (c.toNat - 'a'.toNat + 10)
  else if 'A' ≤ c ∧ c ≤ 'F' then some (c.toNat - 'A'.toNat + 10)
  else none

/-- Takes four hexadecimal digits. -/
def takeUnit? : List Char → Option (Nat × List Char)
  | a :: b :: c :: d :: cs => do
    let high := (← hexDigit? a) * 16 + (← hexDigit? b)
    let low := (← hexDigit? c) * 16 + (← hexDigit? d)
    return (high * 256 + low, cs)
  | _ => none

/-- Takes the units of one character after the mark of a Unicode escape: one that stands for itself,
or a high and a low surrogate with another mark in between. -/
def takeEscapedChar? (cs : List Char) : Option (Char × List Char) := do
  let (high, cs) ← takeUnit? cs
  if 0xD800 ≤ high ∧ high < 0xDC00 then
    match cs with
    | '\\' :: 'u' :: cs => do
      let (low, cs) ← takeUnit? cs
      if 0xDC00 ≤ low ∧ low < 0xE000 then
        return (Char.ofNat (0x10000 + (high - 0xD800) * 0x400 + (low - 0xDC00)), cs)
      none
    | _ => none
  else if 0xDC00 ≤ high ∧ high < 0xE000 then none
  else return (Char.ofNat high, cs)

/-- The character of an escape of one letter. -/
def escaped? (c : Char) : Option Char :=
  [('"', '"'), ('\\', '\\'), ('/', '/'), ('b', '\x08'), ('f', '\x0c'), ('n', '\n'), ('r', '\r'),
    ('t', '\t')].lookup c

/-- Takes a string up to its closing quote. -/
def takeString? : Nat → List Char → Option (List Char × List Char)
  | 0, _ => none
  | _ + 1, [] => none
  | fuel + 1, c :: cs =>
    if c = '"' then some ([], cs)
    else if c = '\\' then
      match cs with
      | [] => none
      | e :: cs => do
        let (x, cs) ← if e = 'u' then takeEscapedChar? cs else (escaped? e).map fun x => (x, cs)
        let (xs, cs) ← takeString? fuel cs
        return (x :: xs, cs)
    else if c.toNat < 0x20 then none
    else do
      let (xs, cs) ← takeString? fuel cs
      return (c :: xs, cs)

/-! ## Values -/

mutual

/-- Takes a value. -/
def takeValue? : Nat → List Char → Option (Json × List Char)
  | 0, _ => none
  | fuel + 1, cs =>
    match skipSpace cs with
    | [] => none
    | c :: rest =>
      if c = '"' then (takeString? fuel rest).map fun (s, cs) => (.text (String.ofList s), cs)
      else if c = '[' then
        match skipSpace rest with
        | ']' :: cs => some (.list [], cs)
        | cs => (takeItems? fuel cs).map fun (items, cs) => (.list items, cs)
      else if c = '\x7b' then
        match skipSpace rest with
        | '\x7d' :: cs => some (.record [], cs)
        | cs => (takeEntries? fuel cs).map fun (entries, cs) => (.record entries, cs)
      else if c = 'n' then (takeWord? "ull".toList rest).map fun cs => (.null, cs)
      else if c = 't' then (takeWord? "rue".toList rest).map fun cs => (.bool true, cs)
      else if c = 'f' then (takeWord? "alse".toList rest).map fun cs => (.bool false, cs)
      else do
        let (n, cs) ← takeNumeral? (c :: rest)
        return (← n.json?, cs)

/-- Takes the items of a list up to its closing bracket. -/
def takeItems? : Nat → List Char → Option (List Json × List Char)
  | 0, _ => none
  | fuel + 1, cs => do
    let (j, cs) ← takeValue? fuel cs
    match skipSpace cs with
    | ']' :: cs => return ([j], cs)
    | ',' :: cs => do
      let (js, cs) ← takeItems? fuel cs
      return (j :: js, cs)
    | _ => none

/-- Takes the entries of a record up to its closing brace. -/
def takeEntries? : Nat → List Char → Option (List (String × Json) × List Char)
  | 0, _ => none
  | fuel + 1, cs =>
    match skipSpace cs with
    | '"' :: cs => do
      let (key, cs) ← takeString? fuel cs
      match skipSpace cs with
      | ':' :: cs => do
        let (j, cs) ← takeValue? fuel cs
        let entry := (String.ofList key, j)
        match skipSpace cs with
        | '\x7d' :: cs => return ([entry], cs)
        | ',' :: cs => do
          let (entries, cs) ← takeEntries? fuel cs
          return (entry :: entries, cs)
        | _ => none
      | _ => none
    | _ => none

end

/-- Reads a text that holds one value. -/
def read? (text : String) : Option Json := do
  let cs := text.toList
  let (j, rest) ← takeValue? (2 * cs.length + 2) cs
  if (skipSpace rest).isEmpty then some j else none

/-! ## Writing -/

/-- A hexadecimal digit. -/
def hexChar (n : Nat) : Char :=
  if n < 10 then Char.ofNat ('0'.toNat + n) else Char.ofNat ('a'.toNat + n - 10)

/-- A character inside of quotes. -/
def quotedChar (c : Char) : List Char :=
  if c = '"' then ['\\', '"']
  else if c = '\\' then ['\\', '\\']
  else if c = '\n' then ['\\', 'n']
  else if c.toNat < 0x20 then ['\\', 'u', '0', '0', hexChar (c.toNat / 16), hexChar (c.toNat % 16)]
  else [c]

/-- A text between quotes. -/
def quoted (s : String) : List Char :=
  '"' :: s.toList.flatMap quotedChar ++ ['"']

mutual

/-- The value as text. Numbers that are not whole are written as strings. -/
def chars : Json → List Char
  | .null => "null".toList
  | .bool b => (Value.boolText b).toList
  | .int n => ofInt n
  | .float x => quoted x.text
  | .text s => quoted s
  | .list items => '[' :: (itemChars items ++ [']'])
  | .record entries => '\x7b' :: (entryChars entries ++ ['\x7d'])

/-- Items with commas in between. -/
def itemChars : List Json → List Char
  | [] => []
  | [j] => chars j
  | j :: js => chars j ++ ',' :: itemChars js

/-- Entries with commas in between. -/
def entryChars : List (String × Json) → List Char
  | [] => []
  | [(key, j)] => quoted key ++ ':' :: chars j
  | (key, j) :: es => quoted key ++ ':' :: (chars j ++ ',' :: entryChars es)

end

/-- The value as a string. -/
def written (j : Json) : String :=
  String.ofList j.chars

end FieldRules.Json
