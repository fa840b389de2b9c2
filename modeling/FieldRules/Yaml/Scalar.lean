import FieldRules.Json.Text
import FieldRules.Yaml.Cursor

/-!
# `FieldRules.Yaml.Scalar` — the scalars of YAML texts

## Contents
- **`Style`**, the five ways to write a scalar.
- **`takePlain?`**, words without quotes, which may go on over several lines.
- **`takeQuoted?`**, text between single or double quotes, the latter with escapes.
- **`takeBlock?`**, indented lines after an indicator, folded or as they are.

All readers take fuel, which the length of the text bounds.
-/

namespace FieldRules.Yaml

/-- How a scalar is written. -/
inductive Style where
  | plain
  | singleQuoted
  | doubleQuoted
  /-- Lines as they are. -/
  | literal
  /-- Lines that are joined. -/
  | folded
  deriving DecidableEq, Repr

/-! ## Plain scalars -/

/-- The characters that part the items of flow collections. -/
def isFlowIndicator (c : Char) : Bool :=
  c = ',' || c = '[' || c = ']' || c = '\x7b' || c = '\x7d'

/-- Takes a word. A colon ends it before a blank; in flow collections so do indicators, and a colon
right before an indicator is an error. -/
def takeWord? (flow : Bool) : List Char → Option (List Char)
  | [] => some []
  | c :: cs =>
    if isGap c || isLineEnd c then some []
    else if flow && c = ':' && cs.head?.any (fun x => isFlowIndicator x || x = '?') then none
    else if (c = ':' && endsWord cs.head?) || (flow && isFlowIndicator c) then some []
    else (takeWord? flow cs).map (c :: ·)

/-- Takes words with the gaps between them, given the gap before the next word. The result says
whether the scalar was followed by a line end. -/
def takeWords? (flow : Bool) (margin : Nat) : Nat → Gap → Cursor →
    Option (List Char × Bool × Cursor)
  | 0, gap, c => some ([], gap.broken, c)
  | fuel + 1, gap, c =>
    if c.atDocumentMark || c.sees '#' then some ([], gap.broken, c)
    else do
      let word ← takeWord? flow c.rest
      let c := c.advance word.length
      let (text, gap) := if word.isEmpty then ([], gap) else (gap.folded ++ word, Gap.none)
      if c.peek?.any fun x => isGap x || isLineEnd x then
        let (gap, c) ← gap.take? margin c.rest.length c
        if !flow && c.column < margin then return (text, gap.broken, c)
        let (more, broken, c) ← takeWords? flow margin fuel gap c
        return (text ++ more, broken, c)
      else return (text, gap.broken, c)

/-- Takes a plain scalar whose lines have to stand right of `indent`. -/
def takePlain? (flow : Bool) (indent : Int) (c : Cursor) : Option (List Char × Bool × Cursor) :=
  takeWords? flow (indent + 1).toNat (c.rest.length + 1) .none c

/-! ## Quoted scalars -/

/-- The character of an escape of one letter. -/
def escapedChar? (c : Char) : Option Char :=
  [('0', '\x00'), ('a', '\x07'), ('b', '\x08'), ('t', '\t'), ('\t', '\t'), ('n', '\n'),
    ('v', '\x0b'), ('f', '\x0c'), ('r', '\r'), ('e', '\x1b'), (' ', ' '), ('"', '"'), ('/', '/'),
    ('\\', '\\'), ('N', '\u0085'), ('_', '\u00a0'), ('L', '\u2028'), ('P', '\u2029')].lookup c

/-- The number of hexadecimal digits after a letter of an escape. -/
def escapeWidth? (c : Char) : Option Nat :=
  [('x', 2), ('u', 4), ('U', 8)].lookup c

/-- Takes the character of an escape after its backslash. -/
def takeEscape? (c : Cursor) : Option (Char × Cursor) := do
  let letter ← c.peek?
  let c := c.advance 1
  match escapeWidth? letter with
  | some width =>
    let digits ← (c.rest.take width).mapM Json.hexDigit?
    let n := digits.foldl (fun n d => 16 * n + d) 0
    if digits.length = width ∧ n.isValidChar then return (Char.ofNat n, c.advance width)
    none
  | none => return (← escapedChar? letter, c)

/-- Takes the characters of a quoted scalar up to a blank, a line end or the closing quote. The
result says whether an escaped line end was passed over. -/
def takeQuotedWord? (double : Bool) : Nat → Cursor → Option (List Char × Bool × Cursor)
  | 0, c => some ([], false, c)
  | fuel + 1, c =>
    match c.rest with
    | [] => some ([], false, c)
    | x :: rest =>
      if isGap x || isLineEnd x then some ([], false, c)
      else if !double && x = '\'' then
        if rest.head? = some '\'' then do
          let (xs, broken, c) ← takeQuotedWord? double fuel (c.advance 2)
          return (x :: xs, broken, c)
        else some ([], false, c)
      else if double && x = '"' then some ([], false, c)
      else if double && x = '\\' then
        if rest.head?.any isLineEnd then some ([], true, (c.advance 1).skipLineEnd)
        else do
          let (y, c) ← takeEscape? (c.advance 1)
          let (xs, broken, c) ← takeQuotedWord? double fuel c
          return (y :: xs, broken, c)
      else do
        let (xs, broken, c) ← takeQuotedWord? double fuel (c.advance 1)
        return (x :: xs, broken, c)

/-- Takes a quoted scalar after its opening quote. -/
def takeQuotedRest? (double : Bool) : Nat → Cursor → Option (List Char × Cursor)
  | 0, _ => none
  | fuel + 1, c =>
    if c.atDocumentMark || c.rest.isEmpty then none
    else do
      let (word, broken, c) ← takeQuotedWord? double (c.rest.length + 1) c
      if c.sees (if double then '"' else '\'') then return (word, c.advance 1)
      let (gap, c) ← (if broken then Gap.escaped else Gap.none).take? 0 c.rest.length c
      let (more, c) ← takeQuotedRest? double fuel c
      return (word ++ gap.folded ++ more, c)

/-- Takes a quoted scalar. -/
def takeQuoted? (double : Bool) (c : Cursor) : Option (List Char × Cursor) :=
  takeQuotedRest? double (c.rest.length + 1) (c.advance 1)

/-! ## Block scalars -/

/-- What becomes of the line ends after a block scalar. -/
inductive Chomping where
  /-- All are dropped. -/
  | strip
  /-- The first is kept. -/
  | clip
  /-- All are kept. -/
  | keep
  deriving DecidableEq, Repr

/-- The chomping that an indicator asks for. -/
def Chomping.ofChar? (c : Char) : Option Chomping :=
  if c = '+' then some .keep else if c = '-' then some .strip else none

/-- Takes the digit that gives the indentation, if there is one. It must not be nought. -/
def takeIndentDigit? (c : Cursor) : Option (Nat × Cursor) :=
  match c.peek? with
  | some x =>
    if x = '0' then none
    else if x.isDigit then some (x.toNat - '0'.toNat, c.advance 1)
    else some (0, c)
  | none => some (0, c)

/-- Takes the chomping indicator, if there is one. -/
def takeChomping (c : Cursor) : Chomping × Cursor :=
  match c.peek?.bind Chomping.ofChar? with
  | some chomping => (chomping, c.advance 1)
  | none => (.clip, c)

/-- Takes both indicators, in either order. -/
def takeIndicators? (c : Cursor) : Option (Chomping × Nat × Cursor) :=
  if (c.peek?.bind Chomping.ofChar?).isSome then do
    let (chomping, c) := takeChomping c
    let (digit, c) ← takeIndentDigit? c
    return (chomping, digit, c)
  else do
    let (digit, c) ← takeIndentDigit? c
    let (chomping, c) := if digit = 0 then (.clip, c) else takeChomping c
    return (chomping, digit, c)

/-- Takes empty lines and the indentation after them. With no indentation known, the widest one
counts; the result holds the line ends, the widest column and the place that was reached. A tab may
not stand where indentation is expected. -/
def takeEmptyLines? (indent : Nat) : Nat → Nat → Cursor → Option (List Char × Nat × Cursor)
  | 0, widest, c => some ([], widest, c)
  | fuel + 1, widest, c =>
    let spaces := c.rest.takeWhile (· = ' ')
    let room := if indent = 0 then spaces.length else min spaces.length (indent - c.column)
    let c := c.advance room
    let widest := max widest c.column
    if (indent = 0 || c.column < indent) && c.sees '\t' then none
    else if c.atLineEnd then do
      let (ends, c) := c.takeLineEnd
      let (more, widest, c) ← takeEmptyLines? indent fuel widest c
      return (ends ++ more, widest, c)
    else some ([], widest, c)

/-- What is left of the lines of a block scalar after its last line. -/
structure BlockEnd where
  /-- The end of the last line. -/
  last : List Char
  /-- The ends of the empty lines after it. -/
  empty : List Char
  deriving DecidableEq, Repr

/-- Takes the lines of a block scalar, each in the given column. `before` holds the line ends since
the last line, and `indented` says whether that line starts with a blank. Folding replaces a single
line end between two lines that do not by a space. -/
def takeLines? (keepLines : Bool) (indent : Nat) : Nat → BlockEnd → Bool → Cursor →
    Option (List Char × BlockEnd × Cursor)
  | 0, before, _, c => some ([], before, c)
  | fuel + 1, before, indented, c =>
    if c.column ≠ indent || c.rest.isEmpty then some ([], before, c)
    else do
      let blank := c.peek?.any isGap
      let joint :=
        if !keepLines && before.last.head? = some '\n' && !indented && !blank then
          (if before.empty.isEmpty then [' '] else before.empty)
        else before.last ++ before.empty
      let (line, c) := c.takeWhile fun x => !isLineEnd x
      let (last, c) := c.takeLineEnd
      let (empty, _, c) ← takeEmptyLines? indent (c.rest.length + 1) 0 c
      let (more, after, c) ← takeLines? keepLines indent fuel ⟨last, empty⟩ blank c
      return (joint ++ line ++ more, after, c)

/-- Takes a block scalar inside of a block that is indented by `outer`. -/
def takeBlock? (keepLines : Bool) (outer : Int) (c : Cursor) : Option (List Char × Cursor) := do
  let (chomping, digit, c) ← takeIndicators? (c.advance 1)
  let c ← c.skipRestOfLine?
  let known := if digit = 0 then 0 else (max outer 0).toNat + digit
  let (empty, widest, c) ← takeEmptyLines? known (c.rest.length + 1) 0 c
  let indent := if known = 0 then max (max widest (outer + 1).toNat) 1 else known
  let (text, after, c) ← takeLines? keepLines indent (c.rest.length + 1) ⟨[], empty⟩ false c
  let tail := match chomping with
    | .strip => []
    | .clip => after.last
    | .keep => after.last ++ after.empty
  return (text ++ tail, c)

end FieldRules.Yaml
