/-!
# `FieldRules.Yaml.Cursor` — places in a YAML text

## Contents
- **Character classes**: line ends, blanks, the letters of names, and the characters that a text may
  hold at all.
- **`Cursor`**, the rest of a text with the place that has been reached, and the steps it takes.
- **`Gap`**, the blanks and line ends between two words of a scalar, and how they are folded.
-/

namespace FieldRules.Yaml

/-! ## Characters -/

/-- The characters that end a line. -/
def isLineEnd (c : Char) : Bool :=
  c = '\n' || c = '\r' || c = '\u0085' || c = '\u2028' || c = '\u2029'

/-- The blanks inside of a line. -/
def isGap (c : Char) : Bool :=
  c = ' ' || c = '\t'

/-- Whether a word ends here: before a blank, before a line end, at the end of the text. -/
def endsWord (c? : Option Char) : Bool :=
  c?.all fun c => isGap c || isLineEnd c

/-- The characters of names. -/
def isNameChar (c : Char) : Bool :=
  c.isAlphanum || c = '-' || c = '_'

/-- The characters that a text may hold. -/
def isAdmitted (c : Char) : Bool :=
  let n := c.toNat
  n = 9 || n = 10 || n = 13 || (0x20 ≤ n && n ≤ 0x7E) || n = 0x85 || (0xA0 ≤ n && n ≤ 0xFFFD) ||
    0x10000 ≤ n

/-- The mark that may stand in front of a line. -/
def byteOrderMark : Char := '\uFEFF'

/-! ## Cursors -/

/-- The rest of a text and the place where it starts. Lines and columns are counted from nought. -/
structure Cursor where
  rest : List Char
  /-- The number of bytes before it. -/
  offset : Nat
  line : Nat
  column : Nat
  deriving DecidableEq, Repr

namespace Cursor

/-- The start of a text. -/
def start (text : List Char) : Cursor :=
  ⟨text, 0, 0, 0⟩

/-- The next character. -/
def peek? (c : Cursor) : Option Char :=
  c.rest.head?

/-- The character at a distance. -/
def peekAt? (c : Cursor) (distance : Nat) : Option Char :=
  c.rest[distance]?

/-- Whether the next character is a given one. -/
def sees (c : Cursor) (x : Char) : Bool :=
  c.peek? = some x

/-- Whether a line end comes next. -/
def atLineEnd (c : Cursor) : Bool :=
  c.peek?.any isLineEnd

/-- Passes over characters of a line. -/
def advance (c : Cursor) (count : Nat) : Cursor :=
  let offset := (c.rest.take count).foldl (fun n x => n + x.utf8Size) c.offset
  ⟨c.rest.drop count, offset, c.line, c.column + count⟩

/-- Takes the characters of a line that satisfy a test. -/
def takeWhile (c : Cursor) (test : Char → Bool) : List Char × Cursor :=
  let taken := c.rest.takeWhile test
  (taken, c.advance taken.length)

/-- Passes over the characters of a line that satisfy a test. -/
def skipWhile (c : Cursor) (test : Char → Bool) : Cursor :=
  (c.takeWhile test).2

/-- Takes a line end, if there is one, as the character that stands for it. -/
def takeLineEnd (c : Cursor) : List Char × Cursor :=
  match c.rest with
  | '\r' :: '\n' :: cs => (['\n'], ⟨cs, c.offset + 2, c.line + 1, 0⟩)
  | x :: cs =>
    if x = '\u2028' ∨ x = '\u2029' then ([x], ⟨cs, c.offset + x.utf8Size, c.line + 1, 0⟩)
    else if isLineEnd x then (['\n'], ⟨cs, c.offset + x.utf8Size, c.line + 1, 0⟩)
    else ([], c)
  | [] => ([], c)

/-- Passes over a line end, if there is one. -/
def skipLineEnd (c : Cursor) : Cursor :=
  c.takeLineEnd.2

/-- Passes over blanks and a comment up to the end of the line. There may be nothing else. -/
def skipRestOfLine? (c : Cursor) : Option Cursor :=
  let c := c.skipWhile isGap
  let c := if c.sees '#' then c.skipWhile fun x => !isLineEnd x else c
  if c.rest.isEmpty || c.atLineEnd then some c.skipLineEnd else none

/-- Whether three given characters stand at the start of a line and end a word. -/
def atMark (c : Cursor) (x : Char) : Bool :=
  c.column = 0 && [x, x, x].isPrefixOf c.rest && endsWord (c.peekAt? 3)

/-- Whether a document starts or ends here. -/
def atDocumentMark (c : Cursor) : Bool :=
  c.atMark '-' || c.atMark '.'

end Cursor

/-! ## Gaps -/

/-- What lies between two words of a scalar. -/
structure Gap where
  /-- Blanks, as long as there is no line end. -/
  blanks : List Char
  /-- Whether the line ends in between. -/
  broken : Bool
  /-- The first line end. -/
  first : List Char
  /-- The line ends after it. -/
  more : List Char
  deriving DecidableEq, Repr

namespace Gap

/-- Nothing in between. -/
def none : Gap := ⟨[], false, [], []⟩

/-- A line end that is escaped, which leaves no trace. -/
def escaped : Gap := ⟨[], true, [], []⟩

/-- What the gap stands for. One line end counts as a space; of several the first is dropped. -/
def folded (g : Gap) : List Char :=
  if g.broken then
    if g.first = ['\n'] then (if g.more.isEmpty then [' '] else g.more) else g.first ++ g.more
  else g.blanks

/-- Takes blanks and line ends. Left of `margin`, no line but the first may hold a tab. -/
def take? (margin : Nat) : Nat → Gap → Cursor → Option (Gap × Cursor)
  | 0, g, c => some (g, c)
  | fuel + 1, g, c =>
    match c.peek? with
    | .none => some (g, c)
    | some x =>
      if isGap x then
        if g.broken && c.column < margin && x = '\t' then Option.none
        else if g.broken then take? margin fuel g (c.advance 1)
        else take? margin fuel { g with blanks := g.blanks ++ [x] } (c.advance 1)
      else if isLineEnd x then
        let (ends, c) := c.takeLineEnd
        if g.broken then take? margin fuel { g with more := g.more ++ ends } c
        else take? margin fuel ⟨[], true, ends, []⟩ c
      else some (g, c)

end Gap

end FieldRules.Yaml
