import FieldRules.Number.Numeral
import FieldRules.Pattern.Ast
import FieldRules.Text.Blank
import FieldRules.Unicode.Recent

/-!
# `FieldRules.Pattern.Parse` — reading patterns

A pattern is read from left to right with a stack of the groups and alternations that are open. The
reader of a bracketed class keeps a stack of its own. Every loop takes fuel, which its caller sets
to the length of the text, because every turn consumes a character.

## Contents
- **Blanks.** `skip` passes over blanks and comments where the flag `x` is on.
- **Escapes, repetitions, groups, classes**, each a function from the text to a result and the text
  that is left.
- **`parse`**, the whole pattern.
-/

namespace FieldRules.Pattern

open FieldRules.Number FieldRules.Text FieldRules.Unicode

/-! ## Blanks and comments -/

mutual

/-- Passes over blanks and comments. -/
def skipBlanks : List Char → List Char
  | [] => []
  | c :: cs => if isBlank c then skipBlanks cs else if c = '#' then skipComment cs else c :: cs

/-- Passes over the rest of a comment, its line end included. -/
def skipComment : List Char → List Char
  | [] => []
  | c :: cs => if c = '\n' then skipBlanks cs else skipComment cs

end

/-- Passes over what carries no meaning. -/
def skip (verbose : Bool) (cs : List Char) : List Char :=
  if verbose then skipBlanks cs else cs

/-- Drops one character and what carries no meaning after it. -/
def advance (verbose : Bool) (cs : List Char) : List Char :=
  skip verbose (cs.drop 1)

/-! ## Escapes -/

/-- The characters that mean themselves only after a backslash. -/
def isMeta (c : Char) : Bool :=
  "\\.+*?()|[]\x7b\x7d^$#&-~".toList.contains c

/-- The characters that a backslash leaves as they are. -/
def isEscapable (c : Char) : Bool :=
  isMeta c || (c.toNat < 0x80 && !c.isAlphanum && c != '<' && c != '>')

/-- Whether a character is a hexadecimal digit. -/
def isHex (c : Char) : Bool :=
  c.isDigit || ('a' ≤ c && c ≤ 'f') || ('A' ≤ c && c ≤ 'F')

/-- The character with the code point that hexadecimal digits denote. -/
def charOfHex? (ds : List Char) : Option Char :=
  let n := hexValue ds
  if n.isValidChar then some (Char.ofNat n) else none

/-- Exactly `count` hexadecimal digits. -/
def takeHexDigits (verbose : Bool) : Nat → List Char → Except Fault (List Char × List Char)
  | 0, cs => .ok ([], cs)
  | count + 1, c :: cs =>
    if isHex c then do
      let (ds, cs) ← takeHexDigits verbose count (skip verbose cs)
      return (c :: ds, cs)
    else .error .hexadecimal
  | _ + 1, [] => .error .escape

/-- Characters up to a closing brace. -/
def takeBraced (verbose : Bool) : Nat → List Char → Except Fault (List Char × List Char)
  | 0, _ => .error .escape
  | _ + 1, [] => .error .escape
  | fuel + 1, c :: cs =>
    if c = '\x7d' then .ok ([], cs)
    else do
      let (inner, cs) ← takeBraced verbose fuel (skip verbose cs)
      return (c :: inner, cs)

/-- A hexadecimal escape after its letter, with the number of digits that the letter asks for. -/
def takeHex (verbose : Bool) (width : Nat) (cs : List Char) : Except Fault (Literal × List Char) :=
  match skip verbose cs with
  | '\x7b' :: cs => do
    let (ds, cs) ← takeBraced verbose (cs.length + 1) (skip verbose cs)
    if !ds.all isHex || ds.isEmpty then .error .hexadecimal
    else
      match charOfHex? ds with
      | some c => return (⟨c, false⟩, skip verbose cs)
      | none => .error .hexadecimal
  | cs => do
    let (ds, cs) ← takeHexDigits verbose width cs
    match charOfHex? ds with
    | some c => return (⟨c, width = 2⟩, cs)
    | none => .error .hexadecimal

/-- The first place where a text begins with a mark, as what stands before and after it. -/
def splitAt? (mark : List Char) : List Char → Option (List Char × List Char)
  | [] => none
  | c :: cs =>
    if mark.isPrefixOf (c :: cs) then some ([], (c :: cs).drop mark.length)
    else (splitAt? mark cs).map fun (before, after) => (c :: before, after)

/-- The property that the text between braces names, and whether it is negated there. A value after
`!=` is one that the characters do not have; under an escape that is negated itself, the two
negations cancel. -/
def property? (text : List Char) : Option (Bool × Property) :=
  match splitAt? ['!', '='] text with
  | some (name, value) => (Property.ofNameValue? name value).map fun p => (true, p)
  | none =>
    match (splitAt? [':'] text).or (splitAt? ['='] text) with
    | some (name, value) => (Property.ofNameValue? name value).map fun p => (false, p)
    | none => (Property.ofName? text).map fun p => (false, p)

/-- A property escape after its letter. -/
def takeProperty (verbose negated : Bool) (cs : List Char) :
    Except Fault ((Bool × Property) × List Char) :=
  match skip verbose cs with
  | [] => .error .escape
  | '\x7b' :: cs => do
    let (text, cs) ← takeBraced verbose (cs.length + 1) (skip verbose cs)
    match property? text with
    | some (inner, p) => return ((negated != inner, p), cs)
    | none => .error .unknownProperty
  | c :: cs =>
    if c = '\\' then .error .escape
    else
      match Property.ofName? [c] with
      | some p => .ok ((negated, p), skip verbose cs)
      | none => .error .unknownProperty

/-- What an escape can stand for. -/
inductive Escape where
  | literal (l : Literal)
  | property (negated : Bool) (p : Property)
  | shorthand (negated : Bool) (s : Shorthand)
  | anchor (a : Anchor)

/-- The escape as a pattern. -/
def Escape.toAst : Escape → Ast
  | .literal l => .literal l
  | .property negated p => .property negated p
  | .shorthand negated s => .shorthand negated s
  | .anchor a => .anchor a

/-- The letters and the hyphen of the name of a word boundary. -/
def takeEdgeName (verbose : Bool) : Nat → List Char → List Char × List Char
  | 0, cs => ([], cs)
  | _ + 1, [] => ([], [])
  | fuel + 1, c :: cs =>
    if isEdgeChar c then
      let (name, cs) := takeEdgeName verbose fuel (skip verbose cs)
      (c :: name, cs)
    else ([], c :: cs)
where
  /-- The characters of such a name. -/
  isEdgeChar (c : Char) : Bool := c.isAlpha || c = '-'

/-- The kind of word boundary in braces after `\b`. Braces that do not begin with a letter or a
hyphen are a repetition and are left alone. -/
def takeWordEdge (verbose : Bool) (cs : List Char) : Except Fault (WordEdge × List Char) :=
  match cs with
  | '\x7b' :: rest =>
    match skip verbose rest with
    | [] => .error .escape
    | c :: cs' =>
      if !takeEdgeName.isEdgeChar c then .ok (.boundary, cs)
      else
        match takeEdgeName verbose (cs'.length + 1) (c :: cs') with
        | (name, '\x7d' :: cs) =>
          match [("start", WordEdge.start), ("end", .finish), ("start-half", .startHalf),
              ("end-half", .finishHalf)].lookup (String.ofList name) with
          | some edge => .ok (edge, cs)
          | none => .error .escape
        | _ => .error .escape
  | cs => .ok (.boundary, cs)

/-- The control characters with a letter of their own. -/
def controlChar? (c : Char) : Option Char :=
  [('a', '\x07'), ('f', '\x0c'), ('t', '\t'), ('n', '\n'), ('r', '\r'), ('v', '\x0b')].lookup c

/-- An escape after its backslash. -/
def takeEscape (verbose : Bool) : List Char → Except Fault (Escape × List Char)
  | [] => .error .escape
  | c :: cs =>
    let ok (e : Escape) : Except Fault (Escape × List Char) := .ok (e, cs)
    match c with
    | 'x' => (takeHex verbose 2 cs).map fun (l, cs) => (.literal l, cs)
    | 'u' => (takeHex verbose 4 cs).map fun (l, cs) => (.literal l, cs)
    | 'U' => (takeHex verbose 8 cs).map fun (l, cs) => (.literal l, cs)
    | 'p' => (takeProperty verbose false cs).map fun ((n, p), cs) => (.property n p, cs)
    | 'P' => (takeProperty verbose true cs).map fun ((n, p), cs) => (.property n p, cs)
    | 'd' => ok (.shorthand false .digit)
    | 's' => ok (.shorthand false .space)
    | 'w' => ok (.shorthand false .word)
    | 'D' => ok (.shorthand true .digit)
    | 'S' => ok (.shorthand true .space)
    | 'W' => ok (.shorthand true .word)
    | 'A' => ok (.anchor .textStart)
    | 'z' => ok (.anchor .textEnd)
    | 'b' => (takeWordEdge verbose cs).map fun (edge, cs) => (.anchor (.word edge), cs)
    | 'B' => ok (.anchor (.word .noBoundary))
    | '<' => ok (.anchor (.word .start))
    | '>' => ok (.anchor (.word .finish))
    | c =>
      match controlChar? c with
      | some control => ok (.literal ⟨control, false⟩)
      | none => if isEscapable c then ok (.literal ⟨c, false⟩) else .error .escape

/-! ## Bracketed classes -/

/-- A class that is open: the items before it and whether it is negated; or a set operator that
waits for its right-hand side. -/
inductive ClassFrame where
  | opened (before : List ClassItem) (negated : Bool)
  | operator (op : SetOperator) (lhs : ClassSet)

/-- The set of items collected so far, joined with an operator that waits. Items are collected in
reverse. -/
def closeOperator (items : List ClassItem) : List ClassFrame → ClassSet × List ClassFrame
  | .operator op lhs :: stack => (.binary op lhs (.item (.ofItems items.reverse)), stack)
  | stack => (.item (.ofItems items.reverse), stack)

/-- Hyphens at the start of a class stand for themselves, and so does a closing bracket there. -/
def takeClassHead (verbose : Bool) :
    Nat → List ClassItem → List Char → Except Fault (List ClassItem × List Char)
  | 0, _, _ => .error .unclosedClass
  | _ + 1, _, [] => .error .unclosedClass
  | fuel + 1, items, c :: cs =>
    if c = '-' then
      takeClassHead verbose fuel (.literal ⟨'-', false⟩ :: items) (skip verbose cs)
    else if items.isEmpty && c == ']' then
      match skip verbose cs with
      | [] => .error .unclosedClass
      | cs => .ok ([.literal ⟨']', false⟩], cs)
    else .ok (items, c :: cs)

/-- The start of a class after its bracket: whether it is negated, and its first items. -/
def openClass (verbose : Bool) (cs : List Char) :
    Except Fault ((Bool × List ClassItem) × List Char) :=
  match skip verbose cs with
  | [] => .error .unclosedClass
  | '^' :: cs => do
    let (items, cs) ← takeClassHead verbose (cs.length + 1) [] (skip verbose cs)
    return ((true, items), cs)
  | cs => do
    let (items, cs) ← takeClassHead verbose (cs.length + 1) [] cs
    return ((false, items), cs)

/-- The name of an ASCII class after `[`, if one stands there. -/
def takeAsciiClass? (cs : List Char) : Option ((Bool × AsciiClass) × List Char) :=
  match cs with
  | ':' :: cs =>
    let (negated, cs) := match cs with
      | '^' :: cs => (true, cs)
      | cs => (false, cs)
    match cs.dropWhile (· != ':') with
    | ':' :: ']' :: rest =>
      (AsciiClass.ofName? (cs.takeWhile (· != ':'))).map fun cls => ((negated, cls), rest)
    | _ => none
  | _ => none

/-- An item of a class that may start a range. -/
def takeClassAtom (verbose : Bool) : List Char → Except Fault (Escape × List Char)
  | '\\' :: cs => takeEscape verbose cs
  | c :: cs => .ok (.literal ⟨c, false⟩, cs)
  | [] => .error .unclosedClass

/-- An atom as an item; anchors are no characters. -/
def Escape.toItem : Escape → Except Fault ClassItem
  | .literal l => .ok (.literal l)
  | .property negated p => .ok (.property negated p)
  | .shorthand negated s => .ok (.shorthand negated s)
  | .anchor _ => .error .classEscape

/-- An atom as an end of a range, which has to be a character. -/
def Escape.toLiteral : Escape → Except Fault Literal
  | .literal l => .ok l
  | _ => .error .classRange

/-- The character after a hyphen that decides whether the hyphen makes a range. Where blanks carry
no meaning it is looked for past blanks and past the sign that begins a comment, but the comment is
not passed over: its first character decides. If nothing else is left, whatever follows decides. -/
def afterHyphen? (verbose : Bool) (cs : List Char) : Option Char :=
  if !verbose then cs.head?
  else
    let rest := match cs.dropWhile isBlank with
      | '#' :: comment => comment.dropWhile isBlank
      | rest => rest
    rest.head?.or cs.head?

/-- A range or a single item. A hyphen makes no range before a closing bracket or another hyphen. -/
def takeClassItem (verbose : Bool) (cs : List Char) : Except Fault (ClassItem × List Char) := do
  let (first, cs) ← takeClassAtom verbose cs
  match skip verbose cs with
  | [] => .error .unclosedClass
  | '-' :: cs =>
    let decider := afterHyphen? verbose cs
    if decider = some ']' ∨ decider = some '-' then return (← first.toItem, '-' :: cs)
    else do
      let (last, cs) ← takeClassAtom verbose (skip verbose cs)
      let lo ← first.toLiteral
      let hi ← last.toLiteral
      if lo.char ≤ hi.char then return (.range lo hi, cs) else .error .classRange
  | cs => return (← first.toItem, cs)

/-- The set operator that two equal characters stand for. -/
def setOperator? : List Char → Option (SetOperator × List Char)
  | '&' :: '&' :: cs => some (.intersection, cs)
  | '-' :: '-' :: cs => some (.difference, cs)
  | '~' :: '~' :: cs => some (.symmetricDifference, cs)
  | _ => none

/-- The rest of a class, up to the bracket that closes the outermost one. -/
def takeClassRest (verbose : Bool) :
    Nat → List ClassFrame → List ClassItem → List Char →
      Except Fault ((Bool × ClassSet) × List Char)
  | 0, _, _, _ => .error .unclosedClass
  | fuel + 1, stack, items, cs =>
    match skip verbose cs with
    | [] => .error .unclosedClass
    | '[' :: cs =>
      match takeAsciiClass? cs with
      | some ((negated, cls), cs) =>
        takeClassRest verbose fuel stack (.ascii negated cls :: items) cs
      | none => do
        let ((negated, first), cs) ← openClass verbose cs
        takeClassRest verbose fuel (.opened items negated :: stack) first cs
    | ']' :: cs =>
      match closeOperator items stack with
      | (set, [.opened _ negated]) => .ok ((negated, set), cs)
      | (set, .opened before negated :: stack) =>
        takeClassRest verbose fuel stack (.bracketed negated set :: before) cs
      | _ => .error .unclosedClass
    | cs =>
      match setOperator? cs with
      | some (op, cs) =>
        let (lhs, stack) := closeOperator items stack
        takeClassRest verbose fuel (.operator op lhs :: stack) [] cs
      | none => do
        let (item, cs) ← takeClassItem verbose cs
        takeClassRest verbose fuel stack (item :: items) cs

/-- A bracketed class after its bracket. -/
def takeClass (verbose : Bool) (cs : List Char) : Except Fault ((Bool × ClassSet) × List Char) := do
  let ((negated, first), cs) ← openClass verbose cs
  takeClassRest verbose (cs.length + 1) [.opened [] negated] first cs

/-! ## Repetitions -/

/-- Digits, passing over what carries no meaning between them. -/
def takeCountDigits (verbose : Bool) : Nat → List Char → List Char × List Char
  | 0, cs => ([], cs)
  | _ + 1, [] => ([], [])
  | fuel + 1, c :: cs =>
    if c.isDigit then
      let (ds, cs) := takeCountDigits verbose fuel (skip verbose cs)
      (c :: ds, cs)
    else ([], c :: cs)

/-- A count of at most 32 bits with blanks around it, or `none` where no digit stands. -/
def takeCount (verbose : Bool) (cs : List Char) : Except Fault (Option Nat × List Char) :=
  let (ds, cs) := takeCountDigits verbose (cs.length + 1) (cs.dropWhile isBlank)
  let cs := skip verbose (cs.dropWhile isBlank)
  if ds.isEmpty then .ok (none, cs)
  else if value ds < 0x100000000 then .ok (some (value ds), cs)
  else .error .repetition

/-- The counts of a repetition after the opening brace: the least one and, unless there is no
limit, the greatest one. -/
def takeCounts (verbose : Bool) (cs : List Char) :
    Except Fault ((Nat × Option Nat) × List Char) := do
  match skip verbose cs with
  | [] => .error .repetition
  | cs =>
    let (least, cs) ← takeCount verbose cs
    match least, cs with
    | some least, '\x7d' :: cs => return ((least, some least), cs)
    | some least, ',' :: cs =>
      match skip verbose cs with
      | '\x7d' :: cs => return ((least, none), cs)
      | cs =>
        let (most, cs) ← takeCount verbose cs
        match most, cs with
        | some most, '\x7d' :: cs =>
          if least ≤ most then return ((least, some most), cs) else .error .repetition
        | _, _ => .error .repetition
    | _, _ => .error .repetition

/-- Whether a repetition prefers many over few: a question mark after it says that it does not. -/
def takeGreed : List Char → Bool × List Char
  | '?' :: cs => (false, cs)
  | cs => (true, cs)

/-- Repeats the last part. Flags and an empty row of parts cannot be repeated. -/
def repeatLast (least : Nat) (most : Option Nat) (greedy : Bool) :
    List Ast → Except Fault (List Ast)
  | [] => .error .nothingToRepeat
  | .empty :: _ => .error .nothingToRepeat
  | .flags _ :: _ => .error .nothingToRepeat
  | a :: parts => .ok (.repetition least most greedy a :: parts)

/-! ## Groups -/

/-- Flags up to a colon or a closing parenthesis, which is left. `on` is what flags are set to from
here, `dangling` says that a minus sign came last. -/
def takeFlags (on dangling : Bool) (flags : FlagSet) :
    List Char → Except Fault (FlagSet × List Char)
  | [] => .error .flags
  | c :: cs =>
    if c = ':' ∨ c = ')' then
      if dangling then .error .flags else .ok (flags.reverse, c :: cs)
    else if c = '-' then
      if on then takeFlags false true flags cs else .error .flags
    else
      match Flag.ofChar? c with
      | none => .error .flags
      | some flag =>
        if flags.any fun (f, _) => f = flag then .error .flags
        else takeFlags on false ((flag, on) :: flags) cs

/-- The name of a group, up to the angle bracket that closes it. -/
def takeName (cs : List Char) : Except Fault (List Char × List Char) :=
  let name := cs.takeWhile (· != '>')
  match cs.dropWhile (· != '>') with
  | [] => .error .groupName
  | _ :: rest =>
    match name with
    | [] => .error .groupName
    | c :: more =>
      if (c = '_' || isAlphabetic c) && more.all isNameChar then .ok (name, rest)
      else .error .groupName
where
  /-- The characters after the first one of a name. -/
  isNameChar (c : Char) : Bool :=
    c = '_' || c = '.' || c = '[' || c = ']' || isAlphabetic c || isNumeric c

/-- What an opening parenthesis begins. -/
inductive Opening where
  /-- Flags for the rest of the group that is open. -/
  | flags (set : FlagSet)
  /-- A group that captures nothing. -/
  | plain (set : FlagSet)
  /-- A group that captures, possibly with a name. -/
  | capture (name : Option (List Char))

/-- The start of a group after its parenthesis. -/
def takeOpening (verbose : Bool) (cs : List Char) : Except Fault (Opening × List Char) :=
  match skip verbose cs with
  | '?' :: '=' :: _ => .error .lookAround
  | '?' :: '!' :: _ => .error .lookAround
  | '?' :: '<' :: '=' :: _ => .error .lookAround
  | '?' :: '<' :: '!' :: _ => .error .lookAround
  | '?' :: 'P' :: '<' :: cs => (takeName cs).map fun (name, cs) => (.capture (some name), cs)
  | '?' :: '<' :: cs => (takeName cs).map fun (name, cs) => (.capture (some name), cs)
  | '?' :: cs => do
    let (flags, cs) ← takeFlags true false [] cs
    match cs with
    | ')' :: cs => if flags.isEmpty then .error .nothingToRepeat else return (.flags flags, cs)
    | cs => return (.plain flags, cs.drop 1)
  | cs => .ok (.capture none, cs)

/-! ## The whole pattern -/

/-- A group that is open, with the parts before it, its number if it captures and whether blanks
carried no meaning before it; or the branches of an alternation before the current one. -/
inductive Frame where
  | group (before : List Ast) (flags : FlagSet) (capture : Option Nat) (verbose : Bool)
  | alternation (branches : List Ast)

/-- The state between two parts: the open frames, the parts of the current row in reverse, whether
blanks carry no meaning, the number of captures and the names of groups so far. -/
structure State where
  stack : List Frame
  parts : List Ast
  verbose : Bool
  captures : Nat
  names : List (List Char)

namespace State

/-- The state before the first part. -/
def initial : State := ⟨[], [], false, 0, []⟩

/-- The current row as one pattern. -/
def row (s : State) : Ast :=
  .ofParts s.parts.reverse

/-- Adds a part to the current row. -/
def add (s : State) (a : Ast) : State :=
  { s with parts := a :: s.parts }

/-- Ends a branch of an alternation. -/
def branch (s : State) : State :=
  match s.stack with
  | .alternation branches :: stack =>
    { s with stack := .alternation (s.row :: branches) :: stack, parts := [] }
  | stack => { s with stack := .alternation [s.row] :: stack, parts := [] }

/-- The current row with the branches before it, and the frames below. -/
def closeRow (s : State) : Ast × List Frame :=
  match s.stack with
  | .alternation branches :: stack => (.alternation (s.row :: branches).reverse, stack)
  | stack => (s.row, stack)

/-- Begins a group. -/
def enter (s : State) (set : FlagSet) (capture : Option Nat) : State :=
  { s with
    stack := .group s.parts set capture s.verbose :: s.stack
    parts := []
    verbose := (set.lookup .verbose).getD s.verbose }

/-- Begins a group or sets flags. Groups that capture are numbered from 1 in the order of their
parentheses. -/
def openGroup (s : State) : Opening → Except Fault State
  | .flags set =>
    .ok { s.add (.flags set) with verbose := (set.lookup .verbose).getD s.verbose }
  | .plain set => .ok (s.enter set none)
  | .capture name => do
    let number := s.captures + 1
    let opened := { s.enter [] (some number) with captures := number }
    match name with
    | none => return opened
    | some name =>
      if s.names.contains name then .error .repeatedGroupName
      else return { opened with names := name :: s.names }

/-- Ends a group. -/
def closeGroup (s : State) : Except Fault State :=
  match s.closeRow with
  | (sub, .group before set capture verbose :: stack) =>
    .ok { s with stack := stack, parts := .group set capture sub :: before, verbose := verbose }
  | _ => .error .unopenedGroup

/-- The pattern at the end of the text. -/
def finish (s : State) : Except Fault Ast :=
  match s.closeRow with
  | (a, []) => .ok a
  | _ => .error .unclosedGroup

/-- Reads one part or one operator. -/
def step (s : State) (c : Char) (cs : List Char) : Except Fault (State × List Char) :=
  let repetition (least : Nat) (most : Option Nat) (cs : List Char) :
      Except Fault (State × List Char) := do
    let (greedy, cs) := takeGreed cs
    return ({ s with parts := ← repeatLast least most greedy s.parts }, cs)
  match c with
  | '(' => do
    let (opening, cs) ← takeOpening s.verbose cs
    return (← s.openGroup opening, cs)
  | ')' => do return (← s.closeGroup, cs)
  | '|' => .ok (s.branch, cs)
  | '[' => do
    let ((negated, set), cs) ← takeClass s.verbose cs
    return (s.add (.bracketed negated set), cs)
  | '?' => repetition 0 (some 1) cs
  | '*' => repetition 0 none cs
  | '+' => repetition 1 none cs
  | '\x7b' => do
    let parts := s.parts
    -- An operator with nothing before it is reported before its counts are read.
    let _ ← repeatLast 0 none true parts
    let ((least, most), cs) ← takeCounts s.verbose cs
    repetition least most (skip s.verbose cs)
  | '\\' => do
    let (e, cs) ← takeEscape s.verbose cs
    return (s.add e.toAst, cs)
  | '.' => .ok (s.add .dot, cs)
  | '^' => .ok (s.add (.anchor .lineStart), cs)
  | '$' => .ok (s.add (.anchor .lineEnd), cs)
  | c => .ok (s.add (.literal ⟨c, false⟩), cs)

/-- Reads the rest of the text. -/
def run : Nat → State → List Char → Except Fault Ast
  | 0, s, _ => s.finish
  | fuel + 1, s, cs =>
    match skip s.verbose cs with
    | [] => s.finish
    | c :: cs => do
      let (s, cs) ← s.step c cs
      run fuel s cs

end State

/-- Reads a pattern. -/
def parse (cs : List Char) : Except Fault Ast :=
  State.run (cs.length + 1) State.initial cs

end FieldRules.Pattern
