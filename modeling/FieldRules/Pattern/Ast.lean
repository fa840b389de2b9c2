import FieldRules.Unicode.Property

/-!
# `FieldRules.Pattern.Ast` — patterns as they are written

## Contents
- **`Fault`**, everything that keeps a pattern from being compiled. What is told apart is of this
  library, and so is the wording in `Fault.message`. Engines for these patterns have wordings of
  their own, often longer and with the place in the pattern, and no message here is any of them.
- **`Flag`** and **`Ast`**, the structure of a pattern before its flags are applied.
- **`ClassItem`** and **`ClassSet`**, the inside of a bracketed class.
- **`Ast.depth`**, the nesting that `maxDepth` bounds.
-/

namespace FieldRules.Pattern

open FieldRules.Unicode

/-! ## Faults -/

/-- What keeps a pattern from being compiled. -/
inductive Fault where
  | unclosedGroup
  | unopenedGroup
  | lookAround
  | groupName
  | repeatedGroupName
  | flags
  | nothingToRepeat
  | repetition
  | unclosedClass
  | classRange
  | classEscape
  | escape
  | hexadecimal
  | unknownProperty
  | tooDeep
  | tooLarge
  /-- The pattern could match inside of a character's encoding. -/
  | partialCharacter
  /-- A Unicode class stands where Unicode support is turned off. -/
  | unicodeOff
  deriving DecidableEq, Repr

/-- The wording of a fault, which is this library's own. -/
def Fault.message : Fault → String
  | .unclosedGroup => "unclosed group"
  | .unopenedGroup => "unopened group"
  | .lookAround => "look-around is not supported"
  | .groupName => "invalid capture group name"
  | .repeatedGroupName => "duplicate capture group name"
  | .flags => "invalid flags"
  | .nothingToRepeat => "repetition operator missing expression"
  | .repetition => "invalid repetition count"
  | .unclosedClass => "unclosed character class"
  | .classRange => "invalid character class range"
  | .classEscape => "invalid escape sequence found in character class"
  | .escape => "unrecognized escape sequence"
  | .hexadecimal => "invalid hexadecimal escape"
  | .unknownProperty => "Unicode property not found"
  | .tooDeep => "pattern nests too deeply"
  | .tooLarge => "compiled pattern is too large"
  | .partialCharacter => "pattern can match invalid text"
  | .unicodeOff => "Unicode not allowed here"

/-! ## Flags -/

/-- The switches that a pattern can turn on and off. -/
inductive Flag where
  /-- `i`: letters match regardless of case. -/
  | ignoreCase
  /-- `m`: line anchors match at every line. -/
  | multiLine
  /-- `s`: the dot matches line ends, too. -/
  | dotAll
  /-- `R`: a carriage return before a line feed is part of the line end. -/
  | carriageReturn
  /-- `U`: repetition prefers few over many. -/
  | swapGreed
  /-- `u`: classes and letters are those of Unicode. -/
  | unicode
  /-- `x`: blanks and comments in the pattern carry no meaning. -/
  | verbose
  deriving DecidableEq, Repr

/-- The letter of a flag. -/
def Flag.ofChar? (c : Char) : Option Flag :=
  [('i', .ignoreCase), ('m', .multiLine), ('s', .dotAll), ('R', .carriageReturn),
    ('U', .swapGreed), ('u', .unicode), ('x', .verbose)].lookup c

/-- Flags with what they are set to. -/
abbrev FlagSet := List (Flag × Bool)

/-! ## Classes -/

/-- A single character. `byte` marks the two-digit hexadecimal escape, which stands for a byte where
Unicode support is turned off. -/
structure Literal where
  char : Char
  byte : Bool
  deriving DecidableEq, Repr

/-- The classes with a one-letter escape. -/
inductive Shorthand where
  | digit
  | space
  | word
  deriving DecidableEq, Repr

/-- The classes of ASCII characters with a name in brackets and colons. -/
inductive AsciiClass where
  | alnum
  | alpha
  | ascii
  | blank
  | cntrl
  | digit
  | graph
  | lower
  | print
  | punct
  | space
  | upper
  | word
  | xdigit
  deriving DecidableEq, Repr

/-- The name of an ASCII class. -/
def AsciiClass.ofName? (name : List Char) : Option AsciiClass :=
  [("alnum", .alnum), ("alpha", .alpha), ("ascii", .ascii), ("blank", .blank), ("cntrl", .cntrl),
    ("digit", .digit), ("graph", .graph), ("lower", .lower), ("print", .print),
    ("punct", .punct), ("space", .space), ("upper", .upper), ("word", .word),
    ("xdigit", .xdigit)].lookup (String.ofList name)

/-- How two sets of a bracketed class are combined. -/
inductive SetOperator where
  | intersection
  | difference
  | symmetricDifference
  deriving DecidableEq, Repr

mutual

/-- One item of a bracketed class. -/
inductive ClassItem where
  | empty
  | literal (l : Literal)
  | range (first last : Literal)
  | ascii (negated : Bool) (cls : AsciiClass)
  | property (negated : Bool) (p : Property)
  | shorthand (negated : Bool) (s : Shorthand)
  | bracketed (negated : Bool) (set : ClassSet)
  | union (items : List ClassItem)

/-- The inside of a bracketed class. -/
inductive ClassSet where
  | item (i : ClassItem)
  | binary (op : SetOperator) (lhs rhs : ClassSet)

end

/-! ## Patterns -/

/-- The kinds of word boundary. -/
inductive WordEdge where
  | boundary
  | noBoundary
  | start
  | finish
  | startHalf
  | finishHalf
  deriving DecidableEq, Repr

/-- Conditions on a position. -/
inductive Anchor where
  /-- `^` -/
  | lineStart
  /-- `$` -/
  | lineEnd
  /-- `\A` -/
  | textStart
  /-- `\z` -/
  | textEnd
  | word (edge : WordEdge)
  deriving DecidableEq, Repr

/-- A pattern as it is written. -/
inductive Ast where
  | empty
  /-- Flags that hold from here to the end of the group. -/
  | flags (set : FlagSet)
  | literal (l : Literal)
  | dot
  | anchor (a : Anchor)
  | property (negated : Bool) (p : Property)
  | shorthand (negated : Bool) (s : Shorthand)
  | bracketed (negated : Bool) (set : ClassSet)
  /-- At least `least` and, where given, at most `most` times; `greedy` prefers many over few. -/
  | repetition (least : Nat) (most : Option Nat) (greedy : Bool) (sub : Ast)
  /-- A group with flags of its own and, where it captures, its number. -/
  | group (set : FlagSet) (capture : Option Nat) (sub : Ast)
  | alternation (branches : List Ast)
  | concat (parts : List Ast)

/-- Several parts in a row as one pattern; a single part stands for itself. -/
def Ast.ofParts : List Ast → Ast
  | [] => .empty
  | [a] => a
  | parts => .concat parts

/-- Several items of a class as one item; a single item stands for itself. -/
def ClassItem.ofItems : List ClassItem → ClassItem
  | [] => .empty
  | [i] => i
  | items => .union items

/-! ## Nesting -/

mutual

/-- How deeply an item of a class nests. -/
def ClassItem.depth : ClassItem → Nat
  | .bracketed _ set => set.depth + 1
  | .union items => ClassItem.depths items + 1
  | _ => 0

/-- The greatest depth among items. -/
def ClassItem.depths : List ClassItem → Nat
  | [] => 0
  | i :: is => max i.depth (ClassItem.depths is)

/-- How deeply the inside of a class nests. -/
def ClassSet.depth : ClassSet → Nat
  | .item i => i.depth
  | .binary _ lhs rhs => max lhs.depth rhs.depth + 1

end

mutual

/-- How deeply a pattern nests. -/
def Ast.depth : Ast → Nat
  | .bracketed _ set => set.depth + 1
  | .repetition _ _ _ sub => sub.depth + 1
  | .group _ _ sub => sub.depth + 1
  | .alternation branches => Ast.depths branches + 1
  | .concat parts => Ast.depths parts + 1
  | _ => 0

/-- The greatest depth among patterns. -/
def Ast.depths : List Ast → Nat
  | [] => 0
  | a :: as => max a.depth (Ast.depths as)

end

/-- The greatest nesting that a pattern may have. -/
def maxDepth : Nat := 250

end FieldRules.Pattern
