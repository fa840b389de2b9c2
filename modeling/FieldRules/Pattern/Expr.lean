import FieldRules.Pattern.Ast
import FieldRules.Unicode.Derived

/-!
# `FieldRules.Pattern.Expr` — expressions and what they match

## Contents
- **`Look`**, conditions on the characters on either side of a position, with `Look.holds`.
- **`Expr`**, the expressions that texts are matched against, and the inductive relation
  **`Expr.Matches`**: an expression matches a text from one position to another.
-/

namespace FieldRules.Pattern

open FieldRules.Unicode

/-! ## Conditions on a position -/

/-- A condition on the characters before and after a position. -/
inductive Look where
  | textStart
  | textEnd
  /-- The start of a line; `crlf` takes a carriage return and a line feed as one line end. -/
  | lineStart (crlf : Bool)
  | lineEnd (crlf : Bool)
  /-- A word boundary, for the words of Unicode or of ASCII. -/
  | word (edge : WordEdge) (unicode : Bool)
  deriving DecidableEq, Repr

namespace Look

/-- The characters of ASCII words. -/
def isAsciiWord (c : Char) : Bool :=
  c.isAlphanum || c = '_'

/-- Whether the condition holds between two characters; at the ends of the text one is missing. -/
def holds (l : Look) (before after : Option Char) : Bool :=
  match l with
  | .textStart => before.isNone
  | .textEnd => after.isNone
  | .lineStart false => before.all (· = '\n')
  | .lineEnd false => after.all (· = '\n')
  | .lineStart true =>
    before.all fun c => c = '\n' || (c = '\r' && after ≠ some '\n')
  | .lineEnd true =>
    after.all fun c => c = '\r' || (c = '\n' && before ≠ some '\r')
  | .word edge unicode =>
    let isWord (c : Char) := if unicode then Unicode.isWord c else isAsciiWord c
    let inBefore := before.any isWord
    let inAfter := after.any isWord
    match edge with
    | .boundary => inBefore != inAfter
    | .noBoundary => inBefore == inAfter
    | .start => !inBefore && inAfter
    | .finish => inBefore && !inAfter
    | .startHalf => !inBefore
    | .finishHalf => !inAfter

end Look

/-! ## Expressions -/

/-- An expression that texts are matched against. -/
inductive Expr where
  /-- Matches the empty text. -/
  | empty
  /-- Matches one character of a set. -/
  | set (s : Spans)
  /-- Matches the empty text where a condition holds. -/
  | look (l : Look)
  | seq (a b : Expr)
  | alt (a b : Expr)
  /-- At least `least` and, where given, at most `most` times. -/
  | repetition (least : Nat) (most : Option Nat) (a : Expr)
  deriving DecidableEq, Repr

namespace Expr

/-- The character before a position of a text. -/
def before? (text : List Char) (i : Nat) : Option Char :=
  if i = 0 then none else text[i - 1]?

/-- **Meaning of expressions.** `Matches text a i j` says that `a` matches the part of the text from
position `i` to position `j`. -/
inductive Matches (text : List Char) : Expr → Nat → Nat → Prop
  | empty {i : Nat} (inside : i ≤ text.length) : Matches text .empty i i
  | set {s : Spans} {i : Nat} {c : Char} (at_i : text[i]? = some c)
      (member : s.contains c.toNat = true) : Matches text (.set s) i (i + 1)
  | look {l : Look} {i : Nat} (inside : i ≤ text.length)
      (holds : l.holds (before? text i) text[i]? = true) : Matches text (.look l) i i
  | seq {a b : Expr} {i j k : Nat} (first : Matches text a i j) (second : Matches text b j k) :
      Matches text (.seq a b) i k
  | altLeft {a b : Expr} {i j : Nat} (left : Matches text a i j) : Matches text (.alt a b) i j
  | altRight {a b : Expr} {i j : Nat} (right : Matches text b i j) : Matches text (.alt a b) i j
  | done {most : Option Nat} {a : Expr} {i : Nat} (inside : i ≤ text.length) :
      Matches text (.repetition 0 most a) i i
  | again {least : Nat} {most : Option Nat} {a : Expr} {i j k : Nat} (room : most ≠ some 0)
      (once : Matches text a i j)
      (rest : Matches text (.repetition (least - 1) (most.map (· - 1)) a) j k) :
      Matches text (.repetition least most a) i k

end Expr

end FieldRules.Pattern
