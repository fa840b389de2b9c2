import FieldRules.Interval.Basic

/-!
# `FieldRules.Interval.Parse` — reading interval expressions

An expression is `past`, `future`, or two bounds between brackets with one comma in between. A
square bracket includes its bound, a round one excludes it. A bound is `null`, `now`, a number, or a
timestamp in single quotes; the two words may be quoted as well. Blanks are allowed around the
expression, around a bound, and inside the quotes.

## Contents
- **`Interval.Fault`**, everything that can be wrong, with its wording in `Fault.message`.
- **`SyntaxError`**, a fault with the expression.
- **`Bound.parse`** and **`Interval.parse`**.
-/

namespace FieldRules

open Calendar Number Text

namespace Interval

/-! ## Faults -/

/-- What can be wrong with an expression. -/
inductive Fault where
  | empty
  | noOpening
  | noClosing
  | oneBound
  | manyBounds
  | emptyBound
  | badTimestamp (written : String)
  | badNumber (written : String)
  /-- One bound is numeric and the other one temporal. -/
  | mixedDomains
  /-- The lower bound lies above the upper one. -/
  | reversed (lower upper : Scalar)
  deriving DecidableEq, Repr

/-- The wording of a fault. -/
def Fault.message : Fault → String
  | .empty => "expression is empty"
  | .noOpening => "must start with '(' or '[', or be one of \"past\", \"future\""
  | .noClosing => "must end with ')' or ']'"
  | .oneBound => "expected two bounds separated by ','"
  | .manyBounds => "expected exactly two bounds, found more"
  | .emptyBound => "empty bound, use null for an open side"
  | .badTimestamp written =>
    "'" ++ written ++ "' is not a timestamp (expected 'YYYY-MM-DD HH:MM:SS.mmm')"
  | .badNumber written => written ++ " is not a number; quote timestamps with '...'"
  | .mixedDomains => "cannot mix a numeric bound with a timestamp bound"
  | .reversed lower upper =>
    "lower bound " ++ String.ofList lower.chars ++ " is greater than upper bound " ++
      String.ofList upper.chars

end Interval

/-- A malformed interval expression. -/
structure SyntaxError where
  expression : String
  fault : Interval.Fault
  deriving DecidableEq, Repr

/-- The text of the error. -/
def SyntaxError.message (e : SyntaxError) : String :=
  "invalid range expression \"" ++ e.expression ++ "\": " ++ e.fault.message

/-! ## Bounds -/

/-- A number as a bound: a whole number of at most 128 bits where the text is one, else a finite
floating-point number. -/
def Scalar.readNumber? (cs : List Char) : Option Scalar :=
  match readBetween? leastSigned128 greatestSigned128 cs with
  | some n => some (.int n)
  | none => ((Binary64.read? cs).filter Binary64.isFinite).map .float

/-- The text between single quotes, if the whole text is quoted. -/
def unquote? : List Char → Option (List Char)
  | '\'' :: cs => if cs.getLast? = some '\'' then some cs.dropLast else none
  | _ => none

namespace Bound

/-- The two words that stand for a bound, quoted or not. -/
def word? (inclusive : Bool) (cs : List Char) : Option Bound :=
  if cs = ['n', 'u', 'l', 'l'] then some .unbounded
  else if cs = ['n', 'o', 'w'] then some (.now inclusive)
  else none

/-- Reads a bound whose bracket includes it or not. -/
def parse (inclusive : Bool) (cs : List Char) : Except Interval.Fault Bound :=
  let cs := trim cs
  if cs.isEmpty then .error .emptyBound
  else
    match unquote? cs with
    | some inner =>
      let inner := trim inner
      match word? inclusive inner with
      | some b => .ok b
      | none =>
        match readLiteral? inner with
        | some t => .ok (.literal (.time t) inclusive)
        | none => .error (.badTimestamp (String.ofList inner))
    | none =>
      match word? inclusive cs with
      | some b => .ok b
      | none =>
        match Scalar.readNumber? cs with
        | some x => .ok (.literal x inclusive)
        | none => .error (.badNumber (String.ofList cs))

end Bound

/-! ## Intervals -/

namespace Interval

/-- The bracket in front of the lower bound. -/
def opening? (c : Char) : Option Bool :=
  if c = '[' then some true else if c = '(' then some false else none

/-- The bracket after the upper bound. -/
def closing? (c : Char) : Option Bool :=
  if c = ']' then some true else if c = ')' then some false else none

/-- Whether two literal bounds stand in the wrong order. -/
def reversed? : Bound → Bound → Option (Scalar × Scalar)
  | .literal lo _, .literal hi _ => if lo.compare? hi = some .gt then some (lo, hi) else none
  | _, _ => none

/-- Joins two bounds over their domain, unless they belong to different ones or stand in the wrong
order. -/
def join (lower upper : Bound) : Except Fault Interval :=
  if lower.domain?.isSome ∧ upper.domain?.isSome ∧ lower.domain? ≠ upper.domain? then
    .error .mixedDomains
  else
    match reversed? lower upper with
    | some (lo, hi) => .error (.reversed lo hi)
    | none => .ok (.range lower upper (domainOf? lower upper))

/-- Reads the two bounds between the brackets. -/
def parseBody (lowerInclusive upperInclusive : Bool) (body : List Char) : Except Fault Interval :=
  match body.dropWhile (· != ',') with
  | [] => .error .oneBound
  | _ :: hi =>
    if hi.contains ',' then .error .manyBounds
    else do
      let lower ← Bound.parse lowerInclusive (body.takeWhile (· != ','))
      let upper ← Bound.parse upperInclusive hi
      join lower upper

/-- Reads an expression that has been trimmed. -/
def parseTrimmed (cs : List Char) : Except Fault Interval :=
  if cs = ['p', 'a', 's', 't'] then .ok .past
  else if cs = ['f', 'u', 't', 'u', 'r', 'e'] then .ok .future
  else
    match cs, cs.getLast? with
    | first :: rest, some last =>
      match opening? first, closing? last with
      | none, _ => .error .noOpening
      | some _, none => .error .noClosing
      | some lowerInclusive, some upperInclusive =>
        parseBody lowerInclusive upperInclusive rest.dropLast
    | _, _ => .error .empty

/-- Reads an interval expression. -/
def parse (expression : String) : Except SyntaxError Interval :=
  match parseTrimmed (trim expression.toList) with
  | .ok i => .ok i
  | .error fault => .error ⟨expression, fault⟩

end Interval

end FieldRules
