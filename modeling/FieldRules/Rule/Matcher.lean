import FieldRules.Interval.Parse
import FieldRules.Pattern.Compile
import FieldRules.Rule.Basic
import FieldRules.Rule.Literals

/-!
# `FieldRules.Rule.Matcher` — compiled rules

A rule is compiled once, before the first value is judged, so a malformed rule shows before any
check is made.

## Contents
- **`RuleFault`** and **`RuleError`**, what can be wrong with a rule, and where, with the wording in
  `RuleFault.message`. For a pattern that does not compile, the reason at its end is worded as in
  `Pattern.Fault.message`, not as by any pattern engine.
- **`Matcher`** and **`Matcher.compile`**.
- **`Matcher.hits`**, whether a value lies in the set that the matcher describes. The polarity says
  whether a hit admits the value or rejects it.
-/

namespace FieldRules

open Calendar

/-! ## Errors -/

/-- The greatest length of a pattern in bytes. -/
def maxPatternLength : Nat := 4096

/-- The greatest number of literals in a rule. -/
def maxValues : Nat := 1024

/-- What can be wrong with a rule. -/
inductive RuleFault where
  | interval (error : SyntaxError)
  | pattern (source : String) (fault : Pattern.Fault)
  /-- The pattern has more bytes than `maxPatternLength`. -/
  | patternTooLong (length : Nat)
  /-- A rule on literals lists none. -/
  | emptyValues
  /-- A rule lists more literals than `maxValues`. -/
  | tooManyValues (count : Nat)
  /-- A rule on an interval is meant to reject. -/
  | rejectingRange (expression : String)
  /-- A rule of a document states several conditions. -/
  | ambiguous (conditions : List String)
  /-- A rule of a document states no condition. -/
  | noCondition
  deriving DecidableEq, Repr

/-- The wording of a fault. -/
def RuleFault.message : RuleFault → String
  | .interval error => error.message
  | .pattern source fault => "invalid pattern \"" ++ source ++ "\": " ++ fault.message
  | .patternTooLong length =>
    "pattern length is " ++ Value.intText length ++ ", but maximum allowed is " ++
      Value.intText maxPatternLength
  | .emptyValues =>
    "values rule is empty; list at least one value, or \"null\" to admit absence"
  | .tooManyValues count =>
    "values rule has " ++ Value.intText count ++ " values, but maximum allowed is " ++
      Value.intText maxValues
  | .rejectingRange expression =>
    "range \"" ++ expression ++
      "\" cannot reject; drop `accept: false` or use a values or pattern rule"
  | .ambiguous conditions =>
    "rule declares " ++ ", ".intercalate conditions ++
      "; declare exactly one of values, range, pattern"
  | .noCondition => "rule declares none of values, range, pattern"

/-- A malformed rule, with the short name of the type and the field that it is declared on. -/
structure RuleError where
  owner : String
  field : String
  fault : RuleFault
  deriving DecidableEq, Repr

/-- The text of the error. -/
def RuleError.message (e : RuleError) : String :=
  e.owner ++ "." ++ e.field ++ ": " ++ e.fault.message

/-! ## Matchers -/

/-- What a hit means. -/
inductive Polarity where
  /-- A hit admits the value. -/
  | accept
  /-- A hit rejects the value. -/
  | reject
  deriving DecidableEq, Repr

/-- A compiled rule. Intervals only ever admit. -/
inductive Matcher where
  | literals (set : LiteralSet) (polarity : Polarity)
  | interval (i : Interval)
  | pattern (p : Pattern) (polarity : Polarity)
  deriving DecidableEq, Repr

namespace Matcher

/-- What a hit of a rule's condition means. -/
def polarityOf (r : Rule) : Polarity :=
  if r.accept then .accept else .reject

/-- Compiles a rule. -/
def compile (r : Rule) : Except RuleFault Matcher :=
  match r.condition with
  | .values texts =>
    if texts.isEmpty then .error .emptyValues
    else if maxValues < texts.length then .error (.tooManyValues texts.length)
    else .ok (.literals (.ofList texts) (polarityOf r))
  | .range expression =>
    if r.accept then
      match Interval.parse expression with
      | .ok i => .ok (.interval i)
      | .error e => .error (.interval e)
    else .error (.rejectingRange expression)
  | .pattern source =>
    if maxPatternLength < source.utf8ByteSize then .error (.patternTooLong source.utf8ByteSize)
    else
      match Pattern.compile source with
      | .ok p => .ok (.pattern p (polarityOf r))
      | .error fault => .error (.pattern source fault)

/-- Compiles a rule on a field of the type with the given short name. -/
def compileFor (owner field : String) (r : Rule) : Except RuleError Matcher :=
  (compile r).mapError (RuleError.mk owner field)

/-- What a hit means. -/
def polarity : Matcher → Polarity
  | .literals _ polarity => polarity
  | .interval _ => .accept
  | .pattern _ polarity => polarity

/-- Whether a value lies in the set that the matcher describes, at the instant `now`. -/
def hits (m : Matcher) (v : Value) (now : Instant) : Bool :=
  match m with
  | .literals set _ => set.contains v
  | .interval i => i.matchesAt v now
  | .pattern p _ => v.literalText?.any p.isMatch

/-- Whether a value passes this matcher alone. -/
def passes (m : Matcher) (v : Value) (now : Instant) : Bool :=
  match m.polarity with
  | .accept => m.hits v now
  | .reject => !m.hits v now

/-- Whether the answer can change with time. -/
def isTimeDependent : Matcher → Bool
  | .interval i => i.isTimeDependent
  | _ => false

/-- The matcher as messages show it. -/
def text : Matcher → String
  | .literals set _ => "values " ++ set.text
  | .interval i => "range " ++ i.text
  | .pattern p _ => "pattern \"" ++ p.source ++ "\""

end Matcher

end FieldRules
