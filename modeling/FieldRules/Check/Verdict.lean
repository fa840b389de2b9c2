import FieldRules.Rule.Matcher

/-!
# `FieldRules.Check.Verdict` — the result of a check

A failed check leaves a chain of entries from the outermost field to the innermost cause.

## Contents
- **`Verdict`**, whether the check passed, in which group, and the chain.
- **`Failure`**, a failed verdict as an error, and **`CheckError`**, everything that ends a check.
-/

namespace FieldRules

/-- What stands between the entries of a chain. -/
def chainSeparator : String := " --> "

/-- The entries of a chain in one text. -/
def chainText (chain : List String) : String :=
  chainSeparator.intercalate chain

/-- The result of a check. -/
structure Verdict where
  passed : Bool
  group : String
  /-- The entries of the failure, outermost first. -/
  chain : List String
  deriving DecidableEq, Repr

/-- A check that failed. -/
structure Failure where
  group : String
  chain : List String
  deriving DecidableEq, Repr

namespace Failure

/-- The innermost entry; nothing for an empty chain. -/
def cause (f : Failure) : String :=
  f.chain.getLast?.getD ""

/-- The text of the error. -/
def message (f : Failure) : String :=
  "validation failed in group \"" ++ f.group ++ "\": " ++ f.cause

end Failure

namespace Verdict

/-- The innermost entry. -/
def cause? (v : Verdict) : Option String :=
  v.chain.getLast?

/-- The verdict as a result: an error unless it passed. -/
def result (v : Verdict) : Except Failure Unit :=
  if v.passed then .ok () else .error ⟨v.group, v.chain⟩

end Verdict

/-- What ends a check without a verdict, or turns a failed verdict into an error. -/
inductive CheckError where
  /-- A rule on a type that the check reaches is malformed. -/
  | rule (e : RuleError)
  /-- A field could not be read. -/
  | access (e : AccessError)
  /-- The rules do not hold. -/
  | failed (f : Failure)
  deriving DecidableEq, Repr

/-- The text of the error. -/
def CheckError.message : CheckError → String
  | .rule e => e.message
  | .access e => e.message
  | .failed f => f.message

end FieldRules
