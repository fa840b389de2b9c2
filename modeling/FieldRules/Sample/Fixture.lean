import FieldRules.Sample.Account
import FieldRules.Text.Occurrence
import FieldRules.Text.Quoted

/-!
# `FieldRules.Sample.Fixture` — expectations on rules, run against accounts and teams

A fixture holds a rule document and cases. A case names one subject and what checking it should
come to. A fixture whose document should be refused says so and needs no cases.

## Contents
- **`Case`** and **`Fixture`**, with `Fixture.ofNode?`.
- **`Mismatch`**, everything that makes a case fail, with its wording.
- **`Fixture.run`**, the results of all cases, and **`Fixture.firstFailure?`**.
-/

namespace FieldRules

open Calendar Document Text

/-! ## Fixtures -/

/-- A check with what it should come to. -/
structure Case where
  name : String
  /-- A blank name stands for the default group. -/
  group : String
  /-- The fields to check; none stands for all of them. -/
  fields : List String
  account : Option Account
  team : Option Team
  accounts : Option (List Account)
  /-- Whether the check should pass. -/
  expect : Option Bool
  /-- The innermost entry of the chain. -/
  cause : Option String
  /-- Texts that occur in the chain one after another. -/
  chain : List String
  /-- A text that occurs in the error that ends the check. -/
  error : Option String

/-- A rule document with cases. -/
structure Fixture where
  name : String
  description : String
  rules : RuleDocument
  /-- A text that occurs in the error for which the document is refused. -/
  rulesError : Option String
  cases : List Case

/-- Reads a case. -/
def Case.ofNode? (d : Dialect) (n : Node) : Option Case := do
  let fields ← n.fields? d
    ["name", "group", "fields", "account", "team", "accounts", "expect", "err_msg", "err_chain",
      "error"]
  let texts := fun (v : Within n) => v.1.list? fun item => item.1.text?
  return {
    name := ← fields.get? "name" (·.1.text?)
    group := ← fields.getOr? "group" "" (·.1.text?)
    fields := ← fields.getOr? "fields" [] texts
    account := ← fields.optional? "account" (Account.ofNode? d ·.1)
    team := ← fields.optional? "team" (Team.ofNode? d ·.1)
    accounts := ← fields.optional? "accounts" (·.1.list? (Account.ofNode? d ·.1))
    expect := ← fields.scalar? "expect" Atom.bool?
    cause := ← fields.scalar? "err_msg" Atom.text?
    chain := ← fields.getOr? "err_chain" [] texts
    error := ← fields.scalar? "error" Atom.text?
  }

/-- Reads a fixture. -/
def Fixture.ofNode? (d : Dialect) (n : Node) : Option Fixture := do
  let fields ← n.fields? d ["name", "description", "rules", "rules_error", "cases"]
  return {
    name := ← fields.get? "name" (·.1.text?)
    description := ← fields.getOr? "description" "" (·.1.text?)
    rules := ← fields.getOr? "rules" .empty (RuleDocument.ofNode? d ·.1)
    rulesError := ← fields.scalar? "rules_error" Atom.text?
    cases := ← fields.getOr? "cases" [] (·.1.list? (Case.ofNode? d ·.1))
  }

/-! ## Mismatches -/

/-- What makes a case fail. -/
inductive Mismatch where
  /-- The case names no subject, or several. -/
  | subject
  /-- The case says neither whether the check should pass nor which error should end it. -/
  | noExpectation
  | verdict (expected passed : Bool) (whole : String)
  | cause (expected : String) (found : Option String)
  | chain (missing whole : String)
  /-- The check came to a verdict instead of an error. -/
  | noError (expected : String) (passed : Bool)
  | error (message : String)
  /-- The rule document was not refused. -/
  | rulesLoaded (expected : String)
  | rulesRefused (message : String)
  deriving DecidableEq, Repr

/-- The wording of a mismatch. -/
def Mismatch.message : Mismatch → String
  | .subject => "case needs exactly one of account, team, accounts"
  | .noExpectation => "case needs `expect` or `error`"
  | .verdict expected passed whole =>
    "expected " ++ Value.boolText expected ++ ", got " ++ Value.boolText passed ++ " (chain: " ++
      quoted whole ++ ")"
  | .cause expected found =>
    "expected message " ++ quoted expected ++ ", got " ++ quotedOption found
  | .chain missing whole =>
    "chain " ++ quoted whole ++ " lacks " ++ quoted missing ++ " (or has it out of order)"
  | .noError expected passed =>
    "expected error containing " ++ quoted expected ++ ", got verdict " ++ Value.boolText passed
  | .error message => "unexpected error: " ++ message
  | .rulesLoaded expected => "rule document loaded, expected error " ++ quoted expected
  | .rulesRefused message => "rule document rejected: " ++ message

/-! ## Running -/

/-- The result of a case. -/
structure CaseResult where
  caseName : String
  mismatch : Option Mismatch
  deriving DecidableEq, Repr

namespace Case

/-- The one subject of the case. -/
def subject? (c : Case) : Option Value :=
  match c.account, c.team, c.accounts with
  | some account, none, none => some account.value
  | none, some team, none => some team.value
  | none, none, some accounts => some (.seq (accountValues accounts))
  | _, _, _ => none

/-- Compares a verdict with what the case expects. -/
def compare (c : Case) (v : Verdict) : Option Mismatch :=
  let chain := chainText v.chain
  match c.expect with
  | none => some .noExpectation
  | some expected =>
    if v.passed ≠ expected then some (.verdict expected v.passed chain)
    else if c.cause.isSome && v.cause? ≠ c.cause then some (.cause (c.cause.getD "") v.cause?)
    else (firstMissing? c.chain chain.toList).map fun missing => .chain missing chain

/-- Compares what a check came to with what the case expects. -/
def judge (c : Case) : Except CheckError Verdict → Option Mismatch
  | .ok v =>
    match c.error with
    | none => c.compare v
    | some expected => some (.noError expected v.passed)
  | .error e =>
    match c.error with
    | some expected => if occursIn expected e.message then none else some (.error e.message)
    | none => some (.error e.message)

/-- Runs the case. -/
def run (w : Setting) (clock : Nat → Instant) (c : Case) (s : Session) : CaseResult × Session :=
  match c.subject? with
  | none => (⟨c.name, some .subject⟩, s)
  | some target =>
    let (outcome, s) := w.evaluate clock c.group target (selectionOf c.fields) s
    (⟨c.name, c.judge outcome⟩, s)

/-- Runs cases in order. -/
def runAll (w : Setting) (clock : Nat → Instant) : List Case → Session → List CaseResult
  | [], _ => []
  | c :: cs, s =>
    let (result, s) := c.run w clock s
    result :: runAll w clock cs s

end Case

namespace Fixture

/-- The name under which a failure of the rule document itself is reported. -/
def rulesCase : String := "<rules>"

/-- Runs the fixture. -/
def run (clock : Nat → Instant) (f : Fixture) : List CaseResult :=
  match RuleBook.ofDocument f.rules, f.rulesError with
  | .ok book, none => Case.runAll ⟨sampleSchemas, book⟩ clock f.cases .empty
  | .ok _, some expected => [⟨rulesCase, some (.rulesLoaded expected)⟩]
  | .error e, some expected =>
    if occursIn expected e.message then [] else [⟨rulesCase, some (.rulesRefused e.message)⟩]
  | .error e, none => [⟨rulesCase, some (.rulesRefused e.message)⟩]

/-- The text for a failed case. -/
def failureText (f : Fixture) (caseName : String) (m : Mismatch) : String :=
  "Fixture '" ++ f.name ++ "' case '" ++ caseName ++ "' failed: " ++ m.message

/-- The text for the first case that fails. -/
def firstFailure? (f : Fixture) (results : List CaseResult) : Option String :=
  results.findSome? fun r => r.mismatch.map (f.failureText r.caseName)

end Fixture

end FieldRules
