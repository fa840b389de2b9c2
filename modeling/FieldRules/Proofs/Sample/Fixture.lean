import FieldRules.Proofs.Direct.Refinement
import FieldRules.Proofs.Text.Occurrence
import FieldRules.Sample.Fixture

/-!
# `Proofs.Sample.Fixture` — what it takes for a case to pass

A case names a subject and says what checking it should come to: an error with a certain text in it,
or a verdict with a certain outcome, innermost entry and chain. Each of these is said here without
the run: the subject is the only one that is named, and the texts for the chain stand in it from
some positions on, in their order and without overlapping. A case passes exactly if all that it says
holds of the check of its subject, which begins where the cases before it have left the engine.

## Contents
- **`Case.Names`** and **`subject?_eq_some_iff`**, the subject of a case.
- **`Case.Meets`** and **`judge_eq_none_iff`**, what a case says about an answer.
- **`Case.request?`** and **`runAll_getElem?`**, a case as a request behind those of the cases before.
- **`fixture_accepts_what_it_states`**.
-/

namespace FieldRules

open Calendar Text

namespace Case

/-! ## The subject of a case -/

/-- The case names a subject, and no other one. -/
inductive Names (c : Case) : Value → Prop where
  | account {a} (named : c.account = some a) (noTeam : c.team = none)
      (noAccounts : c.accounts = none) : Names c a.value
  | team {t} (noAccount : c.account = none) (named : c.team = some t)
      (noAccounts : c.accounts = none) : Names c t.value
  | accounts {as} (noAccount : c.account = none) (noTeam : c.team = none)
      (named : c.accounts = some as) : Names c (.seq (accountValues as))

theorem subject?_eq_some_iff (c : Case) (target : Value) :
    c.subject? = some target ↔ c.Names target := by
  constructor
  · intro h
    rw [subject?] at h
    split at h
    · next account team accounts =>
        obtain rfl := Option.some.inj h
        exact .account account team accounts
    · next account team accounts =>
        obtain rfl := Option.some.inj h
        exact .team account team accounts
    · next account team accounts =>
        obtain rfl := Option.some.inj h
        exact .accounts account team accounts
    · cases h
  · intro h
    cases h with
    | account named noTeam noAccounts => rw [subject?, named, noTeam, noAccounts]
    | team noAccount named noAccounts => rw [subject?, noAccount, named, noAccounts]
    | accounts noAccount noTeam named => rw [subject?, noAccount, noTeam, named]

/-- There is such a subject exactly if one of the three is given. -/
theorem exists_names_iff (c : Case) :
    (∃ target, c.Names target) ↔
      [c.account.isSome, c.team.isSome, c.accounts.isSome].count true = 1 := by
  simp only [← c.subject?_eq_some_iff, ← Option.isSome_iff_exists, subject?]
  cases c.account <;> cases c.team <;> cases c.accounts <;> simp

/-! ## What a case says about an answer -/

/-- All that the case says holds of an answer: of an error that it contains a text, or of a verdict
that it has the outcome, the innermost entry and the texts in the chain. -/
inductive Meets (c : Case) : Except CheckError Verdict → Prop where
  | error {expected e} (given : c.error = some expected)
      (contained : expected.toList <:+: e.message.toList) : Meets c (.error e)
  | verdict {v positions} (noError : c.error = none) (outcome : c.expect = some v.passed)
      (cause : ∀ entry, c.cause = some entry → v.chain.getLast? = some entry)
      (chain : InOrder c.chain (chainText v.chain).toList positions) : Meets c (.ok v)

theorem compare_eq_none_iff (c : Case) (v : Verdict) :
    c.compare v = none ↔
      c.expect = some v.passed ∧ (∀ entry, c.cause = some entry → v.chain.getLast? = some entry) ∧
        ∃ positions, InOrder c.chain (chainText v.chain).toList positions := by
  have hcause : (c.cause.isSome && v.cause? ≠ c.cause) = false ↔
      ∀ entry, c.cause = some entry → v.chain.getLast? = some entry := by
    show (c.cause.isSome && v.chain.getLast? ≠ c.cause) = false ↔ _
    cases c.cause with
    | none => simp
    | some entry => simp
  rw [← firstMissing?_eq_none_iff, ← hcause, compare]
  cases c.expect with
  | none => simp
  | some expected =>
      dsimp only
      split
      · next hne =>
          refine iff_of_false nofun fun h => ?_
          exact hne (Option.some.inj h.1).symm
      · next heq =>
          obtain rfl : v.passed = expected := not_not.mp heq
          split
          · next wrong =>
              refine iff_of_false nofun fun h => ?_
              rw [h.2.1] at wrong
              cases wrong
          · next right =>
              rw [Option.map_eq_none_iff]
              exact ⟨fun h => ⟨rfl, Bool.eq_false_of_not_eq_true right, h⟩, fun h => h.2.2⟩

/-- **A case has nothing to object to an answer if all that it says holds of it.** -/
theorem judge_eq_none_iff (c : Case) (r : Except CheckError Verdict) :
    c.judge r = none ↔ c.Meets r := by
  cases r with
  | error e =>
      cases herror : c.error with
      | none =>
          simp only [judge, herror]
          refine iff_of_false nofun fun h => ?_
          cases h with
          | error given contained =>
              rw [herror] at given
              cases given
      | some expected =>
          simp only [judge, herror]
          constructor
          · intro h
            split at h
            · next found => exact .error herror ((occursIn_iff expected e.message).mp found)
            · cases h
          · intro h
            cases h with
            | error given contained =>
                obtain rfl := Option.some.inj (herror.symm.trans given)
                rw [if_pos ((occursIn_iff _ _).mpr contained)]
  | ok v =>
      cases herror : c.error with
      | some expected =>
          simp only [judge, herror]
          refine iff_of_false nofun fun h => ?_
          cases h with
          | verdict noError outcome cause chain =>
              rw [herror] at noError
              cases noError
      | none =>
          simp only [judge, herror]
          rw [compare_eq_none_iff]
          constructor
          · rintro ⟨outcome, cause, positions, chain⟩
            exact .verdict herror outcome cause chain
          · intro h
            cases h with
            | verdict noError outcome cause chain => exact ⟨outcome, cause, _, chain⟩

/-! ## Cases one after another -/

/-- The request that a case makes; none without a subject. -/
def request? (clock : Nat → Instant) (c : Case) : Option Request :=
  c.subject?.map fun target => .evaluate clock c.group target (selectionOf c.fields)

variable (w : Setting) (clock : Nat → Instant)

/-- The result of a case in a session. -/
theorem run_spec (c : Case) (s : Session) :
    (c.run w clock s).1.caseName = c.name ∧
      ((c.run w clock s).1.mismatch = none ↔
        ∃ target, c.Names target ∧
          c.Meets (w.evaluate clock c.group target (selectionOf c.fields) s).1) := by
  rw [run]
  cases hsubject : c.subject? with
  | none =>
      refine ⟨rfl, iff_of_false nofun ?_⟩
      rintro ⟨target, named, -⟩
      rw [(c.subject?_eq_some_iff target).mpr named] at hsubject
      cases hsubject
  | some target =>
      refine ⟨rfl, ?_⟩
      show c.judge (w.evaluate clock c.group target (selectionOf c.fields) s).1 = none ↔ _
      rw [judge_eq_none_iff]
      constructor
      · exact fun meets => ⟨target, (c.subject?_eq_some_iff target).mp hsubject, meets⟩
      · rintro ⟨target', named, meets⟩
        have hsame := (c.subject?_eq_some_iff target').mpr named
        obtain rfl := Option.some.inj (hsubject.symm.trans hsame)
        exact meets

/-- A case leaves the session as its request does. -/
theorem run_session (c : Case) (s : Session) :
    (c.run w clock s).2 = w.serveAll (c.request? clock).toList s := by
  rw [run, request?]
  cases c.subject? with
  | none => rfl
  | some target => rfl

/-- **Each case is run behind the requests of the cases before it.** -/
theorem runAll_getElem? (cs : List Case) (s : Session) (k : Nat) :
    (runAll w clock cs s)[k]? = cs[k]?.map fun c =>
      (c.run w clock (w.serveAll ((cs.take k).filterMap (request? clock)) s)).1 := by
  induction cs generalizing s k with
  | nil => rfl
  | cons c cs ih =>
      rw [runAll]
      cases k with
      | zero => rfl
      | succ k =>
          have hfirst : ((c :: cs).take (k + 1)).filterMap (request? clock) =
              (c.request? clock).toList ++ (cs.take k).filterMap (request? clock) := by
            rw [List.take_succ_cons, List.filterMap_cons]
            cases c.request? clock with
            | none => rfl
            | some q => rfl
          rw [List.getElem?_cons_succ, List.getElem?_cons_succ, ih, run_session, hfirst,
            Setting.serveAll_append]

theorem map_caseName_runAll (cs : List Case) (s : Session) :
    (runAll w clock cs s).map CaseResult.caseName = cs.map Case.name := by
  induction cs generalizing s with
  | nil => rfl
  | cons c cs ih =>
      rw [runAll, List.map_cons, List.map_cons, (c.run_spec w clock s).1, ih]

end Case

/-- **A fixture accepts exactly what it states.** If its rules make a book and it expects no fault of
them, there is one result for each case, in the order of the cases. A case passes if it names one
subject and all that it says holds of the check of that subject, made behind the checks of the cases
before it, and under no other condition. Whatever texts are looked for in whatever text, the search
by bytes makes no slice out of range or inside of a character, and it finds places in the given order
without overlapping whenever there are any. -/
theorem fixture_accepts_what_it_states {f : Fixture} {book : RuleBook}
    (loads : RuleBook.ofDocument f.rules = .ok book) (plain : f.rulesError = none)
    (clock : Nat → Instant) :
    (f.run clock).map CaseResult.caseName = f.cases.map Case.name ∧
    (∀ (k : Nat) (c : Case), f.cases[k]? = some c →
      ∃ r, (f.run clock)[k]? = some r ∧
        (r.mismatch = none ↔
          ∃ target, c.Names target ∧
            c.Meets (Setting.evaluate ⟨sampleSchemas, book⟩ clock c.group target
              (selectionOf c.fields)
              (Setting.after ⟨sampleSchemas, book⟩
                ((f.cases.take k).filterMap (Case.request? clock)))).1)) ∧
    ∀ parts whole, searchBytes? parts whole = some (firstMissing? parts whole.toList) ∧
      (firstMissing? parts whole.toList = none ↔
        ∃ positions, InOrder parts whole.toList positions) := by
  have hrun : f.run clock = Case.runAll ⟨sampleSchemas, book⟩ clock f.cases .empty := by
    rw [Fixture.run, loads, plain]
  refine ⟨?_, fun k c hc => ?_, fun parts whole => ?_⟩
  · rw [hrun, Case.map_caseName_runAll]
  · rw [hrun, Case.runAll_getElem?, hc]
    exact ⟨_, rfl, (c.run_spec ⟨sampleSchemas, book⟩ clock _).2⟩
  · exact ⟨searchBytes?_eq parts whole, firstMissing?_eq_none_iff parts whole.toList⟩

/-! ## A case at a gate -/

namespace Gate

/-- An account with a role. -/
def account (role : String) : Account :=
  .mk ⟨none, some role, none, none, none, none, none, none, none, []⟩ none none none

/-- A case with two subjects. -/
def twofold : Case :=
  ⟨"twofold", "", [], some (account "admin"), none, some [], some true, none, [], none⟩

/-- An account that is not admitted. -/
def intruder : Case :=
  ⟨"intruder", "", [], some (account "user"), none, none, some false,
    some "Account.role: value \"user\" is not accepted by values [\"admin\"]",
    ["role", "user", "admin"], none⟩

/-- Accounts have to be administrators. -/
def fixture : Fixture where
  name := "gate"
  description := ""
  rules := ⟨.ofList [("Account",
    .ofList [("role", [⟨some [.text "admin"], none, none, [], true, false⟩])])]⟩
  rulesError := none
  cases := [twofold, intruder]

/-- The setting that the cases are run in. -/
def setting : Setting where
  schemas := sampleSchemas
  book := RuleBook.empty.insert "Account" "role" ⟨.values ["admin"], [], true, false⟩

/-- The account is turned away for its role. -/
theorem evaluate_intruder :
    (setting.evaluate (fun _ => ⟨0, 0, by decide⟩) "" (account "user").value none
        (setting.after [])).1 =
      .ok ⟨false, defaultGroup,
        ["Account.role: value \"user\" is not accepted by values [\"admin\"]"]⟩ := by
  have compiles (type : TypeKey) : setting.Compiles type :=
    Setting.compiles_of_listed (by decide +kernel) type
  rw [Setting.evaluate_eq_interpret setting [] _ "" (account "user").value none
    fun _ _ _ target _ => compiles target]
  cbv

/-- The second case passes, whatever becomes of the first one. -/
theorem intruder_is_turned_away :
    RuleBook.ofDocument fixture.rules = .ok setting.book ∧ fixture.rulesError = none ∧
      (fixture.run fun _ => ⟨0, 0, by decide⟩).map CaseResult.caseName = ["twofold", "intruder"] ∧
      ∃ r, (fixture.run fun _ => ⟨0, 0, by decide⟩)[1]? = some r ∧ r.mismatch = none := by
  have loads : RuleBook.ofDocument fixture.rules = .ok setting.book := rfl
  obtain ⟨names, each, -⟩ := fixture_accepts_what_it_states (f := fixture) loads rfl
    fun _ => ⟨0, 0, by decide⟩
  refine ⟨loads, rfl, names, ?_⟩
  obtain ⟨r, hr, passes⟩ := each 1 intruder rfl
  refine ⟨r, hr, passes.mpr ⟨_, .account rfl rfl rfl, ?_⟩⟩
  have chain : firstMissing? intruder.chain (chainText
      ["Account.role: value \"user\" is not accepted by values [\"admin\"]"]).toList = none := by
    decide +kernel
  obtain ⟨positions, inOrder⟩ := (firstMissing?_eq_none_iff _ _).mp chain
  -- the first case names no subject, so it has made no request
  show intruder.Meets (setting.evaluate (fun _ => ⟨0, 0, by decide⟩) "" (account "user").value none
    (setting.after [])).1
  rw [evaluate_intruder]
  exact .verdict rfl rfl (fun _ cause => cause) inOrder

end Gate

end FieldRules
