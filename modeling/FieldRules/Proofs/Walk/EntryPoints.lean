import FieldRules.Proofs.Walk.Ending

/-!
# `Proofs.Walk.EntryPoints` — three kinds of questions with one answer

A check can be asked for its verdict, for whether it passes, or to be demanded. The three read one
verdict in different ways: the first gives it as it is, the second only whether it passes, the third
turns it into a failure unless it passes. Errors that end a check early go through all three as they
are.

A failure shows the last entry of its chain, and an empty text for a chain without entries. The
latter is never seen, because a verdict that does not pass has an entry.

## Contents
- **`Verdict.result_of_passed`** and **`Verdict.result_of_failed`**, a verdict as a result.
- **`evaluate_groupNamed`**: a blank group is the default group.
- **`entry_points_agree`**.
-/

namespace FieldRules

open Calendar

/-! ## Verdicts as results -/

theorem Verdict.result_of_passed {v : Verdict} (h : v.passed = true) : v.result = .ok () := by
  rw [result, if_pos h]

theorem Verdict.result_of_failed {v : Verdict} (h : v.passed = false) :
    v.result = .error ⟨v.group, v.chain⟩ := by
  rw [result, h]
  rfl

/-- A verdict that does not pass has a last entry, and its failure shows that entry. -/
theorem Concluded.exists_cause {group : String} {v : Verdict} (h : Concluded group (.ok v))
    (hfailed : v.passed = false) :
    ∃ cause, v.chain.getLast? = some cause ∧ (Failure.mk v.group v.chain).cause = cause := by
  cases h with
  | passed => cases hfailed
  | @failed chain recorded =>
      have hlast : chain.getLast? = some (chain.getLast recorded) :=
        List.getLast?_eq_some_getLast recorded
      refine ⟨chain.getLast recorded, hlast, ?_⟩
      show chain.getLast?.getD "" = chain.getLast recorded
      rw [hlast]
      rfl

/-- A check ends early with a rule error or with an error for a field that cannot be read. -/
theorem Concluded.rule_or_access {group : String} {e : CheckError}
    (h : Concluded group (.error e)) : (∃ fault, e = .rule fault) ∨ ∃ fault, e = .access fault := by
  cases h with
  | @malformed fault => exact .inl ⟨fault, rfl⟩
  | @unread fault => exact .inr ⟨fault, rfl⟩

namespace Setting

variable (w : Setting) (clock : Nat → Instant) (group : String)

/-! ## Groups -/

/-- A check in a blank group is a check in the default group. -/
theorem evaluate_groupNamed (target : Value) (selection : Option (List String)) (s : Session) :
    w.evaluate clock (groupNamed group) target selection s =
      w.evaluate clock group target selection s := by
  rw [evaluate_eq, evaluate_eq, groupNamed_groupNamed]

theorem checkGroupFields_groupNamed (target : Value) (fields : List String) (s : Session) :
    w.checkGroupFields clock (groupNamed group) target fields s =
      w.checkGroupFields clock group target fields s := by
  rw [checkGroupFields, checkGroupFields, evaluate_groupNamed]

theorem validateGroupFields_groupNamed (target : Value) (fields : List String) (s : Session) :
    w.validateGroupFields clock (groupNamed group) target fields s =
      w.validateGroupFields clock group target fields s := by
  rw [validateGroupFields, validateGroupFields, evaluate_groupNamed]

/-! ## The three kinds of entry points -/

/-- **The entry points agree.** Take the answer of a check of the listed fields, or of all fields
where the list is empty, in any group and whatever the engine knows. If it is a verdict, then the
second entry point answers whether it passes, and the third is content exactly if it passes; else
the third answers with a failure, which has the group and the chain of the verdict and shows the last
entry of that chain. If the check has ended with an error, it is one for a malformed rule or for a
field that cannot be read, and both answer with the same one. Both leave the engine as the check
does. A blank group stands for the default group, and the other entry points are these two in the
default group or without a list of fields. -/
theorem entry_points_agree (object : Value) (fields : List String) (s : Session) :
    (∀ verdict,
      (w.evaluate clock group object (if fields = [] then none else some fields) s).1 =
          .ok verdict →
        verdict.group = groupNamed group ∧
        (w.checkGroupFields clock group object fields s).1 = .ok verdict.passed ∧
        ((w.validateGroupFields clock group object fields s).1 = .ok () ↔
          verdict.passed = true) ∧
        (verdict.passed = false → ∃ failure cause,
          (w.validateGroupFields clock group object fields s).1 = .error (.failed failure) ∧
          failure.group = verdict.group ∧ failure.chain = verdict.chain ∧
          failure.chain.getLast? = some cause ∧ failure.cause = cause)) ∧
    (∀ e,
      (w.evaluate clock group object (if fields = [] then none else some fields) s).1 =
          .error e →
        ((∃ fault, e = .rule fault) ∨ ∃ fault, e = .access fault) ∧
        (w.checkGroupFields clock group object fields s).1 = .error e ∧
        (w.validateGroupFields clock group object fields s).1 = .error e) ∧
    (w.checkGroupFields clock group object fields s).2 =
      (w.evaluate clock group object (if fields = [] then none else some fields) s).2 ∧
    (w.validateGroupFields clock group object fields s).2 =
      (w.evaluate clock group object (if fields = [] then none else some fields) s).2 ∧
    (Text.allBlank group = true →
      w.checkGroupFields clock group object fields s =
          w.checkGroupFields clock defaultGroup object fields s ∧
        w.validateGroupFields clock group object fields s =
          w.validateGroupFields clock defaultGroup object fields s) ∧
    (w.check clock object s = w.checkGroupFields clock defaultGroup object [] s ∧
      w.checkFields clock object fields s =
        w.checkGroupFields clock defaultGroup object fields s ∧
      w.checkGroup clock group object s = w.checkGroupFields clock group object [] s) ∧
    (w.validate clock object s = w.validateGroupFields clock defaultGroup object [] s ∧
      w.validateFields clock object fields s =
        w.validateGroupFields clock defaultGroup object fields s ∧
      w.validateGroup clock group object s = w.validateGroupFields clock group object [] s) := by
  have hselection : (if fields = [] then none else some fields) = selectionOf fields := by
    cases fields with
    | nil => rfl
    | cons f rest => rfl
  rw [hselection]
  have hcheck : (w.checkGroupFields clock group object fields s).1 =
      (w.evaluate clock group object (selectionOf fields) s).1.map Verdict.passed := rfl
  have hvalidate : (w.validateGroupFields clock group object fields s).1 =
      (w.evaluate clock group object (selectionOf fields) s).1.bind
        fun v => v.result.mapError .failed := rfl
  have hconcluded := w.evaluate_concluded clock group object (selectionOf fields) s
  refine ⟨?_, ?_, rfl, rfl, ?_, ⟨rfl, rfl, rfl⟩, rfl, rfl, rfl⟩
  · intro verdict hverdict
    rw [hverdict] at hcheck hvalidate hconcluded
    have hgroup : verdict.group = groupNamed group := by
      cases hconcluded with
      | passed => rfl
      | failed recorded => rfl
    refine ⟨hgroup, hcheck, ?_, ?_⟩
    · rw [hvalidate]
      show verdict.result.mapError CheckError.failed = .ok () ↔ verdict.passed = true
      cases hpassed : verdict.passed with
      | true =>
          rw [Verdict.result_of_passed hpassed]
          exact ⟨fun _ => rfl, fun _ => rfl⟩
      | false =>
          rw [Verdict.result_of_failed hpassed]
          exact ⟨nofun, nofun⟩
    · intro hfailed
      obtain ⟨cause, hlast, hcause⟩ := hconcluded.exists_cause hfailed
      refine ⟨⟨verdict.group, verdict.chain⟩, cause, ?_, rfl, rfl, hlast, hcause⟩
      rw [hvalidate]
      show verdict.result.mapError CheckError.failed = _
      rw [Verdict.result_of_failed hfailed]
      rfl
  · intro e he
    rw [he] at hcheck hvalidate hconcluded
    exact ⟨hconcluded.rule_or_access, hcheck, hvalidate⟩
  · intro hblank
    have hgroup : groupNamed group = defaultGroup := by rw [groupNamed, if_pos hblank]
    rw [← w.checkGroupFields_groupNamed clock group, ← w.validateGroupFields_groupNamed clock group,
      hgroup]
    exact ⟨rfl, rfl⟩

end Setting

end FieldRules
