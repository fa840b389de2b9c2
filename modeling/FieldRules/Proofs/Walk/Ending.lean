import FieldRules.Proofs.Walk.Work

/-!
# `Proofs.Walk.Ending` — the four ways in which a check ends

A part of a check is handed the chain of entries that was recorded before it. Whatever the engine
knows, the part ends in one of four ways: it passes and leaves the chain as it was, it fails and has
put at least one entry behind those of the chain, a malformed rule was met, or a field could not be
read. It never ends with a failure as an error; that is made of a verdict later.

A check as a whole begins with no entries. So a verdict that passes has none, and a verdict that does
not pass has a last one.

## Contents
- **`Ended`**, the four ways for a part.
- **`Check.Goes.ended`**: every part ends in one of them.
- **`Concluded`** and **`evaluate_concluded`**, the four answers of a check.
-/

namespace FieldRules

open Calendar

/-! ## How a part ends -/

/-- `Ended chain p`: a part of a check that was handed `chain` has ended as `p`. -/
inductive Ended (chain : Chain) : Progress → Prop where
  | passed {s} : Ended chain (.ok (true, chain), s)
  | failed {entries s} (recorded : entries ≠ []) :
      Ended chain (.ok (false, ⟨chain.entries ++ entries⟩), s)
  | malformed {e s} : Ended chain (.error (.rule e), s)
  | unread {e s} : Ended chain (.error (.access e), s)

namespace Ended

variable {chain chain' : Chain} {p : Progress} {s : Session}

/-- **A part that passes leaves the chain as it was.** -/
theorem chain_eq (h : Ended chain (.ok (true, chain'), s)) : chain' = chain := by
  cases h with
  | passed => rfl

/-- A judgement passes or records its entry. -/
theorem judged (chain : Chain) (entry : Option String) (s : Session) :
    Ended chain (.ok (chain.judged entry), s) := by
  cases entry with
  | none => exact .passed
  | some text => exact .failed (List.cons_ne_nil text [])

/-- An object in a field: its entry comes in front of those that were recorded inside of it. -/
theorem inField (entry : String) (h : Ended chain p) :
    Ended chain
      (p.1.map fun ended =>
        if ended.1 then ended else (false, ended.2.failAt chain.mark entry), p.2) := by
  cases h with
  | passed => exact .passed
  | malformed => exact .malformed
  | unread => exact .unread
  | @failed entries s recorded =>
      show Ended chain
        (.ok (false, (Chain.mk (chain.entries ++ entries)).failAt chain.mark entry), s)
      rw [Chain.failAt_mark]
      exact .failed (List.cons_ne_nil entry entries)

end Ended

/-- **Every part of a check ends in one of the four ways.** -/
theorem Check.Goes.ended {c : Check} {met : List TypeKey} {chain : Chain} {s : Session}
    {p : Progress} (h : c.Goes met chain s p) : Ended chain p := by
  induction h with
  | passed => exact .passed
  | unread => exact .unread
  | judged entry alike => exact .judged _ entry _
  | failed fails => exact .malformed
  | indexed ok next ih => exact ih
  | andThen first next ih ih' =>
      -- the part that passed has handed on the chain as it was
      obtain rfl := ih.chain_eq
      exact ih'
  | inField entry inside ih => exact ih.inField entry

/-! ## The answers of a check -/

/-- The four answers of a check in a group. -/
inductive Concluded (group : String) : Except CheckError Verdict → Prop where
  | passed : Concluded group (.ok ⟨true, group, []⟩)
  | failed {chain} (recorded : chain ≠ []) : Concluded group (.ok ⟨false, group, chain⟩)
  | malformed {e} : Concluded group (.error (.rule e))
  | unread {e} : Concluded group (.error (.access e))

/-- Whether a check has ended with a verdict that passes. -/
def passes : Except CheckError Verdict → Bool
  | .ok verdict => verdict.passed
  | .error _ => false

/-- There is only one verdict that passes. -/
theorem Concluded.eq_of_passes {group : String} {r : Except CheckError Verdict}
    (h : Concluded group r) (hpasses : passes r = true) : r = .ok ⟨true, group, []⟩ := by
  cases h with
  | passed => rfl
  | failed recorded => cases hpasses
  | malformed => cases hpasses
  | unread => cases hpasses

/-- The verdict of a part that was handed no entries. -/
def verdictOf (group : String) (p : Progress) : Except CheckError Verdict × Session :=
  (p.1.map fun (passed, chain) => ⟨passed, group, chain.entries⟩, p.2)

theorem Ended.concluded {p : Progress} (h : Ended .empty p) (group : String) :
    Concluded group (verdictOf group p).1 := by
  cases h with
  | passed => exact .passed
  | failed recorded => exact .failed recorded
  | malformed => exact .malformed
  | unread => exact .unread

namespace Setting

variable (w : Setting) (clock : Nat → Instant) (group : String)

theorem evaluate_eq (v : Value) (selection : Option (List String)) (s : Session) :
    w.evaluate clock group v selection s =
      verdictOf (groupNamed group)
        (Check.checkValue ⟨w, groupNamed group, clock⟩ selection v .empty s) := rfl

/-- **Every check gives one of four answers,** whatever the engine knows: a verdict that passes, with
no entries; one that does not, with at least one entry; a rule error, or an error for a field that
cannot be read. Verdicts name the group that is meant. -/
theorem evaluate_concluded (v : Value) (selection : Option (List String)) (s : Session) :
    Concluded (groupNamed group) (w.evaluate clock group v selection s).1 :=
  (Check.checkValue_goes ⟨w, groupNamed group, clock⟩ selection v .empty s).ended.concluded _

end Setting

end FieldRules
