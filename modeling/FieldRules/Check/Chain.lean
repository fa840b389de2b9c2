/-!
# `FieldRules.Check.Chain` — the entries that a check records

A check carries a chain of entries through the whole walk. A part that passes leaves it as it was.
An innermost failure is recorded at the end. On the way out, an outer failure belongs in front of
what was recorded inside of it but behind all that was there before: the length of the chain at the
beginning of a part marks that place.

## Contents
- **`Chain`**, with `mark`, `fail` and `failAt`.
- **`Chain.judged`**, the outcome of a judgement.
-/

namespace FieldRules

/-- The entries that a check has recorded so far. -/
structure Chain where
  entries : List String
  deriving DecidableEq, Repr

namespace Chain

/-- Nothing is recorded yet. -/
def empty : Chain :=
  ⟨[]⟩

/-- The place for an outer entry, should a part that begins now fail. -/
def mark (c : Chain) : Nat :=
  c.entries.length

/-- Records an innermost failure. -/
def fail (c : Chain) (entry : String) : Chain :=
  ⟨c.entries ++ [entry]⟩

/-- Records an outer failure in front of everything recorded since a mark. -/
def failAt (c : Chain) (mark : Nat) (entry : String) : Chain :=
  ⟨c.entries.insertIdx (min mark c.entries.length) entry⟩

/-- Whether a judgement passed, with the chain afterwards: an entry is there where it did not. -/
def judged (c : Chain) : Option String → Bool × Chain
  | none => (true, c)
  | some entry => (false, c.fail entry)

/-- An outer entry stands between what was recorded before the mark and what was after it. -/
theorem failAt_mark (c : Chain) (since : List String) (entry : String) :
    (Chain.mk (c.entries ++ since)).failAt c.mark entry = ⟨c.entries ++ entry :: since⟩ := by
  have hplace : min c.mark (c.entries ++ since).length = c.entries.length := by
    rw [mark, List.length_append]
    omega
  rw [failAt, hplace]
  congr 1
  induction c.entries with
  | nil => rfl
  | cons e es ih => exact congrArg (e :: ·) ih

end Chain

end FieldRules
