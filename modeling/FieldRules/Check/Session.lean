import FieldRules.Check.Event
import FieldRules.Store.Index
import FieldRules.Store.Registry
import FieldRules.Store.RuleBook

/-!
# `FieldRules.Check.Session` — what the engine knows and what it works from

## Contents
- **`Setting`**, the schemas and the rule book that stay the same.
- **`Session`**, what grows with every request: the index, the registry, the events, and how often
  the clock was read.
- **`Setting.enabledRules`**, the rules on a declared field that have an effect.
-/

namespace FieldRules

/-- What every request works from. -/
structure Setting where
  schemas : Schemas
  book : RuleBook
  deriving DecidableEq, Repr

/-- The rules on a declared field that are not disabled: those of the declaration, then those of the
rule book. -/
def Setting.enabledRules (w : Setting) (type : TypeKey) (f : Field) : List Rule :=
  (f.rules ++ w.book.rulesFor type.shortName f.name).filter Rule.isEnabled

/-- What the engine knows after some requests. -/
structure Session where
  index : Index
  registry : Registry
  /-- The events so far, the latest first. -/
  trail : List Event
  /-- How often the clock was read. -/
  readings : Nat
  deriving DecidableEq, Repr

namespace Session

/-- Nothing is known yet. -/
def empty : Session :=
  ⟨.empty, .empty, [], 0⟩

/-- Reports an event. -/
def report (s : Session) (e : Event) : Session :=
  { s with trail := e :: s.trail }

/-- Reports events in order. -/
def reportAll (s : Session) (es : List Event) : Session :=
  es.foldl report s

/-- The events so far, in order. -/
def events (s : Session) : List Event :=
  s.trail.reverse

/-- Forgets the events. -/
def clearTrail (s : Session) : Session :=
  { s with trail := [] }

@[simp]
theorem index_report (s : Session) (e : Event) : (s.report e).index = s.index := rfl

@[simp]
theorem registry_report (s : Session) (e : Event) : (s.report e).registry = s.registry := rfl

@[simp]
theorem index_reportAll (s : Session) (es : List Event) : (s.reportAll es).index = s.index := by
  induction es generalizing s with
  | nil => rfl
  | cons e es ih => exact ih (s.report e)

@[simp]
theorem registry_reportAll (s : Session) (es : List Event) :
    (s.reportAll es).registry = s.registry := by
  induction es generalizing s with
  | nil => rfl
  | cons e es ih => exact ih (s.report e)

@[simp]
theorem readings_report (s : Session) (e : Event) : (s.report e).readings = s.readings := rfl

@[simp]
theorem readings_reportAll (s : Session) (es : List Event) :
    (s.reportAll es).readings = s.readings := by
  induction es generalizing s with
  | nil => rfl
  | cons e es ih => exact ih (s.report e)

end Session

end FieldRules
