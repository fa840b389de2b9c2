import FieldRules.Proofs.History.Request
import Mathlib

/-!
# `Proofs.History.Laws` — what holds after every history

Index and registry stay exact whatever was requested before and however it was answered. With
failures it is different: while a type is under way, types that lead back to it are published, and
they stay published if the type fails in the end. Later requests find them indexed and do not look
behind them again. So a request fails exactly if a malformed rule is reached through types that are
not indexed, which after a history without rule errors is the same as that it is reached at all.

## Contents
- **`index_and_registry_exact`**, the invariant of all histories, written out.
- **`request_fails_iff`**, when a request is answered by a rule error.
- **`Entangled.setting`** and **`malformed_rule_forgotten`**: two types that lead to each other, one
  of them with a malformed rule, which a second request does not report.
-/

namespace FieldRules

namespace Setting

/-! ## Index and registry -/

/-- **Index and registry after any history.** Of an indexed type all rules compile, the index lists
its fields that need attention, and a slot holds the compiled rules for it, split by polarity. All
slots of other types are empty, and nothing is registered beyond the rules of indexed types. -/
theorem index_and_registry_exact (w : Setting) (history : List Request) :
    (∀ type, (w.after history).index.contains type = true →
      w.Compiles type ∧
      (w.after history).index.get? type =
        some ⟨type, w.indexed type (w.schemas.of type).fields⟩ ∧
      ∀ group field, (w.after history).registry.resolve ⟨group, type, field⟩ =
        ⟨(w.matchersOn group type field).filter (·.polarity = .accept),
          (w.matchersOn group type field).filter (·.polarity = .reject)⟩) ∧
    (∀ type, (w.after history).index.contains type = false →
      ∀ group field, (w.after history).registry.resolve ⟨group, type, field⟩ = ⟨[], []⟩) ∧
    (w.after history).registry.size =
      (((w.after history).index.classes.map ClassIndex.type).map w.filedCount).sum := by
  have h := w.exact_after history
  refine ⟨?_, ?_, h.size⟩
  · intro type indexed
    exact ⟨h.compiles type indexed, h.entry type indexed,
      fun group field => h.resolve group type field indexed⟩
  · intro type new group field
    exact h.vacant group type field new

/-! ## Failures -/

/-- To index a type ahead of its first check fails as its request does. -/
theorem prepare_error_iff (w : Setting) (type : TypeKey) (s : Session) :
    (∃ e, (w.prepare type s).1 = .error e) ↔ ∃ e, (w.ensureIndexed type s).1 = .error e := by
  have hprepare : (w.prepare type s).1 = (w.ensureIndexed type s).1.map fun _ => () := rfl
  rw [hprepare]
  constructor
  · rintro ⟨e, he⟩
    exact ⟨e, map_eq_error he⟩
  · rintro ⟨e, he⟩
    rw [he]
    exact ⟨e, rfl⟩

/-- After a history without rule errors, all paths to malformed rules are still open. -/
theorem reachesNew_after_iff {w : Setting} {history : List Request}
    (h : w.failures history .empty = []) (type : TypeKey) :
    (∃ bad, w.ReachesNew (w.after history).index type bad ∧ w.Malformed bad) ↔
      ∃ bad, w.Reaches type bad ∧ w.Malformed bad := by
  constructor
  · rintro ⟨bad, hpath, hbad⟩
    exact ⟨bad, hpath.reaches, hbad⟩
  · rintro ⟨bad, hpath, hbad⟩
    exact ⟨bad, (closed_after h).reachesNew (w.exact_after history) hpath hbad, hbad⟩

/-- **When a request fails.** After any history, a request for a type is answered by a rule error
exactly if types that are not indexed lead from it to a malformed rule. Where no request of the
history was answered by one, that is so exactly if the type reaches a malformed rule. -/
theorem request_fails_iff (w : Setting) (history : List Request) (type : TypeKey) :
    ((∃ e, (w.ensureIndexed type (w.after history)).1 = .error e) ↔
      ∃ bad, w.ReachesNew (w.after history).index type bad ∧ w.Malformed bad) ∧
    ((∃ e, (w.prepare type (w.after history)).1 = .error e) ↔
      ∃ bad, w.ReachesNew (w.after history).index type bad ∧ w.Malformed bad) ∧
    (w.failures history .empty = [] →
      ((∃ e, (w.ensureIndexed type (w.after history)).1 = .error e) ↔
        ∃ bad, w.Reaches type bad ∧ w.Malformed bad)) := by
  have hfails := ensureIndexed_error_iff (w.exact_after history) type
  refine ⟨hfails, (w.prepare_error_iff type _).trans hfails, ?_⟩
  intro clean
  exact hfails.trans (reachesNew_after_iff clean type)

/-! ## Two types that lead to each other -/

namespace Entangled

/-- The type that is requested first. -/
def outer : TypeKey := ⟨"A", "A"⟩

/-- The type that it leads to, and that leads back. -/
def inner : TypeKey := ⟨"B", "B"⟩

/-- A field that holds an inner object, and after it a field with a rule on literals that lists
none; inner objects hold an outer one. -/
def setting : Setting where
  schemas := ⟨[
    (outer, ⟨[
      ⟨"b", .nested inner, [], true⟩,
      ⟨"bad", .leaf, [⟨.values [], [], true, false⟩], false⟩]⟩),
    (inner, ⟨[⟨"a", .nested outer, [], true⟩]⟩)]⟩
  book := .empty

theorem malformed_outer : setting.Malformed outer :=
  ⟨⟨"bad", .leaf, [⟨.values [], [], true, false⟩], false⟩, by decide,
    ⟨.values [], [], true, false⟩, by decide, .emptyValues, rfl⟩

theorem reaches_outer : setting.Reaches inner outer :=
  .single ⟨⟨"a", .nested outer, [], true⟩, by decide, by decide, rfl, .inl rfl⟩

/-- While the outer type is under way, the inner one is published. -/
theorem inner_indexed : (setting.after [.index outer]).index.contains inner = true := by
  cbv

/-- A request for the inner type fails before anything else has failed. -/
theorem inner_fails_after_success :
    setting.failures [.prepare ⟨"C", "C"⟩] .empty = [] ∧
      ∃ e, (setting.ensureIndexed inner (setting.after [.prepare ⟨"C", "C"⟩])).1 = .error e := by
  have clean : setting.failures [.prepare ⟨"C", "C"⟩] .empty = [] := by cbv
  exact ⟨clean, ((request_fails_iff setting _ inner).2.2 clean).mpr
    ⟨outer, reaches_outer, malformed_outer⟩⟩

/-- **A malformed rule is forgotten.** Once the outer type has failed, a request for the inner one
ends well, although it reaches the malformed rule. -/
theorem malformed_rule_forgotten :
    (∃ bad, setting.Reaches inner bad ∧ setting.Malformed bad) ∧
      ¬∃ e, (setting.ensureIndexed inner (setting.after [.index outer])).1 = .error e := by
  refine ⟨⟨outer, reaches_outer, malformed_outer⟩, ?_⟩
  intro herror
  obtain ⟨bad, ⟨hnew, -⟩, -⟩ :=
    (ensureIndexed_error_iff (setting.exact_after [.index outer]) inner).mp herror
  rw [inner_indexed] at hnew
  cases hnew

end Entangled

end Setting

end FieldRules
