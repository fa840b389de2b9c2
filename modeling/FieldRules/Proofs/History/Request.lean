import FieldRules.Proofs.Walk.Work

/-!
# `Proofs.History.Request` — sequences of requests and what they leave behind

A history is any sequence of requests to one engine, whatever the answers are. Each request moves
the session by steps, so every history leaves it exact. A request that is not answered by a rule
error is a run of requests that end well, so a history without rule errors leaves the index closed.

## Contents
- **`Request`**, **`Setting.serve`** and **`Setting.serveAll`**, with the rule errors that were
  answered in `Setting.failures`.
- **`serve_steps`** and **`serve_works`**, what one request does.
- **`contains_of_requested`**, the types that are indexed in any case.
- **`exact_after`** and **`closed_after`**, the invariants of histories.
-/

namespace FieldRules

open Calendar

/-! ## Requests -/

/-- A request to an engine. -/
inductive Request where
  /-- To index a type. -/
  | index (type : TypeKey)
  /-- To index a type ahead of its first check. -/
  | prepare (type : TypeKey)
  /-- To check a value, with a clock that gives the instant of each of its readings. -/
  | evaluate (clock : Nat → Instant) (group : String) (target : Value)
      (selection : Option (List String))

/-- The rule error that a check ended with. -/
def CheckError.rule? : CheckError → Option RuleError
  | .rule e => some e
  | .access _ => none
  | .failed _ => none

/-- The error of a result. -/
def errorOf? {ε α : Type} : Except ε α → Option ε
  | .error e => some e
  | .ok _ => none

namespace Setting

/-- Serves a request. The answer is kept as far as it is a rule error. -/
def serve (w : Setting) (q : Request) (s : Session) : Option RuleError × Session :=
  match q with
  | .index type => (errorOf? (w.ensureIndexed type s).1, (w.ensureIndexed type s).2)
  | .prepare type => (errorOf? (w.prepare type s).1, (w.prepare type s).2)
  | .evaluate clock group target selection =>
    ((errorOf? (w.evaluate clock group target selection s).1).bind CheckError.rule?,
      (w.evaluate clock group target selection s).2)

/-- Serves requests in order, whatever the answers are. -/
def serveAll (w : Setting) : List Request → Session → Session
  | [], s => s
  | q :: qs, s => w.serveAll qs (w.serve q s).2

/-- The rule errors among the answers to requests. -/
def failures (w : Setting) : List Request → Session → List RuleError
  | [], _ => []
  | q :: qs, s => (w.serve q s).1.toList ++ w.failures qs (w.serve q s).2

/-- The session after a history that began with nothing indexed. -/
def after (w : Setting) (history : List Request) : Session :=
  w.serveAll history .empty

theorem evaluate_worked (w : Setting) (clock : Nat → Instant) (group : String) (target : Value)
    (selection : Option (List String)) (s : Session) :
    w.Worked s (w.evaluate clock group target selection s) :=
  (Check.checkValue_goes ⟨w, groupNamed group, clock⟩ selection target .empty s).worked.map _

theorem serve_steps (w : Setting) (q : Request) (s : Session) : w.Steps s (w.serve q s).2 := by
  cases q with
  | index type => exact w.ensureIndexed_steps type s
  | prepare type => exact w.ensureIndexed_steps type s
  | evaluate clock group target selection =>
      exact (w.evaluate_worked clock group target selection s).steps

theorem errorOf?_map {ε α β : Type} (r : Except ε α) (f : α → β) :
    errorOf? (r.map f) = errorOf? r := by
  cases r with
  | error e => rfl
  | ok a => rfl

/-- To index a type ahead of its first check is to index it. -/
theorem serve_prepare (w : Setting) (type : TypeKey) (s : Session) :
    w.serve (.prepare type) s = w.serve (.index type) s :=
  Prod.ext (errorOf?_map (w.ensureIndexed type s).1 _) rfl

theorem ensureIndexed_of_answered {w : Setting} {type : TypeKey} {s : Session}
    (h : (w.serve (.index type) s).1 = none) :
    ∃ entry, w.ensureIndexed type s = (.ok entry, (w.serve (.index type) s).2) := by
  have hanswer : errorOf? (w.ensureIndexed type s).1 = none := h
  show ∃ entry, w.ensureIndexed type s = (.ok entry, (w.ensureIndexed type s).2)
  cases heq : w.ensureIndexed type s with
  | mk r s' =>
      rw [heq] at hanswer
      cases r with
      | error e => cases hanswer
      | ok entry => exact ⟨entry, rfl⟩

/-- A request that is not answered by a rule error does no more than requests that end well. -/
theorem serve_works {w : Setting} {q : Request} {s : Session} (h : (w.serve q s).1 = none) :
    w.Works s (w.serve q s).2 := by
  cases q with
  | index type =>
      obtain ⟨entry, hok⟩ := ensureIndexed_of_answered h
      exact .single (.indexed hok)
  | prepare type =>
      rw [serve_prepare] at h ⊢
      obtain ⟨entry, hok⟩ := ensureIndexed_of_answered h
      exact .single (.indexed hok)
  | evaluate clock group target selection =>
      have hworked := w.evaluate_worked clock group target selection s
      have hrule : (errorOf? (w.evaluate clock group target selection s).1).bind
          CheckError.rule? = none := h
      show w.Works s (w.evaluate clock group target selection s).2
      generalize w.evaluate clock group target selection s = p at hworked hrule ⊢
      cases hworked with
      | completed works clean => exact works
      | failed works fails => cases hrule

/-- Requests in a row are the first of them and then the others. -/
theorem serveAll_append (w : Setting) (history more : List Request) (s : Session) :
    w.serveAll (history ++ more) s = w.serveAll more (w.serveAll history s) := by
  induction history generalizing s with
  | nil => rfl
  | cons q qs ih => exact ih (w.serve q s).2

theorem serveAll_steps (w : Setting) (history : List Request) (s : Session) :
    w.Steps s (w.serveAll history s) := by
  induction history generalizing s with
  | nil => exact .refl
  | cons q qs ih => exact (w.serve_steps q s).trans (ih _)

/-- Where no request is answered by a rule error, the first one is not, nor are the others. -/
theorem failures_cons_eq_nil {w : Setting} {q : Request} {qs : List Request} {s : Session}
    (h : w.failures (q :: qs) s = []) :
    (w.serve q s).1 = none ∧ w.failures qs (w.serve q s).2 = [] := by
  obtain ⟨hq, hqs⟩ := List.append_eq_nil_iff.mp h
  refine ⟨?_, hqs⟩
  cases hr : (w.serve q s).1 with
  | none => rfl
  | some e =>
      rw [hr] at hq
      cases hq

theorem serveAll_works {w : Setting} {history : List Request} {s : Session}
    (h : w.failures history s = []) : w.Works s (w.serveAll history s) := by
  induction history generalizing s with
  | nil => exact .refl
  | cons q qs ih =>
      obtain ⟨hq, hqs⟩ := failures_cons_eq_nil h
      exact (serve_works hq).trans (ih hqs)

/-- Where no request is answered by a rule error, the types that are requested are indexed. -/
theorem contains_of_requested {w : Setting} {history : List Request} {s : Session}
    (h : w.failures history s = []) {type : TypeKey}
    (requested : .index type ∈ history ∨ .prepare type ∈ history) :
    (w.serveAll history s).index.contains type = true := by
  induction history generalizing s with
  | nil => exact requested.elim (absurd · List.not_mem_nil) (absurd · List.not_mem_nil)
  | cons q qs ih =>
      obtain ⟨hq, hqs⟩ := failures_cons_eq_nil h
      have first (hindex : w.serve q s = w.serve (.index type) s) :
          (w.serveAll (q :: qs) s).index.contains type = true := by
        rw [hindex] at hq
        obtain ⟨entry, hok⟩ := ensureIndexed_of_answered hq
        rw [serveAll, hindex]
        exact (w.serveAll_steps qs _).contains (ensureIndexed_closedBut hok).1
      rcases requested with hmem | hmem
      · rcases List.mem_cons.mp hmem with rfl | hmem
        · exact first rfl
        · exact ih hqs (.inl hmem)
      · rcases List.mem_cons.mp hmem with rfl | hmem
        · exact first (w.serve_prepare type s)
        · exact ih hqs (.inr hmem)

/-- **Every history leaves the session exact.** -/
theorem exact_after (w : Setting) (history : List Request) : w.Exact (w.after history) :=
  (Exact.empty w).steps (w.serveAll_steps history .empty)

/-- **A history without a rule error leaves the index closed.** -/
theorem closed_after {w : Setting} {history : List Request}
    (h : w.failures history .empty = []) : w.Closed (w.after history).index :=
  (serveAll_works h).closed fun _ _ hc _ => by cases hc

end Setting

end FieldRules
