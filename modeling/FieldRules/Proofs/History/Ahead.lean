import FieldRules.Proofs.History.FirstFault
import FieldRules.Proofs.Walk.Abreast
import FieldRules.Proofs.Walk.Added

/-!
# `Proofs.History.Ahead` — a check in a session that knows more

Two sessions of one engine may differ in what is indexed. One is ahead of the other if all that it
has indexed besides leads only to types that it has indexed too (`Ahead`). Requests that end well
bring a session ahead of where it was.

A check gives the same answer in both, as long as the clock stands still. Where both sessions know a
type, they hold the same matchers for it. Where only the one that is ahead knows it, the other one
indexes it without meeting a malformed rule, because everything behind it compiles. Where none knows
it, both may meet a malformed rule, and it is the same one: to leave out types that compile and lead
back to types that are left out as well does not change which malformed rule is met first. After
each request that ends well, the session that was ahead still is.

## Contents
- **`firstFault_ahead`**: agendas have the same first fault for both sessions.
- **`Ahead`**, with `Ahead.works` and **`Ahead.ensureIndexed`**.
- **`Check.Still.sideBySide`**: a check takes the same course in both sessions.
- **`answers_stand`**: requests that are answered without rule errors change no later answer.
-/

namespace FieldRules

open Calendar

namespace Setting

/-! ## The first fault with more types indexed -/

/-- Nothing on a field is malformed, and it leads nowhere or to an indexed type. -/
def SettledOn (w : Setting) (i : Index) (type : TypeKey) (f : Field) : Prop :=
  w.CompilesOn type f ∧ ∀ target, w.leadsTo? type f = some target → i.contains target = true

/-- Two lists of entered types that differ in indexed types only. -/
def SameOutside (i : Index) (entered entered' : List TypeKey) : Prop :=
  ∀ type, i.contains type = false → (type ∈ entered ↔ type ∈ entered')

theorem SameOutside.refl (i : Index) (entered : List TypeKey) : SameOutside i entered entered :=
  fun _ _ => Iff.rfl

theorem SameOutside.trans {i : Index} {entered entered' entered'' : List TypeKey}
    (h : SameOutside i entered entered') (h' : SameOutside i entered' entered'') :
    SameOutside i entered entered'' :=
  fun type hc => (h type hc).trans (h' type hc)

theorem SameOutside.cons {i : Index} {entered entered' : List TypeKey}
    (h : SameOutside i entered entered') (type : TypeKey) :
    SameOutside i (type :: entered) (type :: entered') := by
  intro t hc
  rw [List.mem_cons, List.mem_cons, h t hc]

/-- To enter an indexed type makes no difference to the others. -/
theorem SameOutside.cons_indexed {i : Index} {type : TypeKey} (hc : i.contains type = true)
    (entered : List TypeKey) : SameOutside i (type :: entered) entered := by
  intro t ht
  have hne : t ≠ type := by
    rintro rfl
    rw [hc] at ht
    cases ht
  rw [List.mem_cons, or_iff_right hne]

section FirstFault

variable {w : Setting} {i i' : Index}

/-- A declared field leads from its type to another one. -/
theorem leads_of_leadsTo? {type target : TypeKey} {f : Field}
    (hf : f ∈ (w.schemas.of type).fields) (h : w.leadsTo? type f = some target) :
    w.Leads type target := by
  by_cases hr : w.enabledRules type f = []
  · rw [leadsTo?_of_ruleless hr] at h
    obtain ⟨⟨kind, target'⟩, ht, rfl⟩ := Option.map_eq_some_iff.mp h
    exact leads_iff.mpr ⟨f, hf, hr, kind, ht⟩
  · rw [leadsTo?_of_ruled hr] at h
    cases h

/-- All fields of a type that was added are settled. -/
theorem ClosedBut.settledOn (settled : w.ClosedBut [] i i')
    (compiles : ∀ type, i'.contains type = true → w.Compiles type) {type : TypeKey}
    (added : i'.contains type = true) (new : i.contains type = false) :
    ∀ p ∈ w.agendaOf type, w.SettledOn i' p.1 p.2 := by
  intro p hp
  obtain ⟨f, hf, rfl⟩ := List.mem_map.mp hp
  refine ⟨compiles type added f hf, fun target hlead => ?_⟩
  rcases settled type added with hold | hleads
  · rw [new] at hold
    cases hold
  · exact (hleads target (leads_of_leadsTo? hf hlead)).resolve_left List.not_mem_nil

/-- **Settled fields are passed, with all that is behind them.** On the way only types are entered
that were added, and all of their fields are settled again. -/
theorem firstFault_of_settled (settled : w.ClosedBut [] i i')
    (compiles : ∀ type, i'.contains type = true → w.Compiles type) (entered : List TypeKey)
    (agenda : List (TypeKey × Field)) :
    ∀ front rest, agenda = front ++ rest → (∀ p ∈ front, w.SettledOn i' p.1 p.2) →
      ∃ entered', SameOutside i' entered' entered ∧
        w.firstFault i entered agenda = w.firstFault i entered' rest := by
  induction entered, agenda using Setting.rulesMet.induct w i with
  | case1 entered =>
      intro front rest hsplit hfront
      obtain ⟨rfl, rfl⟩ := List.append_eq_nil_iff.mp hsplit.symm
      exact ⟨entered, .refl i' entered, rfl⟩
  | case2 entered type f later ih ihEntered =>
      intro front rest hsplit hfront
      cases front with
      | nil => exact ⟨entered, .refl i' entered, by rw [hsplit, List.nil_append]⟩
      | cons p front =>
          obtain ⟨rfl, rfl⟩ := List.cons.inj hsplit
          obtain ⟨⟨hcompiles, hleads⟩, hfront⟩ := List.forall_mem_cons.mp hfront
          by_cases hnew : ∃ target, w.leadsTo? type f = some target ∧
              target ∉ entered ∧ i.contains target = false
          · obtain ⟨target, hlead, new⟩ := hnew
            have hadded := hleads target hlead
            have hfields := settled.settledOn compiles hadded new.2
            obtain ⟨entered', same, hpassed⟩ := ihEntered target new (w.agendaOf target ++ front)
              rest (List.append_assoc ..).symm fun p hp =>
                (List.mem_append.mp hp).elim (hfields p) (hfront p)
            refine ⟨entered', same.trans (.cons_indexed hadded entered), ?_⟩
            rw [firstFault_of_entered hlead new, hpassed]
          · obtain ⟨entered', same, hpassed⟩ := ih front rest rfl hfront
            refine ⟨entered', same, ?_⟩
            rw [firstFault_of_passed hcompiles fun target hlead => ?_, hpassed]
            by_contra hunknown
            rw [not_or, Bool.not_eq_true] at hunknown
            exact hnew ⟨target, hlead, hunknown⟩

/-- **Added types do not change the first fault.** Both agendas meet the same fields of types that
are not indexed in the end; at a field that leads to a type that was added, the one passes that type
over while the other takes its settled fields. -/
theorem firstFault_ahead (grown : ∀ type, i.contains type = true → i'.contains type = true)
    (settled : w.ClosedBut [] i i')
    (compiles : ∀ type, i'.contains type = true → w.Compiles type) (entered' : List TypeKey)
    (agenda : List (TypeKey × Field)) :
    ∀ entered, SameOutside i' entered entered' →
      w.firstFault i entered agenda = w.firstFault i' entered' agenda := by
  induction entered', agenda using Setting.rulesMet.induct w i' with
  | case1 entered' =>
      intro entered same
      rw [firstFault_nil, firstFault_nil]
  | case2 entered' type f rest ih ihEntered =>
      intro entered same
      cases hcompile : w.compileField type f with
      | error e => rw [firstFault_of_malformed hcompile, firstFault_of_malformed hcompile]
      | ok rules =>
          have hcompiles := (compileField_ok hcompile).1
          by_cases hnew : ∃ target, w.leadsTo? type f = some target ∧ i'.contains target = false
          · obtain ⟨target, hlead, new⟩ := hnew
            have new' : i.contains target = false := by
              cases hc : i.contains target with
              | false => rfl
              | true => rw [grown target hc] at new; cases new
            have hentered := same target new
            by_cases hmem : target ∈ entered'
            · -- both have entered the type before
              have hmet {es : List TypeKey} {j : Index} (h : target ∈ es) :
                  ∀ t, w.leadsTo? type f = some t → t ∈ es ∨ j.contains t = true := by
                intro t ht
                cases hlead.symm.trans ht
                exact .inl h
              rw [firstFault_of_passed hcompiles (hmet (hentered.mpr hmem)),
                firstFault_of_passed hcompiles (hmet hmem)]
              exact ih entered same
            · have hmem' : target ∉ entered := fun h => hmem (hentered.mp h)
              rw [firstFault_of_entered hlead ⟨hmem', new'⟩,
                firstFault_of_entered hlead ⟨hmem, new⟩]
              exact ihEntered target ⟨hmem, new⟩ (target :: entered) (same.cons target)
          · have hknown : ∀ target, w.leadsTo? type f = some target →
                i'.contains target = true := by
              intro target hlead
              by_contra hc
              exact hnew ⟨target, hlead, Bool.not_eq_true _ ▸ hc⟩
            obtain ⟨entered₁, same₁, hpassed⟩ := firstFault_of_settled settled compiles entered
              ((type, f) :: rest) [(type, f)] rest rfl
              (List.forall_mem_singleton.mpr ⟨hcompiles, hknown⟩)
            rw [hpassed, firstFault_of_passed hcompiles fun target ht => .inr (hknown target ht)]
            exact ih entered₁ (same₁.trans same)

end FirstFault

/-! ## Sessions ahead of others -/

/-- One session is ahead of another: it has indexed no less, and what it has indexed besides leads
only to types that it has indexed too. -/
structure Ahead (w : Setting) (s t : Session) : Prop where
  /-- The session that is behind. -/
  behind : w.Exact s
  /-- The session that is ahead. -/
  ahead : w.Exact t
  grown : ∀ type, s.index.contains type = true → t.index.contains type = true
  settled : w.ClosedBut [] s.index t.index

namespace Ahead

variable {w : Setting} {s s' t t' : Session} {type : TypeKey}

theorem refl (h : w.Exact s) : w.Ahead s s :=
  ⟨h, h, fun _ hc => hc, .refl s.index⟩

theorem of_alike (h : w.Ahead s t) (hs : s.Alike s') (ht : t.Alike t') : w.Ahead s' t' := by
  refine ⟨h.behind.of_alike hs, h.ahead.of_alike ht, ?_, ?_⟩
  · rw [hs.index, ht.index]
    exact h.grown
  · rw [hs.index, ht.index]
    exact h.settled

/-- What ends well brings a session further ahead. -/
theorem work (h : w.Ahead s t) (hwork : w.Work t t') : w.Ahead s t' := by
  have hle (type : TypeKey) := @Steps.contains w _ _ hwork.steps type
  refine ⟨h.behind, h.ahead.steps hwork.steps, fun type hc => hle type (h.grown type hc), ?_⟩
  cases hwork with
  | noted alike =>
      rw [alike.index]
      exact h.settled
  | indexed ok => exact h.settled.trans hle (ensureIndexed_closedBut ok).2

theorem works (h : w.Ahead s t) (hworks : w.Works t t') : w.Ahead s t' := by
  induction hworks with
  | refl => exact h
  | tail _ hwork ih => exact ih.work hwork

/-- A slot of a type that both know holds the same matchers. -/
theorem resolve_eq (h : w.Ahead s t) (group field : String) (hc : s.index.contains type = true) :
    s.registry.resolve ⟨group, type, field⟩ = t.registry.resolve ⟨group, type, field⟩ := by
  rw [h.behind.resolve group type field hc, h.ahead.resolve group type field (h.grown type hc)]

/-- **A request is answered alike.** -/
theorem ensureIndexed_answer (h : w.Ahead s t) (type : TypeKey) :
    (w.ensureIndexed type s).1 = (w.ensureIndexed type t).1 := by
  cases hs : s.index.contains type with
  | true =>
      rw [h.behind.ensureIndexed_of_contains hs,
        h.ahead.ensureIndexed_of_contains (h.grown type hs)]
  | false =>
      cases ht : t.index.contains type with
      | false =>
          rw [ensureIndexed_firstFault h.behind hs, ensureIndexed_firstFault h.ahead ht,
            firstFault_ahead h.grown h.settled h.ahead.compiles [type] (w.agendaOf type) [type]
              (.refl t.index [type])]
      | true =>
          rw [h.ahead.ensureIndexed_of_contains ht]
          cases hr : w.ensureIndexed type s with
          | mk r s' =>
              cases r with
              | ok entry => rw [entry_of_ensureIndexed h.behind hr]
              | error e =>
                  -- the malformed rule would be on a type that the other session has indexed
                  obtain ⟨bad, hpath, hbad⟩ :=
                    (ensureIndexed_error_iff h.behind type).mp ⟨e, by rw [hr]⟩
                  have hcompiles :=
                    h.ahead.compiles bad (h.settled.contains_of_reachesNew ht hpath)
                  exact absurd hbad (not_malformed_iff.mpr hcompiles)

/-- **After a request that ends well, the session that was ahead still is.** -/
theorem ensureIndexed {entry entry' : ClassIndex} (h : w.Ahead s t)
    (hs : w.ensureIndexed type s = (.ok entry, s'))
    (ht : w.ensureIndexed type t = (.ok entry', t')) : w.Ahead s' t' := by
  have hforward := h.work (.indexed ht)
  have hsteps := (Work.indexed hs).steps
  refine ⟨h.behind.steps hsteps, hforward.ahead, fun found hc => ?_, fun found hc => ?_⟩
  · rcases (contains_ensureIndexed_iff hs found).mp hc with hold | hpath
    · exact hforward.grown found hold
    · exact hforward.settled.contains_of_reachesNew (ensureIndexed_closedBut ht).1 hpath
  · exact (hforward.settled found hc).imp_left hsteps.contains

end Ahead

end Setting

/-! ## A check in both sessions -/

namespace Check

/-- The clock shows the same instant whenever it is read. -/
def Still (c : Check) : Prop :=
  ∀ n m, c.clock n = c.clock m

/-- **A check takes the same course in a session that is ahead,** and that session stays ahead until
an error ends the check. -/
theorem Still.sideBySide {c : Check} (still : c.Still) :
    c.SideBySide c (fun _ => True) c.setting.Ahead fun _ _ => True where
  unread _ _ _ := trivial
  request type s t h := by
    have hanswer := h.ensureIndexed_answer type
    cases hs : c.setting.ensureIndexed type s with
    | mk r s' =>
        cases ht : c.setting.ensureIndexed type t with
        | mk r' t' =>
            rw [hs, ht] at hanswer
            obtain rfl : r = r' := hanswer
            cases r with
            | error e => exact .error trivial
            | ok entry => exact .ok (h.ensureIndexed hs ht)
  judge type values field chain s t _ h indexed := by
    unfold judgeField
    dsimp only
    rw [h.resolve_eq c.group field indexed]
    generalize t.registry.resolve ⟨c.group, type, field⟩ = matchers
    cases matchers.isEmpty with
    | true => exact .ok h
    | false =>
        cases Value.read type values field with
        | error e => exact .error trivial
        | ok v =>
            rw [still s.readings t.readings]
            exact .ok (h.of_alike ⟨rfl, rfl⟩ ⟨rfl, rfl⟩)

end Check

namespace Setting

/-- **Answers stand.** Whatever was requested before, more requests that are answered without rule
errors do not change the answer to a later check at one instant, be it a verdict, an error for a
field that cannot be read, or the error for a malformed rule. -/
theorem answers_stand (w : Setting) (history more : List Request)
    (answered : w.failures more (w.after history) = []) (now : Instant) (group : String)
    (v : Value) (selection : Option (List String)) :
    (w.evaluate (fun _ => now) group v selection (w.after (history ++ more))).1 =
      (w.evaluate (fun _ => now) group v selection (w.after history)).1 := by
  have hahead : w.Ahead (w.after history) (w.after (history ++ more)) := by
    rw [after, after, serveAll_append]
    exact (Ahead.refl (w.exact_after history)).works (serveAll_works answered)
  have still : Check.Still ⟨w, groupNamed group, fun _ => now⟩ := fun _ _ => rfl
  have habreast := still.sideBySide.checkValue selection v .empty hahead fun _ _ => trivial
  exact congrArg (Except.map _) habreast.answer

end Setting

end FieldRules
