import FieldRules.Proofs.History.Request
import Mathlib

/-!
# `Proofs.History.FirstFault` — which malformed rule is reported

A request may meet several malformed rules. The one it reports is the first in the order of the
walk, and that order can be told without walking: `rulesMet` keeps an agenda of declared fields. A
field with rules contributes them; a field that leads to a type puts the fields of that type at the
head of the agenda, unless the type is indexed or was entered before. Nothing is compiled, published
or given up on the way, and one list of entered types takes the place of the stack and of the
growing index.

Both keep the same account. What the agenda has entered is, together with what was indexed in the
beginning, what the walk has on its stack or in its index (`SameKnown`). So a walk that goes through
some fields takes the agenda past these fields and their whole wake, if all rules that are met
compile, and breaks off with the first one that does not (`Foretold`).

## Contents
- **`MetRule`** and **`Setting.rulesMet`**, the rules in the order in which they are met.
- **`firstFault`**, the first one that does not compile, field by field.
- **`Walk.foretold`**: the walk breaks off with the first fault of the agenda, and only there.
- **`first_malformed_rule_reported`**, the statement on histories.
- **`Chained.setting`**: a malformed rule behind a walked field comes before one on a later field.
-/

namespace FieldRules

/-! ## Rules that are met -/

/-- A rule with the type and the field on which it is met. -/
structure MetRule where
  type : TypeKey
  field : String
  rule : Rule
  deriving DecidableEq, Repr

/-- The error for a rule that does not compile. -/
def MetRule.error? (m : MetRule) : Option RuleError :=
  match Matcher.compile m.rule with
  | .ok _ => none
  | .error fault => some ⟨m.type.shortName, m.field, fault⟩

/-- A type that is not listed leaves as many types to enter as before. -/
theorem Schemas.remaining_cons_of_unlisted {s : Schemas} {type : TypeKey} (h : type ∉ s.types)
    (entered : List TypeKey) : s.remaining (type :: entered) = s.remaining entered := by
  refine List.filter_congr fun t ht => ?_
  have hne : t ≠ type := fun heq => h (heq ▸ ht)
  simp [hne]

namespace Setting

/-- The type that a declared field leads to, which it does only without rules. -/
def leadsTo? (w : Setting) (type : TypeKey) (f : Field) : Option TypeKey :=
  if w.enabledRules type f = [] then f.target?.map Prod.snd else none

/-- The declared fields of a type, in order. -/
def agendaOf (w : Setting) (type : TypeKey) : List (TypeKey × Field) :=
  (w.schemas.of type).fields.map (type, ·)

/-- The rules with an effect that are met from an agenda of declared fields, in order. Types in the
index and types that were entered before are not entered. -/
def rulesMet (w : Setting) (i : Index) (entered : List TypeKey) (agenda : List (TypeKey × Field)) :
    List MetRule :=
  match agenda with
  | [] => []
  | (type, f) :: rest =>
    (w.enabledRules type f).map (MetRule.mk type f.name) ++
      match w.leadsTo? type f with
      | none => w.rulesMet i entered rest
      | some target =>
        if _new : target ∉ entered ∧ i.contains target = false then
          w.rulesMet i (target :: entered) (w.agendaOf target ++ rest)
        else w.rulesMet i entered rest
termination_by ((w.schemas.remaining entered).length, agenda.length)
decreasing_by
  · exact .right _ (by simp)
  · by_cases hlisted : target ∈ w.schemas.types
    · exact .left _ _ (Schemas.remaining_cons_lt hlisted _new.1)
    · -- a type that is not listed has no fields, so the agenda gets shorter
      have hnone : w.agendaOf target = [] := by
        rw [agendaOf, List.map_eq_nil_iff]
        exact Decidable.byContradiction fun hf =>
          hlisted (Schemas.mem_types_of_fields_ne_nil hf)
      rw [Schemas.remaining_cons_of_unlisted hlisted, hnone]
      exact .right _ (by simp)
  · exact .right _ (by simp)

/-! ## The first fault -/

/-- The error for the first rule met from an agenda that does not compile. -/
def firstFault (w : Setting) (i : Index) (entered : List TypeKey)
    (agenda : List (TypeKey × Field)) : Option RuleError :=
  (w.rulesMet i entered agenda).findSome? MetRule.error?

section FirstFault

variable {w : Setting} {i : Index} {entered : List TypeKey} {rest : List (TypeKey × Field)}
  {type : TypeKey} {f : Field} {e : RuleError}

theorem firstFault_nil : w.firstFault i entered [] = none := by
  rw [firstFault, rulesMet]
  rfl

/-- The rules on a field come first, then what it leads to, then the rest of the agenda. -/
theorem firstFault_cons : w.firstFault i entered ((type, f) :: rest) =
    (((w.enabledRules type f).map (MetRule.mk type f.name)).findSome? MetRule.error?).or
      (match w.leadsTo? type f with
        | none => w.firstFault i entered rest
        | some target =>
          if target ∉ entered ∧ i.contains target = false then
            w.firstFault i (target :: entered) (w.agendaOf target ++ rest)
          else w.firstFault i entered rest) := by
  simp only [firstFault]
  rw [rulesMet, List.findSome?_append]
  congr 1
  cases w.leadsTo? type f with
  | none => rfl
  | some target =>
      dsimp only
      split
      · rfl
      · rfl

theorem findSome?_error?_of_compiles (h : w.CompilesOn type f) :
    ((w.enabledRules type f).map (MetRule.mk type f.name)).findSome? MetRule.error? = none := by
  rw [List.findSome?_eq_none_iff]
  intro m hm
  obtain ⟨r, hr, rfl⟩ := List.mem_map.mp hm
  obtain ⟨matcher, hcompile⟩ := h r hr
  rw [MetRule.error?, hcompile]

/-- The first malformed rule on a field ends the compilation of the field. -/
theorem findSome?_error?_of_error {rs : List Rule}
    (h : compileRules type.shortName f.name rs = .error e) :
    (rs.map (MetRule.mk type f.name)).findSome? MetRule.error? = some e := by
  induction rs with
  | nil => cases h
  | cons r rs ih =>
      unfold compileRules Matcher.compileFor at h
      rw [List.map_cons, List.findSome?_cons, MetRule.error?]
      cases hc : Matcher.compile r with
      | error fault =>
          rw [hc] at h
          cases h
          rfl
      | ok m =>
          rw [hc] at h
          exact ih (map_eq_error h)

theorem firstFault_of_malformed (h : w.compileField type f = .error e) :
    w.firstFault i entered ((type, f) :: rest) = some e := by
  rw [firstFault_cons, findSome?_error?_of_error h, Option.some_or]

/-- A field whose rules compile is passed, if it leads nowhere or to a type that is known. -/
theorem firstFault_of_passed (compiles : w.CompilesOn type f)
    (known : ∀ target, w.leadsTo? type f = some target →
      target ∈ entered ∨ i.contains target = true) :
    w.firstFault i entered ((type, f) :: rest) = w.firstFault i entered rest := by
  rw [firstFault_cons, findSome?_error?_of_compiles compiles, Option.none_or]
  cases hlead : w.leadsTo? type f with
  | none => rfl
  | some target =>
      have hknown := known target hlead
      exact if_neg fun hnew => hknown.elim hnew.1 (by simp [hnew.2])

/-- A field that leads to a new type is followed by the fields of that type. -/
theorem firstFault_of_entered {target : TypeKey} (lead : w.leadsTo? type f = some target)
    (new : target ∉ entered ∧ i.contains target = false) :
    w.firstFault i entered ((type, f) :: rest) =
      w.firstFault i (target :: entered) (w.agendaOf target ++ rest) := by
  have hruleless : w.enabledRules type f = [] := by
    by_contra hne
    rw [leadsTo?, if_neg hne] at lead
    cases lead
  rw [firstFault_cons, hruleless, lead]
  exact if_pos new

end FirstFault

/-! ## Walk and agenda -/

/-- What an agenda that began with the index `i` has entered is what a walk has on its stack or in
its index by now. -/
def SameKnown (i : Index) (entered stack : List TypeKey) (i' : Index) : Prop :=
  ∀ type, (type ∈ entered ∨ i.contains type = true) ↔ (type ∈ stack ∨ i'.contains type = true)

theorem SameKnown.unknown {i i' : Index} {entered stack : List TypeKey} {type : TypeKey}
    (h : SameKnown i entered stack i') (unstacked : type ∉ stack)
    (new : i'.contains type = false) : type ∉ entered ∧ i.contains type = false := by
  have hnot : ¬(type ∈ entered ∨ i.contains type = true) := by
    rw [h type, new]
    exact fun hor => hor.elim unstacked Bool.false_ne_true
  rw [not_or, Bool.not_eq_true] at hnot
  exact hnot

/-- A type that is entered goes on the stack. -/
theorem SameKnown.enter {i i' : Index} {entered stack : List TypeKey}
    (h : SameKnown i entered stack i') (type : TypeKey) :
    SameKnown i (type :: entered) (type :: stack) i' := by
  intro t
  rw [List.mem_cons, List.mem_cons, or_assoc, or_assoc, h t]

/-- A type that is finished goes from the stack into the index. -/
theorem SameKnown.publish {i : Index} {entered stack : List TypeKey} {type : TypeKey} {s : Session}
    (h : SameKnown i entered (type :: stack) s.index) (c : Collected) :
    SameKnown i entered stack (Setting.publish type c s).2.index := by
  intro t
  rw [h t, contains_publish, List.mem_cons, or_assoc, or_left_comm]

/-- An agenda foretells a walk through the fields in front of `rest`. If the walk breaks off, it
does so with the first fault of the agenda; if it ends well, the faults that are left are those met
from `rest`, with the types that the walk knows by then. -/
structure Foretold (w : Setting) (i : Index) (entered : List TypeKey)
    (agenda rest : List (TypeKey × Field)) (stack : List TypeKey)
    (r : Except RuleError Collected) (s' : Session) : Prop where
  error : ∀ e, r = .error e → w.firstFault i entered agenda = some e
  ok : ∀ c, r = .ok c → ∃ entered', SameKnown i entered' stack s'.index ∧
    w.firstFault i entered agenda = w.firstFault i entered' rest

namespace Foretold

variable {w : Setting} {i : Index} {entered entered₁ stack : List TypeKey}
  {agenda agenda₁ rest : List (TypeKey × Field)} {r : Except RuleError Collected} {s' : Session}

/-- A part of the agenda without faults may go before. -/
theorem after (h : w.Foretold i entered₁ agenda₁ rest stack r s')
    (passed : w.firstFault i entered agenda = w.firstFault i entered₁ agenda₁) :
    w.Foretold i entered agenda rest stack r s' :=
  ⟨fun e he => passed.trans (h.error e he), fun c hc =>
    (h.ok c hc).imp fun _ hknown => ⟨hknown.1, passed.trans hknown.2⟩⟩

/-- What is collected makes no difference. -/
theorem map (h : w.Foretold i entered agenda rest stack r s') (f : Collected → Collected) :
    w.Foretold i entered agenda rest stack (r.map f) s' := by
  refine ⟨fun e he => h.error e (map_eq_error he), fun c hc => ?_⟩
  obtain ⟨c', hok, -⟩ := map_eq_ok hc
  exact h.ok c' hok

end Foretold

theorem leadsTo?_of_ruled {w : Setting} {type : TypeKey} {f : Field}
    (h : w.enabledRules type f ≠ []) : w.leadsTo? type f = none :=
  if_neg h

theorem leadsTo?_of_ruleless {w : Setting} {type : TypeKey} {f : Field}
    (h : w.enabledRules type f = []) : w.leadsTo? type f = f.target?.map Prod.snd :=
  if_pos h

/-- **The agenda foretells the walk.** Every type that the walk enters is entered by the agenda at
the same field, and every type that it passes over was entered or indexed before. -/
theorem Walk.foretold {w : Setting} {i : Index} {type : TypeKey} {stack : List TypeKey}
    {fields : List Field} {s s' : Session} {r : Except RuleError Collected}
    (h : w.Walk type stack fields s r s') :
    ∀ entered rest, SameKnown i entered stack s.index →
      w.Foretold i entered (fields.map (type, ·) ++ rest) rest stack r s' := by
  -- a field without rules has none that could be malformed
  have compiles {type : TypeKey} {f : Field} (hr : w.enabledRules type f = []) :
      w.CompilesOn type f := by
    intro r hmem
    rw [hr] at hmem
    cases hmem
  induction h with
  | done =>
      intro entered rest known
      refine ⟨fun e he => ?_, fun c hc => ⟨entered, known, rfl⟩⟩
      cases he
  | malformed error =>
      intro entered rest known
      refine ⟨fun e he => ?_, fun c hc => by cases hc⟩
      cases he
      exact firstFault_of_malformed error
  | ruled hcompiles rules alike next ih =>
      intro entered rest known
      rw [← alike.index] at known
      refine ((ih entered rest known).map _).after
        (firstFault_of_passed hcompiles fun target ht => ?_)
      rw [leadsTo?_of_ruled rules] at ht
      cases ht
  | unwalked hr leads alike next ih =>
      intro entered rest known
      rw [← alike.index] at known
      refine (ih entered rest known).after (firstFault_of_passed (compiles hr) fun target ht => ?_)
      rw [leadsTo?_of_ruleless hr, leads] at ht
      cases ht
  | known hr leads met alike next ih =>
      intro entered rest known
      have hmet := (known _).mpr met
      rw [← alike.index] at known
      refine ((ih entered rest known).map _).after
        (firstFault_of_passed (compiles hr) fun target ht => ?_)
      rw [leadsTo?_of_ruleless hr, leads] at ht
      cases ht
      exact hmet
  | @broken type stack f fields s s₁ s' kind target e hr leads unstacked new alike inner ih =>
      intro entered rest known
      have hnew := known.unknown unstacked new
      have hlead : w.leadsTo? type f = some target := by rw [leadsTo?_of_ruleless hr, leads]; rfl
      rw [← alike.index] at known
      have hinner := ih (target :: entered) (fields.map (type, ·) ++ rest) (known.enter target)
      refine ⟨fun e' he => ?_, fun c hc => by cases hc⟩
      cases he
      exact (firstFault_of_entered hlead hnew).trans (hinner.error e rfl)
  | @entered type stack f fields s s₁ s₂ r s' kind target c hr leads unstacked new alike inner next
      ih ih' =>
      intro entered rest known
      have hnew := known.unknown unstacked new
      have hlead : w.leadsTo? type f = some target := by rw [leadsTo?_of_ruleless hr, leads]; rfl
      rw [← alike.index] at known
      have hinner := ih (target :: entered) (fields.map (type, ·) ++ rest) (known.enter target)
      obtain ⟨entered', hknown, hpassed⟩ := hinner.ok c rfl
      exact ((ih' entered' rest (hknown.publish c)).map _).after
        ((firstFault_of_entered hlead hnew).trans hpassed)

/-! ## Requests -/

/-- The rules with an effect that are met from a type, in order. -/
def rulesMetFrom (w : Setting) (i : Index) (type : TypeKey) : List MetRule :=
  w.rulesMet i [type] (w.agendaOf type)

/-- A request for a type that is not indexed is answered by the first fault, if there is one. -/
theorem ensureIndexed_firstFault {w : Setting} {s : Session} (hs : w.Exact s) {type : TypeKey}
    (new : s.index.contains type = false) :
    (w.ensureIndexed type s).1 =
      match w.firstFault s.index [type] (w.agendaOf type) with
      | some e => .error e
      | none => .ok (w.entryOf type) := by
  rcases w.ensureIndexed_cases type s with ⟨hc, -⟩ | ⟨-, s₁, s₂, alike, hwalk⟩
  · rw [new] at hc
    cases hc
  · have known : SameKnown s.index [type] [type] s₁.index := fun t => by rw [alike.index]
    rcases hwalk with ⟨e, walk, heq⟩ | ⟨c, walk, heq⟩
    · have hfault := (walk.foretold [type] [] known).error e rfl
      rw [List.append_nil] at hfault
      rw [heq, agendaOf, hfault]
    · obtain ⟨entered', -, hpassed⟩ := (walk.foretold [type] [] known).ok c rfl
      rw [List.append_nil, firstFault_nil] at hpassed
      have hentry := entry_of_ensureIndexed hs heq
      rw [heq, agendaOf, hpassed, hentry]

/-- Nothing is met behind fields that lead only to indexed types. -/
theorem firstFault_of_indexed {w : Setting} {i : Index} {entered : List TypeKey} {type : TypeKey}
    {fields : List Field} (compiles : ∀ f ∈ fields, w.CompilesOn type f)
    (indexed : ∀ f ∈ fields, ∀ target, w.leadsTo? type f = some target →
      i.contains target = true) :
    w.firstFault i entered (fields.map (type, ·)) = none := by
  induction fields with
  | nil => exact firstFault_nil
  | cons f fields ih =>
      obtain ⟨hcompiles, compiles⟩ := List.forall_mem_cons.mp compiles
      obtain ⟨hindexed, indexed⟩ := List.forall_mem_cons.mp indexed
      rw [List.map_cons, firstFault_of_passed hcompiles fun target ht => .inr (hindexed target ht)]
      exact ih compiles indexed

/-- **The first malformed rule is the one that is reported.** After any history without a rule
error, a request for a type is answered by the error for the first rule that does not compile among
those met from the type, with the short name of the type and the field on which it is met; where all
of them compile, it is answered by the index of the type. -/
theorem first_malformed_rule_reported {w : Setting} {history : List Request}
    (answered : w.failures history .empty = []) (type : TypeKey) :
    (w.ensureIndexed type (w.after history)).1 =
      match (w.rulesMetFrom (w.after history).index type).findSome? MetRule.error? with
      | some e => .error e
      | none => .ok (w.entryOf type) := by
  have hs := w.exact_after history
  cases hc : (w.after history).index.contains type with
  | false => exact ensureIndexed_firstFault hs hc
  | true =>
      -- the index is closed, so the type leads to indexed types only and meets no fault
      have hnone : w.firstFault (w.after history).index [type] (w.agendaOf type) = none := by
        refine firstFault_of_indexed (hs.compiles type hc) fun f hf target hlead => ?_
        by_cases hr : w.enabledRules type f = []
        · rw [leadsTo?_of_ruleless hr] at hlead
          obtain ⟨⟨kind, target'⟩, ht, rfl⟩ := Option.map_eq_some_iff.mp hlead
          exact closed_after answered type _ hc (leads_iff.mpr ⟨f, hf, hr, kind, ht⟩)
        · rw [leadsTo?_of_ruled hr] at hlead
          cases hlead
      rw [firstFault] at hnone
      rw [rulesMetFrom, hnone, ensureIndexed, hs.entry type hc]

namespace Chained

def outer : TypeKey := ⟨"A", "A"⟩

def inner : TypeKey := ⟨"B", "B"⟩

def plain : TypeKey := ⟨"C", "C"⟩

/-- An outer object holds a plain one, a list of inner ones, and a field with a rule on literals
that lists none. Inner objects lead back to it; their own malformed rule is one of the rule book. -/
def setting : Setting where
  schemas := ⟨[
    (outer, ⟨[
      ⟨"c", .nested plain, [], true⟩,
      ⟨"bs", .container .sequence (.nested inner), [], true⟩,
      ⟨"bad", .leaf, [⟨.values [], [], true, false⟩], false⟩]⟩),
    (inner, ⟨[
      ⟨"a", .nested outer, [], true⟩,
      ⟨"code", .leaf, [⟨.values ["x"], [], true, false⟩], false⟩]⟩),
    (plain, ⟨[⟨"y", .leaf, [⟨.values ["x"], ["g"], true, false⟩], false⟩]⟩)]⟩
  book := RuleBook.empty.insert "B" "code" ⟨.range "[1, 2]", [], false, false⟩

/-- The fault of the inner type is met before the one on the last field of the outer type. The plain
type is indexed by then, so its rules are not met again. -/
theorem inner_fault_first :
    setting.failures [.index plain] .empty = [] ∧
      (setting.ensureIndexed outer (setting.after [.index plain])).1 =
        .error ⟨"B", "code", .rejectingRange "[1, 2]"⟩ := by
  have answered : setting.failures [.index plain] .empty = [] := by cbv
  refine ⟨answered, ?_⟩
  rw [first_malformed_rule_reported answered outer]
  cbv

end Chained

end Setting

end FieldRules
