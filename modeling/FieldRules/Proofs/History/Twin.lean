import FieldRules.Proofs.Walk.Abreast
import Mathlib.Data.List.Forall2

/-!
# `Proofs.History.Twin` — settings in which the same rules have an effect

Nothing in the engine looks at a declaration's own rules or at the rule book by itself: indexing asks
for the rules on a field that have an effect. So two settings that declare the same fields, with the
same effective rules on each, cannot be told apart by any call. They may keep the rules in different
places, and report different events.

The comparison goes along the work of the engine: through the walk by its recursion, then side by
side through a check, and at last from call to call. Sessions are compared without their events.

## Contents
- **`Session.Agrees`** and **`SameOutcome`**, of sessions and of answers with sessions.
- **`Setting.Twin`**, the same effective rules on the same fields.
- **`Twin.collect`** and **`Twin.ensureIndexed`**, indexing in both settings.
- **`Check.Twin.checkValue`**, checking in both settings.
- **`Call`**, **`Answer`** and **`Setting.transcript`**, what calls show of an engine, and
  **`Twin.transcript`**.
-/

namespace FieldRules

open Calendar

/-! ## Sessions and outcomes -/

/-- Two sessions that differ at most in their events. -/
structure Session.Agrees (s s' : Session) : Prop extends s.Alike s' where
  readings : s'.readings = s.readings

namespace Session.Agrees

variable {s s' : Session}

theorem refl (s : Session) : s.Agrees s := ⟨⟨rfl, rfl⟩, rfl⟩

theorem report (h : s.Agrees s') (e e' : Event) : (s.report e).Agrees (s'.report e') :=
  ⟨⟨h.index, h.registry⟩, h.readings⟩

theorem reportAll (h : s.Agrees s') (es es' : List Event) :
    (s.reportAll es).Agrees (s'.reportAll es') := by
  refine ⟨⟨?_, ?_⟩, ?_⟩
  · rw [index_reportAll, index_reportAll, h.index]
  · rw [registry_reportAll, registry_reportAll, h.registry]
  · rw [readings_reportAll, readings_reportAll, h.readings]

/-- What is odd about a rule book shows in the events only. -/
theorem enter (h : s.Agrees s') (w w' : Setting) (type : TypeKey) :
    (w.enter type s).Agrees (w'.enter type s') :=
  h.reportAll _ _

end Session.Agrees

/-- The same answer, with sessions that agree. -/
structure SameOutcome {α : Type} (p p' : α × Session) : Prop where
  answer : p'.1 = p.1
  session : p.2.Agrees p'.2

namespace SameOutcome

variable {α β : Type} {p p' : α × Session} {s s' : Session}

theorem of_agrees (h : s.Agrees s') (a : α) : SameOutcome (a, s) (a, s') := ⟨rfl, h⟩

theorem exists_eq {a : α} (h : SameOutcome (a, s) p') : ∃ s', p' = (a, s') ∧ s.Agrees s' :=
  ⟨p'.2, Prod.ext h.answer rfl, h.session⟩

/-- Whatever is made of equal answers is equal. -/
theorem map (h : SameOutcome p p') (f : α → β) : SameOutcome (f p.1, p.2) (f p'.1, p'.2) :=
  ⟨congrArg f h.answer, h.session⟩

/-- The same outcome is an outcome in sessions that agree, whatever the answer is. -/
theorem abreast_iff {ε : Type} {p p' : Except ε α × Session} :
    Abreast Session.Agrees Session.Agrees p p' ↔ SameOutcome p p' := by
  constructor
  · intro h
    cases h with
    | ok related => exact .of_agrees related _
    | error related => exact .of_agrees related _
  · intro h
    obtain ⟨r, s⟩ := p
    obtain ⟨s', rfl, hs⟩ := h.exists_eq
    cases r with
    | ok a => exact .ok hs
    | error e => exact .error hs

end SameOutcome

/-! ## Twins -/

namespace Setting

/-- The same field with the same effective rules, which may be kept in different places. -/
structure TwinField (w w' : Setting) (owner : TypeKey) (f f' : Field) : Prop where
  name : f'.name = f.name
  type : f'.type = f.type
  checked : f'.checked = f.checked
  rules : w'.enabledRules owner f' = w.enabledRules owner f

/-- The same fields of every type, with the same effective rules. -/
structure Twin (w w' : Setting) : Prop where
  fields : ∀ type,
    List.Forall₂ (w.TwinField w' type) (w.schemas.of type).fields (w'.schemas.of type).fields

namespace TwinField

variable {w w' : Setting} {type : TypeKey} {f f' : Field}

theorem compileField (h : w.TwinField w' type f f') :
    w'.compileField type f' = w.compileField type f := by
  rw [Setting.compileField, Setting.compileField, h.name, h.rules]

theorem target? (h : w.TwinField w' type f f') : f'.target? = f.target? := by
  rw [Field.target?, Field.target?, h.type, h.checked]

theorem events (h : w.TwinField w' type f f') : f'.events = f.events := by
  funext owner
  rw [Field.events, Field.events, h.type, h.checked, h.name]

end TwinField

/-! ## Indexing -/

theorem publish_same {s s' : Session} (h : s.Agrees s') (type : TypeKey) (c : Collected) :
    SameOutcome (publish type c s) (publish type c s') := by
  unfold publish
  rw [h.index]
  cases s.index.get? type with
  | some existing => exact .of_agrees h existing
  | none =>
      simp only [h.registry]
      refine .of_agrees (Session.Agrees.report ?_ _ _) _
      exact ⟨⟨rfl, rfl⟩, h.readings⟩

theorem finish_same {p p' : Except RuleError Collected × Session} (h : SameOutcome p p')
    (type : TypeKey) : SameOutcome (finish type p) (finish type p') := by
  obtain ⟨r, s⟩ := p
  obtain ⟨s', rfl, hs⟩ := h.exists_eq
  cases r with
  | error e => exact .of_agrees hs _
  | ok c => exact (publish_same hs type c).map _

namespace Twin

variable {w w' : Setting}

/-- **The walk in both settings.** It is the same at every field: the rules compile to the same or
end it with the same error, and a walked field leads to the same type. -/
theorem collect (h : w.Twin w') (type : TypeKey) (stack : List TypeKey) (fields : List Field)
    (s : Session) : ∀ fields' s', List.Forall₂ (w.TwinField w' type) fields fields' → s.Agrees s' →
      SameOutcome (w.collect type stack fields s) (w'.collect type stack fields' s') := by
  fun_induction Setting.collect w type stack fields s with
  | case1 type stack s =>
      rintro _ s' ⟨⟩ hs
      rw [Setting.collect]
      exact .of_agrees hs _
  | case2 type stack s f rest e error =>
      rintro _ s' (_ | ⟨hf, hrest⟩) hs
      rw [Setting.collect, hf.compileField, error]
      exact .of_agrees hs _
  | case3 type stack s f rest rule rules hc filed r s₁ heq ih =>
      rintro _ s' (_ | ⟨hf, hrest⟩) hs
      rw [heq] at ih
      rw [Setting.collect, hf.compileField, hc, hf.name]
      exact (ih _ _ hrest (hs.report _ _)).map _
  | case4 type stack s f rest hc s₁ target ih =>
      rintro _ s' (_ | ⟨hf, hrest⟩) hs
      rw [Setting.collect, hf.compileField, hc, hf.target?, hf.events]
      simp only [target]
      exact ih _ _ hrest (hs.reportAll _ _)
  | case5 type stack s f rest hc s₁ kind target htarget onStack r s₂ heq ih =>
      rintro _ s' (_ | ⟨hf, hrest⟩) hs
      rw [heq] at ih
      rw [Setting.collect, hf.compileField, hc, hf.target?, hf.events, hf.name]
      simp only [htarget, onStack, dite_true]
      exact (ih _ _ hrest ((hs.reportAll _ _).report _ _)).map _
  | case6 type stack s f rest hc s₁ kind target htarget offStack indexed r s₂ heq ih =>
      rintro _ s' (_ | ⟨hf, hrest⟩) hs
      have hs₁ : s₁.Agrees (s'.reportAll (f.events type)) := hs.reportAll _ _
      rw [heq] at ih
      rw [Setting.collect, hf.compileField, hc, hf.target?, hf.events, hf.name]
      rw [← hs₁.index] at indexed
      simp only [htarget, offStack, dite_false, indexed, if_true]
      exact (ih _ _ hrest hs₁).map _
  | case7 type stack s f rest hc s₁ kind target htarget offStack new e s₂ heq ih =>
      rintro _ s' (_ | ⟨hf, hrest⟩) hs
      have hs₁ : s₁.Agrees (s'.reportAll (f.events type)) := hs.reportAll _ _
      have hinner := finish_same (ih _ _ (h.fields target) (hs₁.enter w w' target)) target
      rw [heq] at hinner
      obtain ⟨s₂', heq', hs₂⟩ := hinner.exists_eq
      rw [Setting.collect, hf.compileField, hc, hf.target?, hf.events, hf.name]
      rw [← hs₁.index] at new
      simp only [htarget, offStack, dite_false, new, heq']
      exact .of_agrees hs₂ _
  | case8 type stack s f rest hc s₁ kind target htarget offStack new entry s₂ heq r s₃ heq' ih
      ih' =>
      rintro _ s' (_ | ⟨hf, hrest⟩) hs
      have hs₁ : s₁.Agrees (s'.reportAll (f.events type)) := hs.reportAll _ _
      have hinner := finish_same (ih _ _ (h.fields target) (hs₁.enter w w' target)) target
      rw [heq] at hinner
      obtain ⟨s₂', hinner', hs₂⟩ := hinner.exists_eq
      rw [heq'] at ih'
      rw [Setting.collect, hf.compileField, hc, hf.target?, hf.events, hf.name]
      rw [← hs₁.index] at new
      simp only [htarget, offStack, dite_false, new, hinner']
      exact (ih' _ _ hrest hs₂).map _

theorem ensureIndexed (h : w.Twin w') (type : TypeKey) {s s' : Session} (hs : s.Agrees s') :
    SameOutcome (w.ensureIndexed type s) (w'.ensureIndexed type s') := by
  unfold Setting.ensureIndexed
  rw [hs.index]
  cases s.index.get? type with
  | some entry => exact .of_agrees hs _
  | none => exact finish_same (h.collect _ _ _ _ _ _ (h.fields type) (hs.enter w w' type)) type

end Twin

end Setting

/-! ## Checking -/

namespace Check

/-- The same check in settings with the same effective rules. -/
structure Twin (c c' : Check) : Prop where
  setting : c.setting.Twin c'.setting
  group : c'.group = c.group
  clock : c'.clock = c.clock

namespace Twin

variable {c c' : Check} {s s' : Session}

theorem judgeField (h : c.Twin c') (type : TypeKey) (values : List (String × Reading))
    (field : String) (chain : Chain) (hs : s.Agrees s') :
    SameOutcome (c.judgeField type values field chain s)
      (c'.judgeField type values field chain s') := by
  unfold Check.judgeField
  rw [h.group, h.clock, hs.registry, hs.readings]
  dsimp only
  split
  · exact .of_agrees hs _
  · split
    · exact .of_agrees hs _
    · refine .of_agrees (Session.Agrees.report ?_ _ _) _
      exact ⟨⟨hs.index, rfl⟩, rfl⟩

theorem sideBySide (h : c.Twin c') :
    c.SideBySide c' (fun _ => True) Session.Agrees Session.Agrees where
  unread _ _ hs := hs
  request type _ _ hs := SameOutcome.abreast_iff.mpr (h.setting.ensureIndexed type hs)
  judge type values field chain _ _ _ hs _ :=
    SameOutcome.abreast_iff.mpr (h.judgeField type values field chain hs)

/-- **A check in both settings.** -/
theorem checkValue (h : c.Twin c') (selection : Option (List String)) (v : Value) (chain : Chain)
    (hs : s.Agrees s') :
    SameOutcome (c.checkValue selection v chain s) (c'.checkValue selection v chain s') :=
  SameOutcome.abreast_iff.mp
    (h.sideBySide.checkValue selection v chain hs fun _ _ => trivial)

end Twin

end Check

/-! ## Calls -/

/-- A call to an engine. The other entry points are calls of these with the default group or without
a list of fields. -/
inductive Call where
  | index (type : TypeKey)
  | prepare (type : TypeKey)
  | evaluate (clock : Nat → Instant) (group : String) (target : Value)
      (selection : Option (List String))
  | check (clock : Nat → Instant) (group : String) (target : Value) (fields : List String)
  | validate (clock : Nat → Instant) (group : String) (target : Value) (fields : List String)

/-- What a call answers. -/
inductive Answer where
  | indexed (r : Except RuleError ClassIndex)
  | prepared (r : Except RuleError Unit)
  | evaluated (r : Except CheckError Verdict)
  | checked (r : Except CheckError Bool)
  | validated (r : Except CheckError Unit)

namespace Setting

/-- Makes a call. -/
def answer (w : Setting) (q : Call) (s : Session) : Answer × Session :=
  match q with
  | .index type => (w.ensureIndexed type s).map .indexed id
  | .prepare type => (w.prepare type s).map .prepared id
  | .evaluate clock group target selection =>
    (w.evaluate clock group target selection s).map .evaluated id
  | .check clock group target fields =>
    (w.checkGroupFields clock group target fields s).map .checked id
  | .validate clock group target fields =>
    (w.validateGroupFields clock group target fields s).map .validated id

/-- Makes calls in order and notes after each of them the answer, the index and the registry. -/
def transcript (w : Setting) : List Call → Session → List (Answer × Index × Registry)
  | [], _ => []
  | q :: qs, s =>
    let (a, s) := w.answer q s
    (a, s.index, s.registry) :: w.transcript qs s

namespace Twin

variable {w w' : Setting} {s s' : Session}

theorem evaluate (h : w.Twin w') (clock : Nat → Instant) (group : String) (target : Value)
    (selection : Option (List String)) (hs : s.Agrees s') :
    SameOutcome (w.evaluate clock group target selection s)
      (w'.evaluate clock group target selection s') := by
  have hcheck : Check.Twin ⟨w, groupNamed group, clock⟩ ⟨w', groupNamed group, clock⟩ :=
    ⟨h, rfl, rfl⟩
  exact (hcheck.checkValue selection target .empty hs).map _

theorem answer (h : w.Twin w') (q : Call) (hs : s.Agrees s') :
    SameOutcome (w.answer q s) (w'.answer q s') := by
  cases q with
  | index type => exact (h.ensureIndexed type hs).map _
  | prepare type => exact ((h.ensureIndexed type hs).map (·.map fun _ => ())).map Answer.prepared
  | evaluate clock group target selection =>
      exact (h.evaluate clock group target selection hs).map _
  | check clock group target fields =>
      have hevaluate := h.evaluate clock group target (selectionOf fields) hs
      exact (hevaluate.map (·.map Verdict.passed)).map Answer.checked
  | validate clock group target fields =>
      have hevaluate := h.evaluate clock group target (selectionOf fields) hs
      exact (hevaluate.map (·.bind fun v => v.result.mapError .failed)).map Answer.validated

/-- **No sequence of calls tells twins apart.** -/
theorem transcript (h : w.Twin w') (calls : List Call) (hs : s.Agrees s') :
    w'.transcript calls s' = w.transcript calls s := by
  induction calls generalizing s s' with
  | nil => rfl
  | cons q qs ih =>
      have hq := h.answer q hs
      show ((w'.answer q s').1, (w'.answer q s').2.index, (w'.answer q s').2.registry) ::
          w'.transcript qs (w'.answer q s').2 = _
      rw [hq.answer, hq.session.index, hq.session.registry, ih hq.session]
      rfl

end Twin

end Setting

end FieldRules
