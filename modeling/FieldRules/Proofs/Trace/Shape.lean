import FieldRules.Proofs.Direct.Refinement
import FieldRules.Proofs.Trace.Visits

/-!
# `Proofs.Trace.Shape` — what the chain of a verdict says

A check follows the visits of its plan: it passes one after the other, and ends at the first that
does not pass. `Follows` says so for a part of the walk. Where the part fails, the entries that it
has put behind those of the chain before are one for each hop to the failing visit and one for the
objection to its value; where it passes, the chain is as it was. Parts are put together by
`Follows.andThen`, and an object at a place only puts its hop in front (`Follows.under`).

Each judgement reads the clock once, and nothing else does, so the readings are counted along the
visits.

## Contents
- **`ensureIndexed_readings`**: indexing does not read the clock.
- **`Follows`**, part by part up to **`checkValue_follows`**.
- **`verdict_chain_shape`**: what the verdict of a check says about the value.
- **`Fleet.setting`** and **`Fleet.chain_names_positions`**, a failure behind a sequence.
-/

namespace FieldRules

open Calendar

namespace Setting

/-! ## Readings of the clock -/

theorem readings_publish (type : TypeKey) (c : Collected) (s : Session) :
    (publish type c s).2.readings = s.readings := by
  unfold publish
  cases s.index.get? type with
  | none => rfl
  | some entry => rfl

theorem readings_finish (type : TypeKey) (p : Except RuleError Collected × Session) :
    (finish type p).2.readings = p.2.readings := by
  obtain ⟨r, s⟩ := p
  cases r with
  | error e => rfl
  | ok c => exact readings_publish type c s

theorem readings_collect (w : Setting) (type : TypeKey) (stack : List TypeKey)
    (fields : List Field) (s : Session) :
    (w.collect type stack fields s).2.readings = s.readings := by
  fun_induction Setting.collect w type stack fields s with
  | case1 => rfl
  | case2 => rfl
  | case3 type stack s f rest rule rules hc filed r s' heq ih => simpa [heq] using ih
  | case4 type stack s f rest hc s₁ target ih => simpa [s₁] using ih
  | case5 type stack s f rest hc s₁ kind target htarget onStack r s' heq ih =>
      simpa [heq, s₁] using ih
  | case6 type stack s f rest hc s₁ kind target htarget offStack indexed r s' heq ih =>
      simpa [heq, s₁] using ih
  | case7 type stack s f rest hc s₁ kind target htarget offStack new e s' heq ih =>
      have hfinish := congrArg (fun p => p.2.readings) heq
      simp only [readings_finish] at hfinish
      rw [← hfinish, ih]
      simp [enter, s₁]
  | case8 type stack s f rest hc s₁ kind target htarget offStack new entry s₂ heq r s' heq' ih
      ih' =>
      have hfinish := congrArg (fun p => p.2.readings) heq
      simp only [readings_finish] at hfinish
      simp only [heq'] at ih'
      rw [ih', ← hfinish, ih]
      simp [enter, s₁]

/-- Indexing does not read the clock. -/
theorem ensureIndexed_readings (w : Setting) (type : TypeKey) (s : Session) :
    (w.ensureIndexed type s).2.readings = s.readings := by
  unfold ensureIndexed
  cases s.index.get? type with
  | some entry => rfl
  | none =>
      show (finish type _).2.readings = s.readings
      rw [readings_finish, readings_collect]
      simp [enter]

/-! ## Parts of a walk -/

/-- A part of a walk that began in `s` with a chain of entries has followed visits: it was stopped
by an error, it passed all of them, or it failed at one of them. -/
inductive Follows (w : Setting) (clock : Nat → Instant) (visits : List Visit) (chain : Chain)
    (s : Session) : Progress → Prop where
  | stopped {e s'} : Follows w clock visits chain s (.error e, s')
  | passed {s'} (clear : Visit.AllPass clock s.readings visits) (steps : w.Steps s s')
      (readings : s'.readings = s.readings + visits.countP Visit.isJudged) :
      Follows w clock visits chain s (.ok (true, chain), s')
  | failed {s' before visit after entry} (split : visits = before ++ visit :: after)
      (clear : Visit.AllPass clock s.readings before)
      (fails : visit.Fails (clock (s.readings + before.countP Visit.isJudged)) entry) :
      Follows w clock visits chain s
        (.ok (false, ⟨chain.entries ++ (visit.hops.map Hop.entry ++ [entry])⟩), s')

/-- Records the entry for an object where a part of the walk inside of it fails. -/
def failedInside (mark : Nat) (entry : String) (p : Progress) : Progress :=
  match p with
  | (.ok (false, inner), s) => (.ok (false, inner.failAt mark entry), s)
  | other => other

namespace Follows

variable {w : Setting} {clock : Nat → Instant} {visits more : List Visit} {chain : Chain}
  {s s₁ : Session} {p : Progress}

theorem nothing : w.Follows clock [] chain s (.ok (true, chain), s) :=
  .passed trivial .refl rfl

/-- A failure at the only visit of a part. -/
theorem alone {visit : Visit} {s' : Session} {entry : String}
    (fails : visit.Fails (clock s.readings) entry) :
    w.Follows clock [visit] chain s
      (.ok (false, ⟨chain.entries ++ (visit.hops.map Hop.entry ++ [entry])⟩), s') := by
  have hsplit : [visit] = [] ++ visit :: [] := rfl
  exact .failed hsplit trivial fails

/-- A part that begins after some steps which do not read the clock. -/
theorem of_steps (steps : w.Steps s s₁) (readings : s₁.readings = s.readings)
    (h : w.Follows clock visits chain s₁ p) : w.Follows clock visits chain s p := by
  cases h with
  | stopped => exact .stopped
  | passed clear steps' readings' =>
      rw [readings] at clear readings'
      exact .passed clear (steps.trans steps') readings'
  | failed split clear fails =>
      rw [readings] at clear fails
      exact .failed split clear fails

/-- **One part after another.** The second begins in the session that the first has left, with the
chain as it was. -/
theorem andThen {next : Chain → Session → Progress} (h : w.Follows clock visits chain s p)
    (hnext : ∀ s', w.Steps s s' → w.Follows clock more chain s' (next chain s')) :
    w.Follows clock (visits ++ more) chain s (proceed p next) := by
  cases h with
  | stopped => exact .stopped
  | failed split clear fails => exact .failed (by rw [split, List.append_assoc]; rfl) clear fails
  | @passed s₁ clear steps readings =>
      show w.Follows clock (visits ++ more) chain s (next chain s₁)
      have hsecond := hnext s₁ steps
      generalize next chain s₁ = q at hsecond
      cases hsecond with
      | stopped => exact .stopped
      | passed clear' steps' readings' =>
          rw [readings] at clear' readings'
          refine .passed (Visit.allPass_append.mpr ⟨clear, clear'⟩) (steps.trans steps') ?_
          rw [readings', List.countP_append, Nat.add_assoc]
      | @failed _ before visit after entry split clear' fails =>
          rw [readings] at clear' fails
          refine .failed (by rw [split, List.append_assoc])
            (Visit.allPass_append.mpr ⟨clear, clear'⟩) ?_
          rwa [List.countP_append, ← Nat.add_assoc]

/-- What a walked field holds, after the visit to the field. -/
theorem after_walked {type : TypeKey} {values : List (String × Reading)} {f : PlannedField}
    {v : Value} (walked : f.treatment = .walked) (read : Value.read type values f.name = .ok v)
    (h : w.Follows clock visits chain s p) :
    w.Follows clock (⟨[], type, values, f⟩ :: visits) chain s p := by
  have hcount (visits : List Visit) :
      ((⟨[], type, values, f⟩ : Visit) :: visits).countP Visit.isJudged =
        visits.countP Visit.isJudged := by
    simp [Visit.isJudged, walked]
  have hpass {visits : List Visit} (clear : Visit.AllPass clock s.readings visits) :
      Visit.AllPass clock s.readings (⟨[], type, values, f⟩ :: visits) := by
    refine ⟨⟨v, read, fun ms hms => ?_⟩, ?_⟩
    · rw [walked] at hms
      cases hms
    · rw [hcount]
      exact clear
  cases h with
  | stopped => exact .stopped
  | passed clear steps readings => exact .passed (hpass clear) steps (by rw [readings, hcount])
  | failed split clear fails =>
      exact .failed (by rw [split, List.cons_append]) (hpass clear) (by rwa [hcount])

/-- **An object at a place.** Its failure gets an entry in front of everything that was recorded
inside of the object. -/
theorem under {place : Place} {type : TypeKey} (h : w.Follows clock visits chain s p) :
    w.Follows clock (visits.map (Visit.under ⟨place, type⟩)) chain s
      (failedInside chain.mark (nestedEntry place.path type) p) := by
  cases h with
  | stopped => exact .stopped
  | passed clear steps readings =>
      exact .passed (Visit.allPass_under.mpr clear) steps (by rw [Visit.countP_under, readings])
  | @failed _ before visit after entry split clear fails =>
      have hsplit : visits.map (Visit.under ⟨place, type⟩) =
          before.map (Visit.under ⟨place, type⟩) ++
            visit.under ⟨place, type⟩ :: after.map (Visit.under ⟨place, type⟩) := by
        rw [split, List.map_append, List.map_cons]
      have hfails : (visit.under ⟨place, type⟩).Fails (clock (s.readings +
          (before.map (Visit.under ⟨place, type⟩)).countP Visit.isJudged)) entry := by
        rwa [Visit.countP_under]
      dsimp only [failedInside]
      rw [Chain.failAt_mark]
      exact .failed hsplit (Visit.allPass_under.mpr clear) hfails

end Follows

variable {w : Setting} (group : String) (clock : Nat → Instant)

/-! ## Fields -/

/-- The judgement of a field with rules: a visit if there are matchers, and none otherwise. -/
theorem judgeField_follows {type : TypeKey} {values : List (String × Reading)} {f : Field}
    {chain : Chain} {s : Session} (hs : w.Exact s) (indexed : s.index.contains type = true)
    (rules : w.kind? type f = some .rules) :
    w.Follows clock ((w.plan group).visitsAt type values (w.planned group type f)) chain s
      (Check.judgeField ⟨w, group, clock⟩ type values f.name chain s) := by
  have hresolve := hs.resolve group type f.name indexed
  have htreatment : (w.planned group type f).treatment =
      if w.matchersOn group type f.name = [] then .ignored
      else .judged (w.matchersOn group type f.name) := by
    rw [planned, treatment, rules]
  rcases Check.judgeField_cases ⟨w, group, clock⟩ type values f.name chain s with
    ⟨hempty, heq⟩ | ⟨hmatchers, hread⟩
  · rw [hresolve, Resolved.isEmpty_ofMatchers, List.isEmpty_iff] at hempty
    rw [if_pos hempty] at htreatment
    rw [heq, Plan.visitsAt, htreatment]
    exact .nothing
  · have hne : w.matchersOn group type f.name ≠ [] := by
      intro hnil
      rw [hresolve, Resolved.isEmpty_ofMatchers, hnil] at hmatchers
      cases hmatchers
    rw [if_neg hne] at htreatment
    rcases hread with ⟨e, -, heq⟩ | ⟨v, s', hread, alike, readings, heq⟩
    · rw [heq]
      exact .stopped
    · have hjudged : Visit.isJudged ⟨[], type, values, w.planned group type f⟩ = true := by
        rw [Visit.isJudged, htreatment]
      rw [heq, hresolve, Plan.visitsAt, htreatment]
      dsimp only
      have hentry := withEntry_decision (fieldPath type f.name) v (clock s.readings)
        (w.matchersOn group type f.name)
      generalize entryFor? (fieldPath type f.name) v _ _ = entry at hentry
      cases entry with
      | none =>
          refine .passed ⟨⟨v, hread, ?_⟩, trivial⟩ (Steps.of_alike alike) (by simp [readings, hjudged])
          intro ms hms
          cases htreatment.symm.trans hms
          exact hentry.symm
      | some entry =>
          exact .alone ⟨v, _, hread, htreatment, judgement_eq_failed_iff.mp hentry.symm⟩

/-- An indexed field, where what it holds follows its visits. -/
theorem checkField_follows {type : TypeKey} {values : List (String × Reading)} {f : Field}
    {kind : FieldKind} (chain : Chain) {s : Session} (hs : w.Exact s)
    (indexed : s.index.contains type = true) (hkind : w.kind? type f = some kind)
    (hinside : ∀ v, Value.read type values f.name = .ok v → ∀ place : Place,
      w.Follows clock ((w.plan group).visitsInside place v) chain s
        (Check.checkNested ⟨w, group, clock⟩ place.path v chain s)) :
    w.Follows clock ((w.plan group).visitsAt type values (w.planned group type f)) chain s
      (Check.checkField ⟨w, group, clock⟩ type values ⟨f.name, kind⟩ chain s) := by
  have walked (hplanned : (w.planned group type f).treatment = .walked) (hne : kind ≠ .rules) :
      w.Follows clock ((w.plan group).visitsAt type values (w.planned group type f)) chain s
        (Check.checkField ⟨w, group, clock⟩ type values ⟨f.name, kind⟩ chain s) := by
    rw [Check.checkField_of_walked _ _ _ _ _ _ hne, Plan.visitsAt_of_walked _ _ _ hplanned]
    cases hread : Value.read type values f.name with
    | error e => exact .stopped
    | ok v =>
        simp only [planned, hread]
        exact (hinside v hread ⟨type, f.name, []⟩).after_walked hplanned hread
  cases kind with
  | rules =>
      rw [Check.checkField]
      exact judgeField_follows group clock hs indexed hkind
  | nested => exact walked (by rw [planned, treatment, hkind]) FieldKind.noConfusion
  | container => exact walked (by rw [planned, treatment, hkind]) FieldKind.noConfusion

/-- Indexed fields in order. Declarations that are not indexed are not visited. -/
theorem checkFields_follows (selection : Option (List String)) {type : TypeKey}
    {values : List (String × Reading)} {decls : List Field} {chain : Chain} {s : Session}
    (hs : w.Exact s) (indexed : s.index.contains type = true)
    (hinside : ∀ name v, Value.read type values name = .ok v → ∀ (place : Place) chain s,
      w.Exact s → w.Follows clock ((w.plan group).visitsInside place v) chain s
        (Check.checkNested ⟨w, group, clock⟩ place.path v chain s)) :
    w.Follows clock
      ((w.plan group).visitsTo type values
        ((decls.map (w.planned group type)).filter (Plan.keeps selection))) chain s
      (Check.checkFields ⟨w, group, clock⟩ selection type values (w.indexed type decls)
        chain s) := by
  induction decls generalizing s with
  | nil =>
      simp only [Setting.indexed, List.filterMap_nil, List.map_nil, List.filter_nil]
      rw [Check.checkFields, Plan.visitsTo]
      exact .nothing
  | cons f decls ih =>
      rw [List.map_cons, List.filter_cons]
      cases hkind : w.kind? type f with
      | none =>
          -- the declaration is not indexed, and there is no visit to it
          have hnone : (w.plan group).visitsAt type values (w.planned group type f) = [] := by
            rw [Plan.visitsAt, planned, treatment, hkind]
          rw [indexed_cons_of_none hkind]
          split
          · rw [Plan.visitsTo, hnone]
            exact ih hs indexed
          · exact ih hs indexed
      | some kind =>
          have hkeeps : Plan.keeps selection (w.planned group type f) =
              !selection.any fun names => !names.contains f.name := by
            cases selection with
            | none => rfl
            | some names => simp [Plan.keeps, planned]
          rw [indexed_cons_of_some hkind, Check.checkFields, hkeeps]
          cases selection.any fun names => !names.contains f.name with
          | true => exact ih hs indexed
          | false =>
              have hfield := checkField_follows group clock chain hs indexed hkind
                fun v hread place => hinside f.name v hread place chain s hs
              simp only [Bool.not_false, if_true, Bool.false_eq_true, if_false]
              rw [Plan.visitsTo]
              exact hfield.andThen fun s' hsteps =>
                ih (hs.steps hsteps) (hsteps.contains indexed)

/-! ## Objects and sequences -/

/-- An object, unless the request for its type fails. -/
theorem checkObject_follows (selection : Option (List String)) {type : TypeKey}
    {values : List (String × Reading)} (chain : Chain) {s : Session} (hs : w.Exact s)
    (hinside : ∀ name v, Value.read type values name = .ok v → ∀ (place : Place) chain s,
      w.Exact s → w.Follows clock ((w.plan group).visitsInside place v) chain s
        (Check.checkNested ⟨w, group, clock⟩ place.path v chain s)) :
    w.Follows clock
      ((w.plan group).visitsTo type values ((w.plan group type).filter (Plan.keeps selection)))
      chain s (Check.checkObject ⟨w, group, clock⟩ selection type values chain s) := by
  have hsteps := w.ensureIndexed_steps type s
  have hreadings := w.ensureIndexed_readings type s
  rw [Check.checkObject]
  dsimp only
  cases hr : w.ensureIndexed type s with
  | mk r s₁ =>
      rw [hr] at hsteps hreadings
      cases r with
      | error e => exact .stopped
      | ok entry =>
          have indexed := (ensureIndexed_closedBut hr).1
          rw [entry_of_ensureIndexed hs hr]
          exact (checkFields_follows group clock selection (hs.steps hsteps) indexed
            hinside).of_steps hsteps hreadings

/-- The elements of a sequence in order. -/
theorem checkItems_follows {place : Place} {position : Nat} {items : List Value} {chain : Chain}
    {s : Session} (hs : w.Exact s)
    (hinside : ∀ v ∈ items, ∀ (place : Place) chain s, w.Exact s →
      w.Follows clock ((w.plan group).visitsInside place v) chain s
        (Check.checkNested ⟨w, group, clock⟩ place.path v chain s)) :
    w.Follows clock ((w.plan group).visitsInItems place position items) chain s
      (Check.checkItems ⟨w, group, clock⟩ place.path position items chain s) := by
  induction items generalizing position s with
  | nil =>
      rw [Check.checkItems, Plan.visitsInItems]
      exact .nothing
  | cons v rest ih =>
      have hfirst := hinside v List.mem_cons_self (place.element position) chain s hs
      rw [Check.checkItems, Plan.visitsInItems, ← place.path_element]
      exact hfirst.andThen fun s' hsteps =>
        ih (hs.steps hsteps) fun u hu => hinside u (List.mem_cons_of_mem _ hu)

/-- What is at a place. -/
theorem checkNested_follows (v : Value) :
    ∀ (place : Place) chain s, w.Exact s →
      w.Follows clock ((w.plan group).visitsInside place v) chain s
        (Check.checkNested ⟨w, group, clock⟩ place.path v chain s) := by
  induction v using Value.held_induction with
  | object type values ih =>
      intro place chain s hs
      have hobject := checkObject_follows group clock none chain hs ih
      have hall : (w.plan group type).filter (Plan.keeps none) = w.plan group type :=
        List.filter_eq_self.mpr fun f hf => rfl
      rw [hall] at hobject
      rw [Check.checkNested, Plan.visitsInside]
      exact hobject.under
  | seq items ih =>
      intro place chain s hs
      rw [Check.checkNested, Plan.visitsInside]
      exact checkItems_follows group clock hs ih
  | leaf v hleaf =>
      intro place chain s hs
      unfold Check.checkNested Plan.visitsInside
      cases v with
      | object type values => cases hleaf
      | seq items => cases hleaf
      | _ => exact .nothing

/-! ## Values -/

mutual

/-- **A check follows the visits to its value,** up to the first that does not pass. -/
theorem checkValue_follows (selection : Option (List String)) (v : Value) (chain : Chain)
    {s : Session} (hs : w.Exact s) :
    w.Follows clock ((w.plan group).visits selection v) chain s
      (Check.checkValue ⟨w, group, clock⟩ selection v chain s) := by
  unfold Check.checkValue Plan.visits
  cases v with
  | object type values =>
      exact checkObject_follows group clock selection chain hs
        fun name u _ => checkNested_follows group clock u
  | seq items => exact checkValues_follows selection items chain hs
  | _ => exact .nothing

/-- Values in order. -/
theorem checkValues_follows (selection : Option (List String)) (vs : List Value) (chain : Chain)
    {s : Session} (hs : w.Exact s) :
    w.Follows clock ((w.plan group).visitsToAll selection vs) chain s
      (Check.checkValues ⟨w, group, clock⟩ selection vs chain s) := by
  unfold Check.checkValues Plan.visitsToAll
  cases vs with
  | nil => exact .nothing
  | cons v rest =>
      have hfirst := checkValue_follows selection v chain hs
      exact hfirst.andThen fun s' hsteps => checkValues_follows selection rest chain (hs.steps hsteps)

end

/-! ## Verdicts -/

/-- **What a verdict says.** After any history, a verdict passes exactly if its chain is empty, and
then all visits to the value pass. Otherwise all visits up to a failing one pass. The chain has an
entry for each hop from an outermost object down to the object of that visit, and at its end the
entry for the objection to the visited field. -/
theorem verdict_chain_shape (w : Setting) (history : List Request) (clock : Nat → Instant)
    (group : String) (v : Value) (selection : Option (List String)) (verdict : Verdict)
    (answered : (w.evaluate clock group v selection (w.after history)).1 = .ok verdict) :
    (verdict.passed = true ↔ verdict.chain = []) ∧
    (verdict.passed = true →
      Visit.AllPass clock (w.after history).readings
        ((w.plan (groupNamed group)).visits selection v)) ∧
    (verdict.passed = false →
      ∃ before visit after, (w.plan (groupNamed group)).visits selection v =
          before ++ visit :: after ∧
        Visit.AllPass clock (w.after history).readings before ∧
        (∃ positions o, v.at? positions = some o ∧
          Descends visit.hops o (.object visit.type visit.values)) ∧
        visit.field ∈ w.plan (groupNamed group) visit.type ∧
        ∃ entry, verdict.chain = visit.hops.map Hop.entry ++ [entry] ∧
          visit.Fails
            (clock ((w.after history).readings + before.countP Visit.isJudged)) entry) := by
  have hfollows := checkValue_follows (groupNamed group) clock selection v .empty
    (w.exact_after history)
  change Except.map _ (Check.checkValue ⟨w, groupNamed group, clock⟩ selection v .empty
    (w.after history)).1 = .ok verdict at answered
  generalize Check.checkValue _ selection v .empty (w.after history) = p at hfollows answered
  cases hfollows with
  | stopped => cases answered
  | passed clear steps readings =>
      cases answered
      exact ⟨by simp [Chain.empty], fun _ => clear, nofun⟩
  | @failed _ before visit after entry split clear fails =>
      cases answered
      refine ⟨by simp, nofun, fun _ => ⟨before, visit, after, split, clear, ?_⟩⟩
      have hmem : visit ∈ (w.plan (groupNamed group)).visits selection v := by
        rw [split]
        exact List.mem_append_right before List.mem_cons_self
      obtain ⟨positions, o, hfound, hwithin⟩ := Plan.within_of_mem_visits v visit hmem
      exact ⟨⟨positions, o, hfound, hwithin.descends⟩, hwithin.planned, entry, rfl, fails⟩

/-! ## A fleet in rows -/

namespace Fleet

def fleet : TypeKey := ⟨"F", "Fleet"⟩

def truck : TypeKey := ⟨"T", "Truck"⟩

/-- A fleet holds rows of trucks, and trucks have one field, with a rule in the group `g`. -/
def setting : Setting where
  schemas := ⟨[
    (fleet, ⟨[⟨"rows", .container .sequence (.container .sequence (.nested truck)), [], true⟩]⟩),
    (truck, ⟨[⟨"state", .leaf, [⟨.values ["ready"], ["g"], true, false⟩], false⟩]⟩)]⟩
  book := .empty

def inState (state : String) : Value :=
  .object truck [("state", .value (.str state))]

/-- The second truck of the second row is not ready. -/
def parked : Value :=
  .object fleet [("rows", .value (.seq [.seq [inState "ready"],
    .seq [inState "ready", inState "lost", inState "burnt"]]))]

/-- The entry for the row names both positions. -/
def report : List String :=
  ["Fleet.rows[1][1]: nested Truck failed",
    "Truck.state: value \"lost\" is not accepted by values [\"ready\"]"]

/-- The chain is that of one visit. The truck behind it is not ready either and leaves no entry. -/
theorem chain_names_positions :
    (setting.evaluate (fun _ => ⟨0, 0, by decide⟩) "g" (.seq [.null, parked]) none
          (setting.after [.prepare truck])).1 = .ok ⟨false, "g", report⟩ ∧
      ∃ before visit after,
        (setting.plan (groupNamed "g")).visits none (.seq [.null, parked]) =
          before ++ visit :: after ∧
        ∃ entry, report = visit.hops.map Hop.entry ++ [entry] := by
  have answered : (setting.evaluate (fun _ => ⟨0, 0, by decide⟩) "g" (.seq [.null, parked]) none
      (setting.after [.prepare truck])).1 = .ok ⟨false, "g", report⟩ := by
    cbv
  obtain ⟨before, visit, after, split, -, -, -, entry, hchain, -⟩ :=
    (verdict_chain_shape setting _ _ "g" (.seq [.null, parked]) none _ answered).2.2 rfl
  exact ⟨answered, before, visit, after, split, entry, hchain⟩

end Fleet

end Setting

end FieldRules
