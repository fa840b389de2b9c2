import FieldRules.Proofs.Direct.Interpreter
import FieldRules.Proofs.History.Request
import Mathlib

/-!
# `Proofs.Direct.Refinement` — the engine gives the answers of the interpreter

An exact session holds for every indexed type what the plan of the type is made of: the index lists
the declarations that are not ignored, and the registry gives the matchers that judge them. So a
part of the walk that begins in an exact session ends as the same part of the interpreter does, and
in an exact session again (`Mirrors`). Parts of walks are put together by one lemma
(`Mirrors.andThen`), and the recursion is an induction over what objects and sequences hold.

No request fails on the way where the types of all objects inside of the value compile, with
everything that they lead to (`CompilesInside`).

## Contents
- **`Value.Inside`** and **`Setting.CompilesInside`**.
- **`withEntry_decision`**: the decision on two shelves is the judgement on one list.
- **`Mirrors`**, part by part up to **`checkValue_mirrors`**.
- **`evaluate_of_exact`** and **`evaluate_eq_interpret`**: the engine and the interpreter, in exact
  sessions and after histories.
- **`Parcel.setting`** and **`Parcel.parcel`**, an order that fails because of its line.
-/

namespace FieldRules

open Calendar

/-! ## What is inside of a value -/

/-- `Inside u v`: going from `v` to what fields of objects read as and to elements of sequences, one
meets `u`. -/
inductive Value.Inside (u : Value) : Value → Prop where
  | self : Inside u u
  | field {type values name v} (read : Value.read type values name = .ok v) (inside : Inside u v) :
      Inside u (.object type values)
  | element {items v} (mem : v ∈ items) (inside : Inside u v) : Inside u (.seq items)

/-- The types of all objects inside of a value compile, and so do the types that they reach. -/
def Setting.CompilesInside (w : Setting) (v : Value) : Prop :=
  ∀ type values, Value.Inside (.object type values) v →
    ∀ target, w.Reaches type target → w.Compiles target

namespace Setting

theorem CompilesInside.field {w : Setting} {type : TypeKey} {values : List (String × Reading)}
    {name : String} {v : Value} (h : w.CompilesInside (.object type values))
    (read : Value.read type values name = .ok v) : w.CompilesInside v :=
  fun type' values' hinside => h type' values' (.field read hinside)

theorem CompilesInside.element {w : Setting} {items : List Value} {v : Value}
    (h : w.CompilesInside (.seq items)) (hmem : v ∈ items) : w.CompilesInside v :=
  fun type values hinside => h type values (.element hmem hinside)

end Setting

/-! ## Outcomes on a chain -/

namespace Outcome

/-- The outcome of a judgement: a failure where there is an entry for it. -/
def withEntry : Option String → Outcome
  | none => .passed
  | some text => .failed [text]

/-- The outcome of a part that began with a chain: the entries of a failure come after what was
there. -/
def onto (chain : Chain) : Outcome → Bool × Chain
  | .passed => (true, chain)
  | .failed entries => (false, ⟨chain.entries ++ entries⟩)

theorem judged_eq_onto (chain : Chain) (entry : Option String) :
    chain.judged entry = (withEntry entry).onto chain := by
  cases entry with
  | none => rfl
  | some text => rfl

end Outcome

/-! ## Judging -/

/-- Matchers that admit are kept apart from the others, which changes nothing about the outcome. -/
theorem withEntry_decision (path : String) (v : Value) (now : Instant) (ms : List Matcher) :
    Outcome.withEntry
        (entryFor? path v (.ofMatchers ms) ((Resolved.ofMatchers ms).decision v now)) =
      judgement path v now ms := by
  unfold judgement
  by_cases haccept : ∃ m ∈ ms, m.polarity = .accept
  · have hwhite : (Resolved.ofMatchers ms).white.isEmpty = false := by
      simpa [Resolved.ofMatchers] using haccept
    have hany : (Resolved.ofMatchers ms).white.any (·.hits v now) = true ↔
        ∃ m ∈ ms, m.polarity = .accept ∧ m.hits v now = true := by
      simp [Resolved.ofMatchers]
    rw [if_pos haccept, Resolved.decision, hwhite, if_neg Bool.false_ne_true]
    by_cases hhit : ∃ m ∈ ms, m.polarity = .accept ∧ m.hits v now = true
    · rw [if_pos hhit, if_pos (hany.mpr hhit)]
      rfl
    · rw [if_neg hhit, if_neg (fun h => hhit (hany.mp h))]
      rfl
  · have hreject : ∀ m ∈ ms, m.polarity = .reject := by
      intro m hm
      cases hp : m.polarity with
      | accept => exact absurd ⟨m, hm, hp⟩ haccept
      | reject => rfl
    have hwhite : (Resolved.ofMatchers ms).white = [] := by
      simpa [Resolved.ofMatchers] using fun m hm hp => haccept ⟨m, hm, hp⟩
    have hblack : (Resolved.ofMatchers ms).black = ms := by
      simpa [Resolved.ofMatchers] using hreject
    rw [if_neg haccept, Resolved.decision, hwhite, hblack, if_pos List.isEmpty_nil]
    cases ms.find? (·.hits v now) with
    | none => rfl
    | some m => rfl

namespace Setting

/-! ## Parts of a walk -/

/-- A part of a walk that began in `s` has ended as the interpreter does, with the interpreter's
entries after those that were there, in a session that the walk has moved on by steps. -/
structure Mirrors (w : Setting) (chain : Chain) (s : Session) (p : Progress)
    (r : Except AccessError Outcome) : Prop where
  result : p.1 = (r.map (Outcome.onto chain)).mapError CheckError.access
  steps : w.Steps s p.2

theorem Mirrors.of_steps {w : Setting} {chain : Chain} {s s₁ : Session} {p : Progress}
    {r : Except AccessError Outcome} (hsteps : w.Steps s s₁) (h : w.Mirrors chain s₁ p r) :
    w.Mirrors chain s p r :=
  ⟨h.result, hsteps.trans h.steps⟩

/-- Goes on only after a part of the interpreter that passes. -/
def proceedDirect (r next : Except AccessError Outcome) : Except AccessError Outcome :=
  match r with
  | .ok .passed => next
  | stopped => stopped

theorem Mirrors.andThen {w : Setting} {chain : Chain} {s : Session} {p : Progress}
    {r r' : Except AccessError Outcome} {next : Chain → Session → Progress}
    (h : w.Mirrors chain s p r) (hnext : w.Mirrors chain p.2 (next chain p.2) r') :
    w.Mirrors chain s (proceed p next) (proceedDirect r r') := by
  obtain ⟨p₁, s₁⟩ := p
  obtain ⟨hresult, hsteps⟩ := h
  cases hresult
  cases r with
  | error e => exact ⟨rfl, hsteps⟩
  | ok outcome =>
      cases outcome with
      | passed => exact hnext.of_steps hsteps
      | failed entries => exact ⟨rfl, hsteps⟩

variable {w : Setting} (group : String) (now : Instant)

/-! ## Fields -/

/-- The judgement of a field with rules, by the matchers that the registry gives for it. -/
theorem judgeField_mirrors {type : TypeKey} {values : List (String × Reading)} {f : Field}
    {chain : Chain} {s : Session} (hs : w.Exact s) (indexed : s.index.contains type = true)
    (rules : w.kind? type f = some .rules) :
    w.Mirrors chain s (Check.judgeField ⟨w, group, fun _ => now⟩ type values f.name chain s)
      (Direct.field ⟨w.plan group, now⟩ type values (w.planned group type f)) := by
  have hresolve := hs.resolve group type f.name indexed
  have hplanned : (w.planned group type f).treatment =
      if w.matchersOn group type f.name = [] then .ignored
      else .judged (w.matchersOn group type f.name) := by
    rw [planned, treatment, rules]
  rw [Direct.field, hplanned]
  rcases Check.judgeField_cases ⟨w, group, fun _ => now⟩ type values f.name chain s with
    ⟨hempty, heq⟩ | ⟨hmatchers, hread⟩
  · rw [hresolve, Resolved.isEmpty_ofMatchers, List.isEmpty_iff] at hempty
    rw [heq, if_pos hempty]
    exact ⟨rfl, .refl⟩
  · have hne : w.matchersOn group type f.name ≠ [] := by
      intro hnil
      rw [hresolve, Resolved.isEmpty_ofMatchers, hnil] at hmatchers
      cases hmatchers
    rw [if_neg hne]
    rcases hread with ⟨e, hread, heq⟩ | ⟨v, s', hread, alike, -, heq⟩
    · rw [heq]
      simp only [planned, hread]
      exact ⟨rfl, .refl⟩
    · rw [heq]
      simp only [planned, hread, hresolve, Outcome.judged_eq_onto, withEntry_decision]
      exact ⟨rfl, Steps.of_alike alike⟩

/-- An indexed field, where what it holds is walked as the interpreter does it. -/
theorem checkField_mirrors {type : TypeKey} {values : List (String × Reading)} {f : Field}
    {kind : FieldKind} {chain : Chain} {s : Session} (hs : w.Exact s)
    (indexed : s.index.contains type = true) (hkind : w.kind? type f = some kind)
    (hinside : ∀ v, Value.read type values f.name = .ok v → ∀ path,
      w.Mirrors chain s (Check.checkNested ⟨w, group, fun _ => now⟩ path v chain s)
        (Direct.inside ⟨w.plan group, now⟩ path v)) :
    w.Mirrors chain s
      (Check.checkField ⟨w, group, fun _ => now⟩ type values ⟨f.name, kind⟩ chain s)
      (Direct.field ⟨w.plan group, now⟩ type values (w.planned group type f)) := by
  have walked (hplanned : (w.planned group type f).treatment = .walked) (hne : kind ≠ .rules) :
      w.Mirrors chain s
        (Check.checkField ⟨w, group, fun _ => now⟩ type values ⟨f.name, kind⟩ chain s)
        (Direct.field ⟨w.plan group, now⟩ type values (w.planned group type f)) := by
    rw [Check.checkField_of_walked _ _ _ _ _ _ hne, Direct.field_of_walked _ _ _ _ hplanned]
    cases hread : Value.read type values f.name with
    | error e =>
        simp only [planned, hread]
        exact ⟨rfl, .refl⟩
    | ok v =>
        simp only [planned, hread]
        exact hinside v hread _
  cases kind with
  | rules =>
      rw [Check.checkField]
      exact judgeField_mirrors group now hs indexed hkind
  | nested => exact walked (by rw [planned, treatment, hkind]) FieldKind.noConfusion
  | container => exact walked (by rw [planned, treatment, hkind]) FieldKind.noConfusion

/-- Indexed fields in order. Declarations that are not indexed are ignored by the plan. -/
theorem checkFields_mirrors (selection : Option (List String)) {type : TypeKey}
    {values : List (String × Reading)} {decls : List Field} {chain : Chain} {s : Session}
    (hs : w.Exact s) (indexed : s.index.contains type = true)
    (hinside : ∀ name v, Value.read type values name = .ok v → ∀ path chain s, w.Exact s →
      w.Mirrors chain s (Check.checkNested ⟨w, group, fun _ => now⟩ path v chain s)
        (Direct.inside ⟨w.plan group, now⟩ path v)) :
    w.Mirrors chain s
      (Check.checkFields ⟨w, group, fun _ => now⟩ selection type values (w.indexed type decls)
        chain s)
      (Direct.fields ⟨w.plan group, now⟩ selection type values
        (decls.map (w.planned group type))) := by
  induction decls generalizing s with
  | nil =>
      simp only [Setting.indexed, List.filterMap_nil, List.map_nil]
      rw [Check.checkFields, Direct.fields]
      exact ⟨rfl, .refl⟩
  | cons f decls ih =>
      have hname : (w.planned group type f).name = f.name := rfl
      rw [List.map_cons, Direct.fields, hname]
      cases hkind : w.kind? type f with
      | none =>
          -- the declaration is not indexed, and the plan lets it pass unread
          have hpass : Direct.field ⟨w.plan group, now⟩ type values (w.planned group type f) =
              .ok .passed := by
            rw [Direct.field, planned, treatment, hkind]
          rw [indexed_cons_of_none hkind, hpass]
          split
          · exact ih hs indexed
          · exact ih hs indexed
      | some kind =>
          rw [indexed_cons_of_some hkind, Check.checkFields]
          split
          · exact ih hs indexed
          · have hfield := checkField_mirrors group now hs indexed hkind
              fun v hread path => hinside f.name v hread path chain s hs
            exact hfield.andThen (ih (hs.steps hfield.steps) (hfield.steps.contains indexed))

/-! ## Objects and sequences -/

/-- An object: no request for its type fails, and its indexed fields are those of the plan. -/
theorem checkObject_mirrors (selection : Option (List String)) {type : TypeKey}
    {values : List (String × Reading)} (chain : Chain) {s : Session} (hs : w.Exact s)
    (compiles : ∀ target, w.Reaches type target → w.Compiles target)
    (hinside : ∀ name v, Value.read type values name = .ok v → ∀ path chain s, w.Exact s →
      w.Mirrors chain s (Check.checkNested ⟨w, group, fun _ => now⟩ path v chain s)
        (Direct.inside ⟨w.plan group, now⟩ path v)) :
    w.Mirrors chain s (Check.checkObject ⟨w, group, fun _ => now⟩ selection type values chain s)
      (Direct.object ⟨w.plan group, now⟩ selection type values) := by
  obtain ⟨s₁, hok, hs₁, indexed⟩ := ensureIndexed_eq_ok hs compiles
  have hsteps := w.ensureIndexed_steps type s
  rw [hok] at hsteps
  rw [Check.checkObject, Direct.object]
  dsimp only
  rw [hok]
  exact (checkFields_mirrors group now selection hs₁ indexed hinside).of_steps hsteps

/-- The elements of a sequence in order. -/
theorem checkItems_mirrors {path : String} {position : Nat} {items : List Value} {chain : Chain}
    {s : Session} (hs : w.Exact s)
    (hinside : ∀ v ∈ items, ∀ path chain s, w.Exact s →
      w.Mirrors chain s (Check.checkNested ⟨w, group, fun _ => now⟩ path v chain s)
        (Direct.inside ⟨w.plan group, now⟩ path v)) :
    w.Mirrors chain s (Check.checkItems ⟨w, group, fun _ => now⟩ path position items chain s)
      (Direct.elements ⟨w.plan group, now⟩ path position items) := by
  induction items generalizing position s with
  | nil =>
      rw [Check.checkItems, Direct.elements]
      exact ⟨rfl, .refl⟩
  | cons v rest ih =>
      have hfirst := hinside v List.mem_cons_self (elementPath path position) chain s hs
      rw [Check.checkItems, Direct.elements]
      exact hfirst.andThen
        (ih (hs.steps hfirst.steps) fun u hu => hinside u (List.mem_cons_of_mem _ hu))

/-- What a walked field holds. -/
theorem checkNested_mirrors {v : Value} (compiles : w.CompilesInside v) :
    ∀ path chain s, w.Exact s →
      w.Mirrors chain s (Check.checkNested ⟨w, group, fun _ => now⟩ path v chain s)
        (Direct.inside ⟨w.plan group, now⟩ path v) := by
  induction v using Value.held_induction with
  | object type values ih =>
      intro path chain s hs
      have hobject := checkObject_mirrors group now none chain hs
        (compiles type values .self) fun name u hread => ih name u hread (compiles.field hread)
      rw [Check.checkNested, Direct.inside]
      -- both put the same entry in front of a failure and leave all other results alone
      generalize Check.checkObject ⟨w, group, fun _ => now⟩ none type values chain s = p at hobject
      generalize Direct.object ⟨w.plan group, now⟩ none type values = r at hobject
      obtain ⟨p₁, s₁⟩ := p
      obtain ⟨hresult, hsteps⟩ := hobject
      cases hresult
      cases r with
      | error e => exact ⟨rfl, hsteps⟩
      | ok outcome =>
          cases outcome with
          | passed => exact ⟨rfl, hsteps⟩
          | failed entries =>
              refine ⟨?_, hsteps⟩
              show Except.ok (false, _) = Except.ok (false, _)
              rw [Chain.failAt_mark]
  | seq items ih =>
      intro path chain s hs
      rw [Check.checkNested, Direct.inside]
      exact checkItems_mirrors group now hs fun u hmem => ih u hmem (compiles.element hmem)
  | leaf v hleaf =>
      intro path chain s hs
      unfold Check.checkNested Direct.inside
      cases v with
      | object type values => cases hleaf
      | seq items => cases hleaf
      | _ => exact ⟨rfl, .refl⟩

/-! ## Values -/

mutual

/-- **A check mirrors the interpreter:** it begins in an exact session and ends as the interpreter
does, in an exact session again. -/
theorem checkValue_mirrors (selection : Option (List String)) (v : Value) (chain : Chain)
    {s : Session} (hs : w.Exact s) (compiles : w.CompilesInside v) :
    w.Mirrors chain s (Check.checkValue ⟨w, group, fun _ => now⟩ selection v chain s)
      (Direct.value ⟨w.plan group, now⟩ selection v) := by
  unfold Check.checkValue Direct.value
  cases v with
  | object type values =>
      exact checkObject_mirrors group now selection chain hs (compiles type values .self)
        fun name u hread => checkNested_mirrors group now (compiles.field hread)
  | seq items =>
      exact checkValues_mirrors selection items chain hs fun u hmem => compiles.element hmem
  | _ => exact ⟨rfl, .refl⟩

/-- Values in order. -/
theorem checkValues_mirrors (selection : Option (List String)) (vs : List Value) (chain : Chain)
    {s : Session} (hs : w.Exact s) (compiles : ∀ v ∈ vs, w.CompilesInside v) :
    w.Mirrors chain s (Check.checkValues ⟨w, group, fun _ => now⟩ selection vs chain s)
      (Direct.values ⟨w.plan group, now⟩ selection vs) := by
  unfold Check.checkValues Direct.values
  cases vs with
  | nil => exact ⟨rfl, .refl⟩
  | cons v rest =>
      have hfirst := checkValue_mirrors selection v chain hs (compiles v List.mem_cons_self)
      exact hfirst.andThen (checkValues_mirrors selection rest chain (hs.steps hfirst.steps)
        fun u hmem => compiles u (List.mem_cons_of_mem v hmem))

end

/-! ## Checks -/

/-- A check that begins in an exact session gives the verdict of the interpreter. -/
theorem evaluate_of_exact {s : Session} (hs : w.Exact s) (v : Value)
    (selection : Option (List String)) (compiles : w.CompilesInside v) :
    (w.evaluate (fun _ => now) group v selection s).1 =
      (w.interpret now group v selection).mapError CheckError.access := by
  have hmirrors := checkValue_mirrors (groupNamed group) now selection v .empty hs compiles
  show Except.map _ (Check.checkValue _ _ _ _ _).1 = Except.mapError _ (Except.map _ _)
  rw [hmirrors.result]
  cases Direct.value ⟨w.plan (groupNamed group), now⟩ selection v with
  | error e => rfl
  | ok outcome =>
      cases outcome with
      | passed => rfl
      | failed entries => rfl

/-- **The engine and the interpreter agree after every history.** Failed requests in the history
make no difference, nor does the order in which types were indexed. -/
theorem evaluate_eq_interpret (w : Setting) (history : List Request) (now : Instant)
    (group : String) (v : Value) (selection : Option (List String))
    (compiles : w.CompilesInside v) :
    (w.evaluate (fun _ => now) group v selection (w.after history)).1 =
      (w.interpret now group v selection).mapError CheckError.access :=
  evaluate_of_exact group now (w.exact_after history) v selection compiles

/-! ## An order and its line -/

namespace Parcel

def order : TypeKey := ⟨"A", "A"⟩

def line : TypeKey := ⟨"B", "B"⟩

/-- An order holds a line, and lines have one field, with a rule in the group `g`. -/
def setting : Setting where
  schemas := ⟨[
    (order, ⟨[⟨"x", .nested line, [], true⟩]⟩),
    (line, ⟨[⟨"y", .leaf, [⟨.values ["a"], ["g"], true, false⟩], false⟩]⟩)]⟩
  book := .empty

/-- An order with a line that the rule does not admit. -/
def parcel : Value :=
  .object order [("x", .value (.object line [("y", .value (.str "b"))]))]

theorem compiles (type : TypeKey) : setting.Compiles type :=
  compiles_of_listed (by decide) type

/-- The failure inside of the order is preceded by the entry for the field that holds the line. -/
theorem evaluate_parcel :
    setting.CompilesInside parcel ∧
      (setting.evaluate (fun _ => ⟨0, 0, by decide⟩) "g" parcel none
          (setting.after [.prepare line])).1 =
        .ok ⟨false, "g", ["A.x: nested B failed",
          "B.y: value \"b\" is not accepted by values [\"a\"]"]⟩ := by
  have hcompiles : setting.CompilesInside parcel := fun _ _ _ target _ => compiles target
  refine ⟨hcompiles, ?_⟩
  rw [evaluate_eq_interpret setting _ _ "g" parcel none hcompiles]
  cbv

end Parcel

end Setting

end FieldRules
