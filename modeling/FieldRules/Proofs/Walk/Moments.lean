import FieldRules.Proofs.Walk.Growth

/-!
# `Proofs.Walk.Moments` — a request cut into moments

`Setting.collect` hands the stack of types under way down to the types that it enters. Here a
request is served with one stack that all calls share: a type is put on it when it is built, and
taken from it when its fields are done, whether they ended well or not. The request is cut into
moments, each with what is about to be done, the types whose fields wait for a visit to end, the
stack and the session. `Setting.next?` leads from one moment to the next without any recursion, so
that the end of a request and all that holds on the way are statements about its moments.

A call is answered at the first moment that hands an answer to those who waited when it began. The
moments of a call are followed up to that one (`Setting.RunsInside`), along the recursion of
`collect`: what it collects, with which session, is what the call comes to.

## Contents
- **`Act`**, **`Caller`** and **`Moment`**, with **`Setting.next?`**.
- **`Setting.Runs`** and **`Setting.RunsInside`**, from moment to moment.
- **`collect_runs`**, the moments of a walk; **`build_answers`** and **`visit_answers`**, those of
  the two kinds of calls; **`request_runs`**, those of a request.
-/

namespace FieldRules

/-! ## Moments of a request -/

/-- What is about to be done. -/
inductive Act where
  /-- To see whether a type has to be built. -/
  | visit (type : TypeKey)
  /-- To put a type on the stack and begin with its fields. -/
  | build (type : TypeKey)
  /-- To go on with fields of a type, behind those that came to `found`. -/
  | collect (type : TypeKey) (fields : List Field) (found : Collected)
  /-- To take a type from the stack, with what has become of its fields. -/
  | leave (type : TypeKey) (r : Except RuleError Collected)
  /-- To register the rules of a type and enter its index. -/
  | publish (type : TypeKey) (found : Collected)
  /-- To hand an answer to whoever asked. A visit that passes over its type has no index to show. -/
  | answer (r : Except RuleError (Option ClassIndex))
  deriving DecidableEq, Repr

/-- Whether an answer is about to be handed over. -/
def Act.isAnswer : Act → Bool
  | .answer _ => true
  | _ => false

/-- A type whose fields wait for a visit to end, with the field that is to be listed then. -/
structure Caller where
  type : TypeKey
  fields : List Field
  found : Collected
  waiting : IndexedField
  deriving DecidableEq, Repr

/-- A moment of a request. -/
structure Moment where
  act : Act
  /-- Those who wait, the latest first. -/
  callers : List Caller
  /-- The types under way, the latest first. -/
  stack : List TypeKey
  session : Session
  deriving DecidableEq, Repr

/-- Puts a field with its filed rules behind. -/
def Collected.push (c : Collected) (field : IndexedField) (rules : List FieldRule) : Collected :=
  ⟨c.fields ++ [field], c.rules ++ rules⟩

/-- What was collected first, and then what came after. -/
def Collected.append (c d : Collected) : Collected :=
  ⟨c.fields ++ d.fields, c.rules ++ d.rules⟩

theorem Collected.push_append (c d : Collected) (field : IndexedField) (rules : List FieldRule) :
    (c.push field rules).append d = c.append (d.add field rules) := by
  simp [push, append, add]

theorem Collected.map_push_append (c : Collected) (field : IndexedField) (rules : List FieldRule)
    (r : Except RuleError Collected) :
    r.map (c.push field rules).append = (r.map (·.add field rules)).map c.append := by
  cases r with
  | error e => rfl
  | ok d => exact congrArg Except.ok (c.push_append d field rules)

theorem Collected.map_nil_append (r : Except RuleError Collected) :
    r.map (Collected.mk [] []).append = r := by
  cases r with
  | error e => rfl
  | ok d => rfl

namespace Setting

/-- The moment after a moment; none after the last answer. -/
def next? (w : Setting) (m : Moment) : Option Moment :=
  match m.act with
  | .visit type =>
    if type ∈ m.stack then
      some { m with
        act := .answer (.ok none)
        session := m.session.report (.underWay type m.stack.length) }
    else if m.session.index.contains type then some { m with act := .answer (.ok none) }
    else some { m with act := .build type }
  | .build type =>
    some { m with
      act := .collect type (w.schemas.of type).fields ⟨[], []⟩
      stack := type :: m.stack
      session := w.enter type m.session }
  | .collect type [] found => some { m with act := .leave type (.ok found) }
  | .collect type (f :: rest) found =>
    match w.compileField type f with
    | .error e => some { m with act := .leave type (.error e) }
    | .ok (rule :: rules) =>
      let filed := rule :: rules
      some { m with
        act := .collect type rest (found.push ⟨f.name, .rules⟩ filed)
        session := m.session.report (.fieldRules type f.name filed.length) }
    | .ok [] =>
      match f.target? with
      | none =>
        some { m with
          act := .collect type rest found
          session := m.session.reportAll (f.events type) }
      | some (kind, target) =>
        some { m with
          act := .visit target
          callers := ⟨type, rest, found, ⟨f.name, kind⟩⟩ :: m.callers
          session := m.session.reportAll (f.events type) }
  -- The type leaves the stack before it is known whether it is published.
  | .leave _ (.error e) => some { m with act := .answer (.error e), stack := m.stack.tail }
  | .leave type (.ok found) => some { m with act := .publish type found, stack := m.stack.tail }
  | .publish type found =>
    some { m with
      act := .answer (.ok (some (publish type found m.session).1))
      session := (publish type found m.session).2 }
  | .answer r =>
    match m.callers, r with
    | [], _ => none
    | c :: callers, .error e => some { m with act := .leave c.type (.error e), callers := callers }
    | c :: callers, .ok _ =>
      some { m with
        act := .collect c.type c.fields (c.found.push c.waiting [])
        callers := callers }

/-- Any number of moments further. -/
def Runs (w : Setting) : Moment → Moment → Prop :=
  Relation.ReflTransGen fun m m' => w.next? m = some m'

end Setting

/-- The first moment of a request for a type. -/
def Moment.request (type : TypeKey) (s : Session) : Moment :=
  match s.index.get? type with
  | some entry => ⟨.answer (.ok (some entry)), [], [], s⟩
  | none => ⟨.build type, [], [], s⟩

/-- A call that began while `callers` waited is not answered yet. -/
def Moment.Inside (callers : List Caller) (m : Moment) : Prop :=
  callers <:+ m.callers ∧ (m.act.isAnswer = true → m.callers ≠ callers)

namespace Setting

/-- Any number of moments further, with the call that began while `callers` waited unanswered before
each of them. -/
def RunsInside (w : Setting) (callers : List Caller) : Moment → Moment → Prop :=
  Relation.ReflTransGen fun m m' => m.Inside callers ∧ w.next? m = some m'

/-! ## The moments of a walk -/

section RunsInside

variable {w : Setting} {callers : List Caller} {m m' m'' : Moment}

theorem RunsInside.runs (h : w.RunsInside callers m m') : w.Runs m m' :=
  Relation.ReflTransGen.mono (fun _ _ hnext => hnext.2) _ _ h

/-- A moment with the same callers that does not answer is inside of the call. -/
theorem RunsInside.head (same : m.callers = callers) (unanswered : m.act.isAnswer = false)
    (hnext : w.next? m = some m') (h : w.RunsInside callers m' m'') :
    w.RunsInside callers m m'' := by
  have inside : m.Inside callers :=
    ⟨same ▸ List.suffix_rfl, fun answers => by rw [unanswered] at answers; cases answers⟩
  exact Relation.ReflTransGen.head ⟨inside, hnext⟩ h

/-- What is inside of a call for a target is inside of the call for the type that leads there. -/
theorem RunsInside.ofCaller {c : Caller} (h : w.RunsInside (c :: callers) m m') :
    w.RunsInside callers m m' := by
  refine Relation.ReflTransGen.mono (fun m₁ m₂ hnext => ⟨⟨?_, fun _ heq => ?_⟩, hnext.2⟩) _ _ h
  · exact (List.suffix_cons c callers).trans hnext.1.1
  · have hle := hnext.1.1.length_le
    rw [heq, List.length_cons] at hle
    omega

end RunsInside

/-- From the fields of a type to the answer about it: the type leaves the stack in any case. -/
theorem leave_runs (w : Setting) (type : TypeKey) (p : Except RuleError Collected × Session)
    (callers : List Caller) (stack : List TypeKey) :
    w.RunsInside callers ⟨.leave type p.1, callers, type :: stack, p.2⟩
      ⟨.answer ((finish type p).1.map some), callers, stack, (finish type p).2⟩ := by
  obtain ⟨r, s⟩ := p
  cases r with
  | error e => exact .head rfl rfl rfl .refl
  | ok found => exact .head rfl rfl rfl (.head rfl rfl rfl .refl)

/-- A build makes the walk through the fields of the type, with the type on the stack meanwhile. -/
theorem build_runs {w : Setting} {type : TypeKey} {p : Except RuleError Collected × Session}
    {callers : List Caller} {stack : List TypeKey} {s : Session}
    (walk : w.RunsInside callers
      ⟨.collect type (w.schemas.of type).fields ⟨[], []⟩, callers, type :: stack, w.enter type s⟩
      ⟨.leave type (p.1.map (Collected.mk [] []).append), callers, type :: stack, p.2⟩) :
    w.RunsInside callers ⟨.build type, callers, stack, s⟩
      ⟨.answer ((finish type p).1.map some), callers, stack, (finish type p).2⟩ := by
  rw [Collected.map_nil_append] at walk
  exact .head rfl rfl rfl (walk.trans (w.leave_runs type p callers stack))

section Visit

variable {w : Setting} {type target : TypeKey} {f : Field} {rest : List Field} {kind : FieldKind}
  {found : Collected} {callers : List Caller} {stack : List TypeKey} {s : Session} {m : Moment}

/-- A visit to a type on the stack is over at once. -/
theorem visit_of_mem (onStack : target ∈ stack) :
    w.RunsInside callers ⟨.visit target, callers, stack, s⟩
      ⟨.answer (.ok none), callers, stack, s.report (.underWay target stack.length)⟩ := by
  refine .head rfl rfl ?_ .refl
  simp only [next?, if_pos onStack]

/-- A visit to an indexed type is over at once. -/
theorem visit_of_contains (offStack : target ∉ stack) (indexed : s.index.contains target = true) :
    w.RunsInside callers ⟨.visit target, callers, stack, s⟩
      ⟨.answer (.ok none), callers, stack, s⟩ := by
  refine .head rfl rfl ?_ .refl
  simp only [next?, if_neg offStack, if_pos indexed]

/-- A visit to any other type builds it. -/
theorem visit_of_new (offStack : target ∉ stack) (new : ¬s.index.contains target = true)
    (build : w.RunsInside callers ⟨.build target, callers, stack, s⟩ m) :
    w.RunsInside callers ⟨.visit target, callers, stack, s⟩ m := by
  refine .head rfl rfl ?_ build
  simp only [next?, if_neg offStack, if_neg new]

/-- A field that leads to a type waits for the visit to that type, with what is left of the type at
hand. What happens during the visit is inside of the call for the type at hand. -/
theorem ask_runs (ruleless : w.compileField type f = .ok [])
    (leads : f.target? = some (kind, target))
    (visit : w.RunsInside (⟨type, rest, found, ⟨f.name, kind⟩⟩ :: callers)
      ⟨.visit target, ⟨type, rest, found, ⟨f.name, kind⟩⟩ :: callers, stack,
        s.reportAll (f.events type)⟩ m) :
    w.RunsInside callers ⟨.collect type (f :: rest) found, callers, stack, s⟩ m := by
  refine .head rfl rfl ?_ visit.ofCaller
  simp only [next?, ruleless, leads]

/-- A type that waits goes on when the visit has ended well. The answer is for that type alone, not
for those who wait for it. -/
theorem resume_runs (c : Caller) {entry : Option ClassIndex}
    (next : w.RunsInside callers
      ⟨.collect c.type c.fields (c.found.push c.waiting []), callers, stack, s⟩ m) :
    w.RunsInside callers ⟨.answer (.ok entry), c :: callers, stack, s⟩ m :=
  Relation.ReflTransGen.head
    ⟨⟨List.suffix_cons c callers, fun _ => List.cons_ne_self c callers⟩, rfl⟩ next

/-- A type that waits is given up when the visit has met a malformed rule. -/
theorem break_runs (c : Caller) (e : RuleError) :
    w.RunsInside callers ⟨.answer (.error e), c :: callers, stack, s⟩
      ⟨.leave c.type (.error e), callers, stack, s⟩ :=
  Relation.ReflTransGen.single
    ⟨⟨List.suffix_cons c callers, fun _ => List.cons_ne_self c callers⟩, rfl⟩

end Visit

/-- **The moments of a walk.** The fields of a type come to what `collect` collects, behind what
came before; the stack and those who wait are the same as in the beginning. -/
theorem collect_runs (w : Setting) (type : TypeKey) (stack : List TypeKey) (fields : List Field)
    (s : Session) (callers : List Caller) (found : Collected) :
    w.RunsInside callers ⟨.collect type fields found, callers, stack, s⟩
      ⟨.leave type ((w.collect type stack fields s).1.map found.append), callers, stack,
        (w.collect type stack fields s).2⟩ := by
  fun_induction Setting.collect w type stack fields s generalizing callers found with
  | case1 type stack s =>
      refine .head rfl rfl rfl ?_
      simp only [Except.map, Collected.append, List.append_nil]
      exact .refl
  | case2 type stack s f rest e hc =>
      refine .head rfl rfl ?_ .refl
      simp [next?, hc, Except.map]
  | case3 type stack s f rest rule rules hc filed r s' heq ih =>
      have hrest := ih callers (found.push ⟨f.name, .rules⟩ filed)
      rw [heq, Collected.map_push_append] at hrest
      refine .head rfl rfl ?_ hrest
      simp only [next?, hc]
      rfl
  | case4 type stack s f rest hc s₁ htarget ih =>
      refine .head rfl rfl ?_ (ih callers found)
      simp [next?, hc, htarget, s₁]
  | case5 type stack s f rest hc s₁ kind target htarget onStack r s' heq ih =>
      have hrest := ih callers (found.push ⟨f.name, kind⟩ [])
      rw [heq, Collected.map_push_append] at hrest
      exact (ask_runs hc htarget (visit_of_mem onStack)).trans (resume_runs _ hrest)
  | case6 type stack s f rest hc s₁ kind target htarget offStack indexed r s' heq ih =>
      have hrest := ih callers (found.push ⟨f.name, kind⟩ [])
      rw [heq, Collected.map_push_append] at hrest
      exact (ask_runs hc htarget (visit_of_contains offStack indexed)).trans (resume_runs _ hrest)
  | case7 type stack s f rest hc s₁ kind target htarget offStack new e s' heq ih =>
      have build := build_runs (ih (⟨type, rest, found, ⟨f.name, kind⟩⟩ :: callers) ⟨[], []⟩)
      rw [heq] at build
      exact (ask_runs hc htarget (visit_of_new offStack new build)).trans (break_runs _ e)
  | case8 type stack s f rest hc s₁ kind target htarget offStack new entry s₂ heq r s' heq' ih
      ih' =>
      have build := build_runs (ih (⟨type, rest, found, ⟨f.name, kind⟩⟩ :: callers) ⟨[], []⟩)
      rw [heq] at build
      have hrest := ih' callers (found.push ⟨f.name, kind⟩ [])
      rw [heq', Collected.map_push_append] at hrest
      exact (ask_runs hc htarget (visit_of_new offStack new build)).trans (resume_runs _ hrest)

/-- **The moments of a build,** up to its answer. -/
theorem build_answers (w : Setting) (type : TypeKey) (callers : List Caller) (stack : List TypeKey)
    (s : Session) : ∃ r s', w.RunsInside callers ⟨.build type, callers, stack, s⟩
      ⟨.answer r, callers, stack, s'⟩ :=
  ⟨_, _, build_runs (w.collect_runs type (type :: stack) _ (w.enter type s) callers ⟨[], []⟩)⟩

/-- **The moments of a visit,** up to its answer. -/
theorem visit_answers (w : Setting) (type : TypeKey) (callers : List Caller) (stack : List TypeKey)
    (s : Session) : ∃ r s', w.RunsInside callers ⟨.visit type, callers, stack, s⟩
      ⟨.answer r, callers, stack, s'⟩ := by
  by_cases onStack : type ∈ stack
  · exact ⟨_, _, visit_of_mem onStack⟩
  · by_cases indexed : s.index.contains type = true
    · exact ⟨_, _, visit_of_contains onStack indexed⟩
    · obtain ⟨r, s', build⟩ := w.build_answers type callers stack s
      exact ⟨r, s', visit_of_new onStack indexed build⟩

/-- **The moments of a request.** The last one has the answer and the session of `ensureIndexed`. -/
theorem request_runs (w : Setting) (type : TypeKey) (s : Session) :
    w.Runs (.request type s)
      ⟨.answer ((w.ensureIndexed type s).1.map some), [], [], (w.ensureIndexed type s).2⟩ := by
  unfold Moment.request ensureIndexed
  cases s.index.get? type with
  | some entry => exact .refl
  | none =>
      exact (build_runs (w.collect_runs type [type] _ (w.enter type s) [] ⟨[], []⟩)).runs

end Setting

end FieldRules
