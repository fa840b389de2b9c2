import FieldRules.Proofs.Walk.Moments

/-!
# `Proofs.Walk.Stack` — one stack, put back by every call as it was found

What a request does to its stack and to the index is seen from one moment to the next
(`Moment.Follows`). At every moment the stack lists the type at hand and those that wait, without
repetition and none of them indexed, and a type that is to be built or published is neither on the
stack nor indexed (`Orderly`). The type leaves the stack before it is published, so in between only
what is about to be done tells that it was built.

A type that was built is found on the stack and later in the index, unless the request has failed;
and then no call begins any more (`Settled`).

## Contents
- **`Moment.Follows`**, what one moment makes of another.
- **`Moment.Orderly`** and **`Moment.Settled`**, kept from moment to moment.
- **`not_built_again`** and **`publish_of_orderly`**.
- **`stack_is_kept`**, the statement on requests.
-/

namespace FieldRules

/-! ## What one moment makes of another -/

namespace Act

/-- The type whose fields are at hand. -/
def atHand : Act → List TypeKey
  | .collect type _ _ => [type]
  | .leave type _ => [type]
  | _ => []

/-- The type that is to be built or published. -/
def opened? : Act → Option TypeKey
  | .build type => some type
  | .publish type _ => some type
  | _ => none

/-- Whether a type that was built may be neither on the stack nor indexed: it is about to be
published, or a malformed rule was met. -/
def excuses (type : TypeKey) : Act → Bool
  | .publish other _ => other = type
  | .leave _ (.error _) => true
  | .answer (.error _) => true
  | _ => false

end Act

namespace Moment

/-- What a moment can make of stack and session, apart from what is collected meanwhile. -/
inductive Follows : Moment → Moment → Prop where
  /-- A visit is over at once, or a field is done. -/
  | goesOn {act act' callers stack s s'} (same : act'.atHand = act.atHand)
      (idle : ∀ type, act.excuses type = false) (closed : act'.opened? = none)
      (alike : s.Alike s') :
      Follows ⟨act, callers, stack, s⟩ ⟨act', callers, stack, s'⟩
  | opens {type callers stack s} (offStack : type ∉ stack)
      (new : s.index.contains type = false) :
      Follows ⟨.visit type, callers, stack, s⟩ ⟨.build type, callers, stack, s⟩
  | enters {type fields found callers stack s s'} (alike : s.Alike s') :
      Follows ⟨.build type, callers, stack, s⟩
        ⟨.collect type fields found, callers, type :: stack, s'⟩
  | asks {fields found target c callers stack s s'} (alike : s.Alike s') :
      Follows ⟨.collect c.type fields found, callers, stack, s⟩
        ⟨.visit target, c :: callers, stack, s'⟩
  | breaksOff {type e callers stack s} :
      Follows ⟨.leave type (.error e), callers, stack, s⟩
        ⟨.answer (.error e), callers, stack.tail, s⟩
  | closes {type found callers stack s} :
      Follows ⟨.leave type (.ok found), callers, stack, s⟩
        ⟨.publish type found, callers, stack.tail, s⟩
  | publishes {type found entry callers stack s} :
      Follows ⟨.publish type found, callers, stack, s⟩
        ⟨.answer (.ok entry), callers, stack, (Setting.publish type found s).2⟩
  | givesUp {c e callers stack s} :
      Follows ⟨.answer (.error e), c :: callers, stack, s⟩
        ⟨.leave c.type (.error e), callers, stack, s⟩
  | resumes {c entry fields found callers stack s} :
      Follows ⟨.answer (.ok entry), c :: callers, stack, s⟩
        ⟨.collect c.type fields found, callers, stack, s⟩

theorem follows_of_next? {w : Setting} {m m' : Moment} (h : w.next? m = some m') :
    m.Follows m' := by
  obtain ⟨act, callers, stack, s⟩ := m
  cases act with
  | visit type =>
      simp only [Setting.next?] at h
      split at h
      · cases h
        exact .goesOn rfl (fun _ => rfl) rfl (.report s _)
      · next offStack =>
          split at h
          · cases h
            exact .goesOn rfl (fun _ => rfl) rfl (.refl s)
          · next new =>
              cases h
              exact .opens offStack (by simpa using new)
  | build type =>
      cases h
      exact .enters (.enter w type s)
  | collect type fields found =>
      cases fields with
      | nil =>
          cases h
          exact .goesOn rfl (fun _ => rfl) rfl (.refl s)
      | cons f rest =>
          simp only [Setting.next?] at h
          split at h
          · cases h
            exact .goesOn rfl (fun _ => rfl) rfl (.refl s)
          · cases h
            exact .goesOn rfl (fun _ => rfl) rfl (.report s _)
          · split at h
            · cases h
              exact .goesOn rfl (fun _ => rfl) rfl (.reportAll s _)
            · next kind target leads =>
                cases h
                exact .asks (c := ⟨type, rest, found, ⟨f.name, kind⟩⟩) (.reportAll s _)
  | leave type r =>
      cases r with
      | error e =>
          cases h
          exact .breaksOff
      | ok found =>
          cases h
          exact .closes
  | publish type found =>
      cases h
      exact .publishes
  | answer r =>
      cases callers with
      | nil => cases h
      | cons c callers =>
          cases r with
          | error e =>
              cases h
              exact .givesUp
          | ok entry =>
              cases h
              exact .resumes

/-! ## What holds at every moment -/

/-- The stack is in order, and so is a type that is to be built or published. -/
structure Orderly (m : Moment) : Prop where
  /-- The stack lists the type at hand and those that wait. -/
  stacked : m.stack = m.act.atHand ++ m.callers.map Caller.type
  nodup : m.stack.Nodup
  unindexed : ∀ type ∈ m.stack, m.session.index.contains type = false
  /-- What is to be built or published is neither on the stack nor indexed. -/
  fresh : ∀ type ∈ m.act.opened?, type ∉ m.stack ∧ m.session.index.contains type = false

theorem orderly_request (type : TypeKey) (s : Session) : (request type s).Orderly := by
  unfold request
  cases hget : s.index.get? type with
  | some entry => exact ⟨rfl, .nil, nofun, nofun⟩
  | none =>
      refine ⟨rfl, .nil, nofun, ?_⟩
      rintro t ⟨⟩
      exact ⟨List.not_mem_nil, (Index.get?_eq_none_iff _ _).mp hget⟩

/-- **A moment that follows keeps the order.** -/
theorem Orderly.next {m m' : Moment} (h : m.Orderly) (hnext : m.Follows m') : m'.Orderly := by
  obtain ⟨stacked, nodup, unindexed, fresh⟩ := h
  cases hnext with
  | goesOn same idle closed alike =>
      refine ⟨stacked.trans (congrArg (· ++ _) same.symm), nodup, ?_, ?_⟩
      · rw [alike.index]
        exact unindexed
      · rw [closed]
        exact nofun
  | opens offStack new =>
      refine ⟨stacked, nodup, unindexed, ?_⟩
      rintro t ⟨⟩
      exact ⟨offStack, new⟩
  | @enters type fields found callers stack s s' alike =>
      obtain ⟨offStack, new⟩ := fresh type rfl
      refine ⟨congrArg (type :: ·) stacked, List.nodup_cons.mpr ⟨offStack, nodup⟩, ?_, nofun⟩
      rw [alike.index]
      exact List.forall_mem_cons.mpr ⟨new, unindexed⟩
  | asks alike =>
      refine ⟨stacked, nodup, ?_, nofun⟩
      rw [alike.index]
      exact unindexed
  | @breaksOff type e callers stack s =>
      obtain rfl : stack = type :: callers.map Caller.type := stacked
      exact ⟨rfl, nodup.tail, fun t ht => unindexed t (List.mem_of_mem_tail ht), nofun⟩
  | @closes type found callers stack s =>
      obtain rfl : stack = type :: callers.map Caller.type := stacked
      refine ⟨rfl, nodup.tail, fun t ht => unindexed t (List.mem_of_mem_tail ht), ?_⟩
      rintro t ⟨⟩
      exact ⟨(List.nodup_cons.mp nodup).1, unindexed type List.mem_cons_self⟩
  | @publishes type found entry callers stack s =>
      obtain ⟨offStack, -⟩ := fresh type rfl
      refine ⟨stacked, nodup, fun t ht => ?_, nofun⟩
      -- no type on the stack is the one that is published
      rw [← Bool.not_eq_true, Setting.contains_publish, not_or]
      refine ⟨fun heq => offStack (heq ▸ ht), ?_⟩
      rw [unindexed t ht]
      exact Bool.false_ne_true
  | givesUp => exact ⟨stacked, nodup, unindexed, nofun⟩
  | resumes => exact ⟨stacked, nodup, unindexed, nofun⟩

theorem Orderly.runs {w : Setting} {m m' : Moment} (h : m.Orderly) (runs : w.Runs m m') :
    m'.Orderly := by
  induction runs with
  | refl => exact h
  | tail _ hnext ih => exact ih.next (follows_of_next? hnext)

/-- A type that was built is on the stack or indexed, unless it is about to be published or the
request has failed. -/
def Settled (type : TypeKey) (m : Moment) : Prop :=
  type ∈ m.stack ∨ m.session.index.contains type = true ∨ m.act.excuses type = true

/-- While nothing is published and nothing has failed, stack and index only have to grow. -/
theorem Settled.grow {type : TypeKey} {m m' : Moment} (h : m.Settled type)
    (idle : m.act.excuses type = false) (stack : type ∈ m.stack → type ∈ m'.stack)
    (index : m.session.index.contains type = true → m'.session.index.contains type = true) :
    m'.Settled type := by
  rcases h with onStack | indexed | excused
  · exact .inl (stack onStack)
  · exact .inr (.inl (index indexed))
  · rw [idle] at excused
    cases excused

/-- **A type stays settled.** It only leaves the stack to be published, or because the request has
failed; and a request that has failed does nothing but hand its error on. -/
theorem Settled.next {type : TypeKey} {m m' : Moment} (h : m.Settled type) (orderly : m.Orderly)
    (hnext : m.Follows m') : m'.Settled type := by
  cases hnext with
  | goesOn same idle closed alike => exact h.grow (idle type) id (alike.index ▸ id)
  | opens offStack new => exact h.grow rfl id id
  | enters alike => exact h.grow rfl (List.mem_cons_of_mem _) (alike.index ▸ id)
  | asks alike => exact h.grow rfl id (alike.index ▸ id)
  | breaksOff => exact .inr (.inr rfl)
  | @closes top found callers stack s =>
      obtain rfl : stack = top :: callers.map Caller.type := orderly.stacked
      by_cases htop : top = type
      · exact .inr (.inr (decide_eq_true htop))
      · exact h.grow rfl (fun onStack => List.mem_of_ne_of_mem (Ne.symm htop) onStack) id
  | @publishes top found entry callers stack s =>
      have indexed : top = type ∨ s.index.contains type = true →
          (Setting.publish top found s).2.index.contains type = true := fun hor =>
        (Setting.contains_publish type).mpr (hor.imp_left Eq.symm)
      rcases h with onStack | hindex | excused
      · exact .inl onStack
      · exact .inr (.inl (indexed (.inr hindex)))
      · exact .inr (.inl (indexed (.inl (of_decide_eq_true excused))))
  | givesUp => exact .inr (.inr rfl)
  | resumes => exact h.grow rfl id id

theorem Settled.runs {w : Setting} {type : TypeKey} {m m' : Moment} (h : m.Settled type)
    (orderly : m.Orderly) (runs : w.Runs m m') : m'.Settled type := by
  induction runs with
  | refl => exact h
  | tail hruns hnext ih => exact ih.next (orderly.runs hruns) (follows_of_next? hnext)

/-- A settled type is not built. -/
theorem Settled.act_ne_build {type : TypeKey} {m : Moment} (h : m.Settled type)
    (orderly : m.Orderly) : m.act ≠ .build type := by
  intro hbuild
  obtain ⟨offStack, new⟩ := orderly.fresh type (by rw [hbuild]; rfl)
  rcases h with onStack | indexed | excused
  · exact offStack onStack
  · rw [new] at indexed
    cases indexed
  · rw [hbuild] at excused
    cases excused

end Moment

/-! ## Requests -/

namespace Setting

/-- **A type is built at most once:** after it is put on the stack, no later moment builds it. -/
theorem not_built_again {w : Setting} {m m' m'' : Moment} {type : TypeKey} (orderly : m.Orderly)
    (build : m.act = .build type) (hnext : w.next? m = some m') (runs : w.Runs m' m'') :
    m''.act ≠ .build type := by
  have orderly' := orderly.next (Moment.follows_of_next? hnext)
  have settled : m'.Settled type := by
    obtain ⟨act, callers, stack, s⟩ := m
    subst build
    cases hnext
    exact .inl List.mem_cons_self
  exact (settled.runs orderly' runs).act_ne_build (orderly'.runs runs)

/-- **A publication is never in vain:** the type is new, so its fields are entered in the index and
its rules are registered. -/
theorem publish_of_orderly {w : Setting} {m : Moment} {type : TypeKey} {found : Collected}
    (orderly : m.Orderly) (publish : m.act = .publish type found) :
    m.session.index.contains type = false ∧ ∃ m', w.next? m = some m' ∧
      m'.session.index = m.session.index.insert ⟨type, found.fields⟩ ∧
      m'.session.registry = m.session.registry.registerAll type found.rules := by
  obtain ⟨act, callers, stack, s⟩ := m
  subst publish
  have new : s.index.contains type = false := (orderly.fresh type rfl).2
  exact ⟨new, _, rfl, (publish_of_new new).2⟩

/-- **The stack is kept.** A request for a type ends, with the answer and the session of
`ensureIndexed`. At every moment of it, no type is twice on the stack and none of the types on it is
indexed; every visit and every build that begins is answered, well or with an error, and leaves the
stack as it was; a type that is built is not built again; and a type that is published is new, so
that its fields are entered in the index and its rules are registered. -/
theorem stack_is_kept (w : Setting) (type : TypeKey) (s : Session) :
    (∃ m, w.Runs (.request type s) m ∧ w.next? m = none ∧
      m.act = .answer ((w.ensureIndexed type s).1.map some) ∧
      m.session = (w.ensureIndexed type s).2) ∧
    ∀ m, w.Runs (.request type s) m →
      (m.stack.Nodup ∧ ∀ t ∈ m.stack, m.session.index.contains t = false) ∧
      (∀ t, m.act = .visit t ∨ m.act = .build t →
        ∃ r s', w.RunsInside m.callers m ⟨.answer r, m.callers, m.stack, s'⟩) ∧
      (∀ t m' m'', m.act = .build t → w.next? m = some m' → w.Runs m' m'' →
        m''.act ≠ .build t) ∧
      (∀ t found, m.act = .publish t found →
        m.session.index.contains t = false ∧ ∃ m', w.next? m = some m' ∧
          m'.session.index = m.session.index.insert ⟨t, found.fields⟩ ∧
          m'.session.registry = m.session.registry.registerAll t found.rules) := by
  refine ⟨⟨_, w.request_runs type s, rfl, rfl, rfl⟩, ?_⟩
  intro m runs
  have orderly : m.Orderly := (Moment.orderly_request type s).runs runs
  refine ⟨⟨orderly.nodup, orderly.unindexed⟩, ?_, ?_, ?_⟩
  · rintro t (visit | build)
    · obtain ⟨act, callers, stack, s⟩ := m
      subst visit
      exact w.visit_answers t callers stack s
    · obtain ⟨act, callers, stack, s⟩ := m
      subst build
      exact w.build_answers t callers stack s
  · intro t m' m'' build hnext hruns
    exact not_built_again orderly build hnext hruns
  · intro t found publish
    exact publish_of_orderly orderly publish

namespace Looped

/-- A type with a field that holds an object of the same type. -/
def type : TypeKey := ⟨"A", "A"⟩

/-- The field is walked. -/
def setting : Setting where
  schemas := ⟨[(type, ⟨[⟨"parent", .nested type, [], true⟩]⟩)]⟩
  book := .empty

/-- The type is visited while it is under way. -/
example : setting.Runs (.request type .empty)
    ⟨.visit type, [⟨type, [], ⟨[], []⟩, ⟨"parent", .nested⟩⟩], [type], .empty⟩ :=
  .tail (.tail .refl rfl) rfl

end Looped

end Setting

end FieldRules
