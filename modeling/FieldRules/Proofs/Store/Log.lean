import FieldRules.Proofs.Store.Registration
import FieldRules.Proofs.Store.Shelves
import Mathlib.Data.String.Basic

/-!
# `Proofs.Store.Log` — the registry as a log of registrations

Whatever is registered could as well be written down in one list, line after line. A slot resolves
to its lines in that list, split by polarity, and all other answers of the registry can be read off
the list in the same way. So the order between slots is of no account, nothing is merged or lost,
and a registration in one slot is not seen in any other.

Every fact is first shown for one registration and then for calls in a row; a batch is the row of
its registrations.

## Contents
- **`Entry`**, a line of the log, **`Filing`**, a call, and **`Filing.entries`**, what it writes.
- **`logOf`** and **`linesOf`**, the log of calls and the lines of one slot.
- **`resolve_enterAll`**, **`size_enterAll`** and **`mem_groups_enterAll`**, what lines add.
- **`decision_pass_iff`** and its kin, the judgement of a value read off the matchers of a slot.
- **`Shelves.Holds`**, the layout in three levels giving the same answers.
- **`registry_refines_log`**.
-/

namespace FieldRules

open Calendar Store

/-! ## The log -/

/-- A line of the log: a matcher in a slot. -/
abbrev Entry := Slot × Matcher

/-- A call that registers matchers. -/
inductive Filing where
  /-- One matcher. -/
  | single (slot : Slot) (m : Matcher)
  /-- The compiled rules of a type. -/
  | batch (type : TypeKey) (rules : List FieldRule)

/-- The lines that a call adds. -/
def Filing.entries : Filing → List Entry
  | .single slot m => [(slot, m)]
  | .batch type rules => rules.map fun rule => (⟨rule.group, type, rule.field⟩, rule.matcher)

/-- The log of calls. -/
def logOf (calls : List Filing) : List Entry :=
  calls.flatMap Filing.entries

/-- The matchers in the lines of a slot, in order. -/
def linesOf (slot : Slot) (log : List Entry) : List Matcher :=
  (log.filter (·.1 = slot)).map Prod.snd

theorem mem_linesOf {slot : Slot} {log : List Entry} {m : Matcher} :
    m ∈ linesOf slot log ↔ (slot, m) ∈ log := by
  simp only [linesOf, List.mem_map, List.mem_filter, decide_eq_true_eq]
  constructor
  · rintro ⟨⟨slot', m'⟩, ⟨hmem, rfl⟩, rfl⟩
    exact hmem
  · intro hmem
    exact ⟨(slot, m), ⟨hmem, rfl⟩, rfl⟩

theorem linesOf_append (slot : Slot) (log log' : List Entry) :
    linesOf slot (log ++ log') = linesOf slot log ++ linesOf slot log' := by
  simp [linesOf]

theorem linesOf_eq_nil {slot : Slot} {log : List Entry} (h : ∀ e ∈ log, e.1 ≠ slot) :
    linesOf slot log = [] := by
  rw [linesOf, List.map_eq_nil_iff, List.filter_eq_nil_iff]
  intro e he
  simpa using h e he

theorem nodup_eraseDups {α : Type} [BEq α] [LawfulBEq α] (xs : List α) : xs.eraseDups.Nodup := by
  induction h : xs.length using Nat.strongRecOn generalizing xs with
  | _ n ih =>
      subst h
      cases xs with
      | nil => simp
      | cons x xs =>
          have hrest : (xs.filter fun y => !y == x).length < (x :: xs).length :=
            Nat.lt_succ_of_le (List.length_filter_le _ xs)
          rw [List.eraseDups_cons, List.nodup_cons]
          refine ⟨?_, ih _ hrest _ rfl⟩
          simp [List.mem_eraseDups]

theorem Resolved.isEmpty_append (r r' : Resolved) :
    (r.append r').isEmpty = (r.isEmpty && r'.isEmpty) := by
  rw [Bool.eq_iff_iff]
  simp only [append, isEmpty, Bool.and_eq_true, List.isEmpty_iff, List.append_eq_nil_iff]
  exact and_and_and_comm

namespace Registry

/-! ## Calls -/

/-- Makes a call. -/
def file (r : Registry) : Filing → Registry
  | .single slot m => r.register slot m
  | .batch type rules => r.registerAll type rules

/-- Makes calls in order. -/
def fileAll (r : Registry) (calls : List Filing) : Registry :=
  calls.foldl file r

/-- Registers the lines of a log. -/
def enterAll (r : Registry) (log : List Entry) : Registry :=
  log.foldl (fun r e => r.register e.1 e.2) r

/-- A batch is the row of its registrations. -/
theorem file_eq_enterAll (r : Registry) (call : Filing) : r.file call = r.enterAll call.entries := by
  cases call with
  | single slot m => rfl
  | batch type rules =>
      show r.registerAll type rules = _
      rw [registerAll, enterAll, Filing.entries, List.foldl_map]

/-- **Calls in order register the lines of their log.** -/
theorem fileAll_eq_enterAll (r : Registry) (calls : List Filing) :
    r.fileAll calls = r.enterAll (logOf calls) := by
  induction calls generalizing r with
  | nil => rfl
  | cons call calls ih =>
      show (r.file call).fileAll calls = _
      rw [ih, file_eq_enterAll]
      show (r.enterAll call.entries).enterAll (logOf calls) = r.enterAll (call.entries ++ logOf calls)
      rw [enterAll, enterAll, enterAll, List.foldl_append]

/-! ## What lines add -/

/-- **A slot resolves to its lines,** split by polarity with their order kept. -/
theorem resolve_enterAll (r : Registry) (log : List Entry) (slot : Slot) :
    (r.enterAll log).resolve slot = (r.resolve slot).append (.ofMatchers (linesOf slot log)) := by
  induction log generalizing r with
  | nil => exact (Resolved.append_empty _).symm
  | cons e log ih =>
      obtain ⟨slot', m⟩ := e
      have hsplit : linesOf slot ((slot', m) :: log) =
          (if slot' = slot then [m] else []) ++ linesOf slot log := by
        by_cases h : slot' = slot
        · simp [linesOf, h]
        · simp [linesOf, h]
      show ((r.register slot' m).enterAll log).resolve slot = _
      rw [ih, resolve_register, hsplit, Resolved.ofMatchers_append, Resolved.append_assoc]
      by_cases h : slot' = slot
      · rw [if_pos h, if_pos h]
      · rw [if_neg h, if_neg h]
        rfl

theorem size_enterAll (r : Registry) (log : List Entry) :
    (r.enterAll log).size = r.size + log.length := by
  induction log generalizing r with
  | nil => rfl
  | cons e log ih =>
      show ((r.register e.1 e.2).enterAll log).size = _
      rw [ih, size_register, List.length_cons]
      omega

theorem groups_empty : empty.groups = [] := by
  simp [groups, empty, Buckets.keys, Buckets.empty]

/-- The groups in use are those of slots that resolve to something. -/
theorem mem_groups {r : Registry} {group : String} :
    group ∈ r.groups ↔ ∃ slot : Slot, slot.group = group ∧ (r.resolve slot).isEmpty = false := by
  simp only [groups, List.mem_mergeSort, List.mem_eraseDups, List.mem_map, List.mem_append,
    Buckets.mem_keys]
  constructor
  · rintro ⟨slot, hfilled, rfl⟩
    refine ⟨slot, rfl, ?_⟩
    rcases hfilled with hwhite | hblack
    · simp [Resolved.isEmpty, resolve, hwhite]
    · simp [Resolved.isEmpty, resolve, hblack]
  · rintro ⟨slot, rfl, hfilled⟩
    refine ⟨slot, ?_, rfl⟩
    by_cases hwhite : r.white.get slot = []
    · right
      intro hblack
      simp [Resolved.isEmpty, resolve, hwhite, hblack] at hfilled
    · exact .inl hwhite

/-- A registration brings the group of its slot into use. -/
theorem mem_groups_register {r : Registry} {slot : Slot} {m : Matcher} {group : String} :
    group ∈ (r.register slot m).groups ↔ group = slot.group ∨ group ∈ r.groups := by
  have hfilled (slot' : Slot) : ((r.register slot m).resolve slot').isEmpty = false ↔
      slot = slot' ∨ (r.resolve slot').isEmpty = false := by
    rw [resolve_register, Resolved.isEmpty_append]
    by_cases h : slot = slot'
    · simp [h, Resolved.isEmpty_ofMatchers]
    · simp [h, Resolved.isEmpty]
  simp only [mem_groups, hfilled, and_or_left, exists_or]
  refine or_congr_left ⟨?_, ?_⟩
  · rintro ⟨slot', hgroup, rfl⟩
    exact hgroup.symm
  · rintro rfl
    exact ⟨slot, rfl, rfl⟩

/-- The groups in use are those of the lines. -/
theorem mem_groups_enterAll {r : Registry} {log : List Entry} {group : String} :
    group ∈ (r.enterAll log).groups ↔ group ∈ r.groups ∨ ∃ e ∈ log, e.1.group = group := by
  induction log generalizing r with
  | nil => simp [enterAll]
  | cons e log ih =>
      show group ∈ ((r.register e.1 e.2).enterAll log).groups ↔ _
      rw [ih, mem_groups_register, List.exists_mem_cons_iff, or_assoc, or_left_comm,
        @eq_comm _ group]

/-- The groups are listed in strictly ascending order. -/
theorem groups_ascending (r : Registry) : r.groups.Pairwise (· < ·) := by
  unfold groups
  generalize (r.white.keys ++ r.black.keys).map Slot.group = names
  have sorted : (names.eraseDups.mergeSort (· ≤ ·)).Pairwise
      fun a b => decide (a ≤ b) = true := by
    refine List.pairwise_mergeSort ?_ ?_ names.eraseDups
    · intro a b c hab hbc
      exact decide_eq_true (le_trans (of_decide_eq_true hab) (of_decide_eq_true hbc))
    · intro a b
      simpa using le_total a b
  have distinct : (names.eraseDups.mergeSort (· ≤ ·)).Nodup :=
    (List.mergeSort_perm _ _).nodup_iff.mpr (nodup_eraseDups names)
  exact (sorted.and distinct).imp fun h => lt_of_le_of_ne (of_decide_eq_true h.1) h.2

end Registry

/-! ## Judgements -/

namespace Resolved

variable {ms : List Matcher} {v : Value} {now : Instant}

/-- Where a matcher admits, the judgement asks whether one that admits is hit. -/
theorem decision_of_accepting (h : ∃ m ∈ ms, m.polarity = .accept) :
    (ofMatchers ms).decision v now =
      if ∃ m ∈ ms, m.polarity = .accept ∧ m.hits v now = true then .pass else .notAccepted := by
  obtain ⟨m, hmem, haccept⟩ := h
  have hwhite : (ofMatchers ms).white.isEmpty = false := by
    rw [List.isEmpty_eq_false_iff_exists_mem]
    exact ⟨m, List.mem_filter.mpr ⟨hmem, by simpa using haccept⟩⟩
  have hany : (ofMatchers ms).white.any (·.hits v now) = true ↔
      ∃ m ∈ ms, m.polarity = .accept ∧ m.hits v now = true := by
    simp [ofMatchers]
  unfold decision
  rw [hwhite, if_neg Bool.false_ne_true]
  simp only [hany]

/-- Where no matcher admits, the first matcher that is hit rejects. -/
theorem decision_of_rejecting (h : ∀ m ∈ ms, m.polarity = .reject) :
    (ofMatchers ms).decision v now =
      match ms.find? (·.hits v now) with
      | some m => .rejected m
      | none => .pass := by
  have hwhite : (ofMatchers ms).white = [] := by
    refine List.filter_eq_nil_iff.mpr fun m hm => ?_
    simp [h m hm]
  have hblack : (ofMatchers ms).black = ms := by
    refine List.filter_eq_self.mpr fun m hm => ?_
    simp [h m hm]
  unfold decision
  rw [hwhite, hblack]
  rfl

/-- Either a matcher admits or all of them reject. -/
theorem accepting_or_rejecting (ms : List Matcher) :
    (∃ m ∈ ms, m.polarity = .accept) ∨ ∀ m ∈ ms, m.polarity = .reject := by
  by_cases h : ∃ m ∈ ms, m.polarity = .accept
  · exact .inl h
  · right
    intro m hm
    cases hp : m.polarity with
    | accept => exact absurd ⟨m, hm, hp⟩ h
    | reject => rfl

/-- A value passes if a matcher that admits is hit, or if there is none and no matcher is hit. -/
theorem decision_pass_iff :
    (ofMatchers ms).decision v now = .pass ↔
      (∃ m ∈ ms, m.polarity = .accept ∧ m.hits v now = true) ∨
        (∀ m ∈ ms, m.polarity = .reject ∧ m.hits v now = false) := by
  rcases accepting_or_rejecting ms with haccept | hreject
  · rw [decision_of_accepting haccept]
    obtain ⟨m, hm, hp⟩ := haccept
    have hnone : ¬∀ m ∈ ms, m.polarity = .reject ∧ m.hits v now = false := by
      intro h
      rw [(h m hm).1] at hp
      cases hp
    split
    · next hhit => exact iff_of_true rfl (.inl hhit)
    · next hmiss => exact iff_of_false Decision.noConfusion (not_or.mpr ⟨hmiss, hnone⟩)
  · have hnone : ¬∃ m ∈ ms, m.polarity = .accept ∧ m.hits v now = true := by
      rintro ⟨m, hm, hp, -⟩
      rw [hreject m hm] at hp
      cases hp
    rw [decision_of_rejecting hreject]
    cases hfind : ms.find? (·.hits v now) with
    | some m =>
        have hhit : m.hits v now = true := by simpa using List.find?_some hfind
        refine iff_of_false Decision.noConfusion (not_or.mpr ⟨hnone, fun h => ?_⟩)
        rw [(h m (List.mem_of_find?_eq_some hfind)).2] at hhit
        cases hhit
    | none =>
        refine iff_of_true rfl (.inr fun m hm => ⟨hreject m hm, ?_⟩)
        simpa using List.find?_eq_none.mp hfind m hm

/-- A value is not accepted if there are matchers that admit and none of them is hit. -/
theorem decision_notAccepted_iff :
    (ofMatchers ms).decision v now = .notAccepted ↔
      (∃ m ∈ ms, m.polarity = .accept) ∧
        ∀ m ∈ ms, m.polarity = .accept → m.hits v now = false := by
  rcases accepting_or_rejecting ms with haccept | hreject
  · rw [decision_of_accepting haccept]
    split
    · next hhit =>
        obtain ⟨m, hm, hp, hhit⟩ := hhit
        refine iff_of_false Decision.noConfusion fun h => ?_
        rw [h.2 m hm hp] at hhit
        cases hhit
    · next hmiss =>
        refine iff_of_true rfl ⟨haccept, fun m hm hp => ?_⟩
        rw [← Bool.not_eq_true]
        exact fun hhit => hmiss ⟨m, hm, hp, hhit⟩
  · rw [decision_of_rejecting hreject]
    have hnone : ¬∃ m ∈ ms, m.polarity = .accept := by
      rintro ⟨m, hm, hp⟩
      rw [hreject m hm] at hp
      cases hp
    refine iff_of_false ?_ fun h => hnone h.1
    split
    · exact Decision.noConfusion
    · exact Decision.noConfusion

/-- A value is rejected by the first matcher that is hit, if no matcher admits. -/
theorem decision_rejected_iff {m : Matcher} :
    (ofMatchers ms).decision v now = .rejected m ↔
      (∀ m' ∈ ms, m'.polarity = .reject) ∧ m.hits v now = true ∧
        ∃ before after, ms = before ++ m :: after ∧ ∀ m' ∈ before, m'.hits v now = false := by
  rcases accepting_or_rejecting ms with haccept | hreject
  · rw [decision_of_accepting haccept]
    obtain ⟨m₀, hm₀, hp⟩ := haccept
    refine iff_of_false ?_ fun h => ?_
    · split
      · exact Decision.noConfusion
      · exact Decision.noConfusion
    · rw [h.1 m₀ hm₀] at hp
      cases hp
  · have hfirst := @List.find?_eq_some_iff_append _ m (·.hits v now) ms
    simp only [Bool.not_eq_true'] at hfirst
    rw [decision_of_rejecting hreject, and_iff_right hreject, ← hfirst]
    cases ms.find? (·.hits v now) with
    | some m' => simp
    | none => simp

end Resolved

/-! ## Lines of a slot within the log -/

/-- The lines of a slot before a place among them are its lines before a place in the log. -/
theorem exists_split_linesOf {slot : Slot} {log : List Entry} {m : Matcher} {P : Matcher → Prop} :
    (∃ before after, linesOf slot log = before ++ m :: after ∧ ∀ m' ∈ before, P m') ↔
      ∃ before after, log = before ++ (slot, m) :: after ∧ ∀ m', (slot, m') ∈ before → P m' := by
  constructor
  · rintro ⟨before, after, hlines, hbefore⟩
    obtain ⟨_, _, hfilter, rfl, hrest⟩ := List.map_eq_append_iff.mp hlines
    obtain ⟨log₁, log₂, rfl, rfl, rfl⟩ := List.filter_eq_append_iff.mp hfilter
    obtain ⟨⟨slot', _⟩, _, hfilter₂, rfl, -⟩ := List.map_eq_cons_iff.mp hrest
    -- other slots may have lines between the two places
    obtain ⟨between, log₃, rfl, hother, hslot, -⟩ := List.filter_eq_cons_iff.mp hfilter₂
    obtain rfl : slot' = slot := by simpa using hslot
    refine ⟨log₁ ++ between, log₃, by simp, fun m' hm' => ?_⟩
    rcases List.mem_append.mp hm' with hmem | hmem
    · exact hbefore m' (mem_linesOf.mpr hmem)
    · exact absurd (decide_eq_true rfl) (hother _ hmem)
  · rintro ⟨before, after, rfl, hbefore⟩
    refine ⟨linesOf slot before, linesOf slot after, ?_,
      fun m' hm' => hbefore m' (mem_linesOf.mp hm')⟩
    rw [linesOf_append]
    simp [linesOf]

/-! ## Three levels -/

namespace Shelves

/-- Both layouts give the same answers. -/
structure Holds (s : Shelves) (r : Registry) : Prop where
  resolve : ∀ slot, s.resolve slot = r.resolve slot
  size : s.size = r.size
  groups : ∀ group, group ∈ s.groups ↔ group ∈ r.groups

/-- Registers the lines of a log. -/
def enterAll (s : Shelves) (log : List Entry) : Shelves :=
  log.foldl (fun s e => s.register e.1 e.2) s

theorem holds_empty : empty.Holds .empty where
  resolve _ := rfl
  size := rfl
  groups group := by simp [Registry.groups_empty, Shelves.groups, Shelf.groups, empty, Shelf.empty]

/-- A registration keeps the answers the same. -/
theorem Holds.register {s : Shelves} {r : Registry} (h : s.Holds r) (slot : Slot) (m : Matcher) :
    (s.register slot m).Holds (r.register slot m) where
  resolve slot' := by
    have hslot := h.resolve slot'
    simp only [Shelves.resolve, Registry.resolve, Resolved.mk.injEq] at hslot
    obtain ⟨hwhite, hblack⟩ := hslot
    cases hp : m.polarity with
    | accept =>
        simp [Shelves.register, Shelves.resolve, Registry.register, Registry.resolve, hp,
          Shelf.get_file, Buckets.get_push, hwhite, hblack]
    | reject =>
        simp [Shelves.register, Shelves.resolve, Registry.register, Registry.resolve, hp,
          Shelf.get_file, Buckets.get_push, hwhite, hblack]
  size := by rw [size_register, Registry.size_register, h.size]
  groups group := by rw [mem_groups_register, Registry.mem_groups_register, h.groups]

/-- So does a log of registrations. -/
theorem Holds.enterAll {s : Shelves} {r : Registry} (h : s.Holds r) (log : List Entry) :
    (s.enterAll log).Holds (r.enterAll log) := by
  induction log generalizing s r with
  | nil => exact h
  | cons e log ih => exact ih (h.register e.1 e.2)

end Shelves

/-! ## The registry and its log -/

/-- **The registry is a log.** After any calls in a row, every answer can be read off the list of
the registrations: the matchers of a slot, with their order, the number of matchers, the groups in
use, and the judgement of a value by the lines of a slot. A further call leaves alone the slots
that it does not mention. Filing group by group, type by type and field by field gives the same
answers. -/
theorem registry_refines_log (calls : List Filing) :
    (∀ slot,
      ((Registry.empty.fileAll calls).resolve slot).white =
          (linesOf slot (logOf calls)).filter (·.polarity = .accept) ∧
        ((Registry.empty.fileAll calls).resolve slot).black =
          (linesOf slot (logOf calls)).filter (·.polarity = .reject)) ∧
    (Registry.empty.fileAll calls).size = (logOf calls).length ∧
    ((Registry.empty.fileAll calls).isEmpty = true ↔ logOf calls = []) ∧
    (Registry.empty.fileAll calls).groups.Pairwise (· < ·) ∧
    (∀ group, group ∈ (Registry.empty.fileAll calls).groups ↔
      ∃ e ∈ logOf calls, e.1.group = group) ∧
    (∀ slot v now,
      (((Registry.empty.fileAll calls).resolve slot).decision v now = .pass ↔
        (∃ m, (slot, m) ∈ logOf calls ∧ m.polarity = .accept ∧ m.hits v now = true) ∨
          (∀ m, (slot, m) ∈ logOf calls → m.polarity = .reject ∧ m.hits v now = false)) ∧
      (((Registry.empty.fileAll calls).resolve slot).decision v now = .notAccepted ↔
        (∃ m, (slot, m) ∈ logOf calls ∧ m.polarity = .accept) ∧
          (∀ m, (slot, m) ∈ logOf calls → m.polarity = .accept → m.hits v now = false)) ∧
      (∀ m, ((Registry.empty.fileAll calls).resolve slot).decision v now = .rejected m ↔
        (∀ m', (slot, m') ∈ logOf calls → m'.polarity = .reject) ∧ m.hits v now = true ∧
          ∃ before after, logOf calls = before ++ (slot, m) :: after ∧
            ∀ m', (slot, m') ∈ before → m'.hits v now = false)) ∧
    (∀ call slot, (∀ e ∈ call.entries, e.1 ≠ slot) →
      ((Registry.empty.fileAll calls).file call).resolve slot =
        (Registry.empty.fileAll calls).resolve slot) ∧
    (Shelves.empty.enterAll (logOf calls)).Holds (Registry.empty.fileAll calls) := by
  rw [Registry.fileAll_eq_enterAll]
  generalize logOf calls = log
  have hresolve (slot : Slot) :
      (Registry.empty.enterAll log).resolve slot = .ofMatchers (linesOf slot log) :=
    Registry.resolve_enterAll .empty log slot
  have hsize : (Registry.empty.enterAll log).size = log.length := by
    rw [Registry.size_enterAll, Registry.size_empty, Nat.zero_add]
  refine ⟨fun slot => ?_, hsize, ?_, Registry.groups_ascending _, fun group => ?_,
    fun slot v now => ⟨?_, ?_, fun m => ?_⟩, fun call slot hslot => ?_,
    Shelves.holds_empty.enterAll log⟩
  · rw [hresolve]
    exact ⟨rfl, rfl⟩
  · rw [Registry.isEmpty, decide_eq_true_iff, hsize, List.length_eq_zero_iff]
  · rw [Registry.mem_groups_enterAll]
    exact or_iff_right (by simp [Registry.groups_empty])
  · simp only [hresolve, Resolved.decision_pass_iff, mem_linesOf]
  · simp only [hresolve, Resolved.decision_notAccepted_iff, mem_linesOf]
  · simp only [hresolve, Resolved.decision_rejected_iff, mem_linesOf, exists_split_linesOf]
  · rw [Registry.file_eq_enterAll, Registry.resolve_enterAll, linesOf_eq_nil hslot]
    exact Resolved.append_empty _

end FieldRules
