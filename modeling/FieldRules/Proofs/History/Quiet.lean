import FieldRules.Proofs.History.Request
import Mathlib

/-!
# `Proofs.History.Quiet` — checks that leave the engine as it is

Every object that a check meets is requested again. Where the index is closed and holds the type of
the outermost object, nothing comes of that as long as walked fields hold what they are declared to
hold: each of them leads to a type that is indexed too, so each request finds its entry. This goes
down along the value, and a check that ends early has only made fewer requests.

## Contents
- **`Conforms`**, values whose walked fields hold objects of the declared types.
- **`Ready`**, sessions that are exact and closed, and **`Quiet`**, parts of a check that change
  neither index nor registry and do not end with a rule error.
- **`checkValue_quiet`**, by induction on what conforms.
- **`check_after_indexing_is_quiet`**, after histories without a rule error.
- **`Household.setting`**, types that lead to each other, with a check that ends at an unreadable
  field.
-/

namespace FieldRules

open Calendar

namespace Setting

/-! ## Values as they are declared -/

/-- The objects in a value, through any sequences, are of the given type, and so on for what their
walked fields hold: objects there are of the type that the field leads to. -/
inductive Conforms (w : Setting) : TypeKey → Value → Prop where
  | object {type values}
      (walked : ∀ f ∈ (w.schemas.of type).fields, w.enabledRules type f = [] →
        ∀ kind target, f.target? = some (kind, target) →
          ∀ v, Value.read type values f.name = .ok v → Conforms w target v) :
      Conforms w type (.object type values)
  | seq {type items} (elements : ∀ v ∈ items, Conforms w type v) : Conforms w type (.seq items)
  | leaf {type v} (isLeaf : v.isLeaf = true) : Conforms w type v

/-! ## Sessions in which nothing is left to index -/

/-- Index and registry are exact, and no indexed type leads out of the index. -/
structure Ready (w : Setting) (s : Session) : Prop where
  exact : w.Exact s
  closed : w.Closed s.index

theorem Ready.of_alike {w : Setting} {s s' : Session} (h : w.Ready s) (alike : s.Alike s') :
    w.Ready s' :=
  ⟨h.exact.of_alike alike, by rw [alike.index]; exact h.closed⟩

end Setting

/-! ## Quiet parts -/

/-- A part of a check that began in `s` has left index and registry as they were, and has not ended
with a rule error. -/
structure Quiet {α : Type} (s : Session) (p : Except CheckError α × Session) : Prop where
  alike : s.Alike p.2
  clean : ∀ e, p.1 ≠ .error (.rule e)

namespace Quiet

variable {α β : Type} {s : Session}

theorem completed (s : Session) (a : α) : Quiet s ((.ok a, s) : Except CheckError α × Session) :=
  ⟨.refl s, by simp⟩

theorem unread (s : Session) (e : AccessError) :
    Quiet s ((.error (.access e), s) : Except CheckError α × Session) :=
  ⟨.refl s, by simp⟩

theorem map {p : Except CheckError α × Session} (h : Quiet s p) (f : α → β) :
    Quiet s (p.1.map f, p.2) := by
  refine ⟨h.alike, fun e he => h.clean e ?_⟩
  generalize p.1 = r at he ⊢
  cases r with
  | error e' =>
      cases he
      rfl
  | ok a => cases he

theorem proceed {p : Progress} {next : Chain → Session → Progress} (h : Quiet s p)
    (hnext : ∀ chain s', s.Alike s' → Quiet s' (next chain s')) : Quiet s (proceed p next) := by
  obtain ⟨r, s₁⟩ := p
  cases r with
  | error e => exact h
  | ok ended =>
      obtain ⟨passed, chain⟩ := ended
      cases passed with
      | true =>
          have hrest := hnext chain s₁ h.alike
          exact ⟨h.alike.trans hrest.alike, hrest.clean⟩
      | false => exact h

end Quiet

namespace Check

variable (c : Check)

theorem judgeField_quiet (type : TypeKey) (values : List (String × Reading)) (field : String)
    (chain : Chain) (s : Session) : Quiet s (c.judgeField type values field chain s) := by
  rcases c.judgeField_cases type values field chain s with
    ⟨-, heq⟩ | ⟨-, ⟨e, -, heq⟩ | ⟨v, s', -, alike, -, heq⟩⟩
  · rw [heq]
    exact .completed s _
  · rw [heq]
    exact .unread s e
  · rw [heq]
    exact ⟨alike, by simp⟩

/-- An indexed field, where what a walked field holds is checked quietly. -/
theorem checkField_quiet {type : TypeKey} {values : List (String × Reading)} (f : IndexedField)
    (chain : Chain) (s : Session)
    (hinside : f.kind ≠ .rules → ∀ v, Value.read type values f.name = .ok v → ∀ path,
      Quiet s (c.checkNested path v chain s)) :
    Quiet s (c.checkField type values f chain s) := by
  by_cases hkind : f.kind = .rules
  · rw [checkField, hkind]
    exact c.judgeField_quiet type values f.name chain s
  · rw [c.checkField_of_walked type values f chain s hkind]
    cases hread : Value.read type values f.name with
    | error e => exact .unread s e
    | ok v => exact hinside hkind v hread _

/-- Checking a value is quiet in every ready session that has indexed the type. -/
def QuietOn (type : TypeKey) (v : Value) : Prop :=
  ∀ path chain s, c.setting.Ready s → s.index.contains type = true →
    Quiet s (c.checkNested path v chain s)

variable {c}

/-- Indexed fields in order, each of them a declared one. -/
theorem checkFields_quiet {type : TypeKey} {values : List (String × Reading)}
    (selection : Option (List String)) {decls : List Field} (chain : Chain) {s : Session}
    (ready : c.setting.Ready s)
    (hinside : ∀ f ∈ decls, c.setting.enabledRules type f = [] → ∀ kind target,
      f.target? = some (kind, target) → ∀ v, Value.read type values f.name = .ok v →
        s.index.contains target = true ∧ c.QuietOn target v) :
    Quiet s (c.checkFields selection type values (c.setting.indexed type decls) chain s) := by
  induction decls generalizing chain s with
  | nil =>
      rw [Setting.indexed, List.filterMap_nil, checkFields]
      exact .completed s _
  | cons f decls ih =>
      obtain ⟨hfirst, hrest⟩ := List.forall_mem_cons.mp hinside
      cases hkind : c.setting.kind? type f with
      | none =>
          rw [Setting.indexed_cons_of_none hkind]
          exact ih chain ready hrest
      | some kind =>
          rw [Setting.indexed_cons_of_some hkind, checkFields]
          split
          · exact ih chain ready hrest
          · refine (c.checkField_quiet ⟨f.name, kind⟩ chain s fun hne v hread path => ?_).proceed
              fun chain s' alike => ih chain (ready.of_alike alike) ?_
            · obtain ⟨hr, target, ht⟩ := Setting.walked_of_kind? hkind hne
              obtain ⟨indexed, quiet⟩ := hfirst hr kind target ht v hread
              exact quiet path chain s ready indexed
            · rw [alike.index]
              exact hrest

/-- An object of an indexed type: its entry is found, and its walked fields lead to indexed types.
-/
theorem checkObject_quiet {type : TypeKey} {values : List (String × Reading)}
    (selection : Option (List String)) (chain : Chain) {s : Session} (ready : c.setting.Ready s)
    (indexed : s.index.contains type = true)
    (hinside : ∀ f ∈ (c.setting.schemas.of type).fields, c.setting.enabledRules type f = [] →
      ∀ kind target, f.target? = some (kind, target) →
        ∀ v, Value.read type values f.name = .ok v → c.QuietOn target v) :
    Quiet s (c.checkObject selection type values chain s) := by
  rw [checkObject, ready.exact.ensureIndexed_of_contains indexed]
  refine checkFields_quiet selection chain ready fun f hf hr kind target ht v hread => ?_
  have hlead := Setting.leads_iff.mpr ⟨f, hf, hr, kind, ht⟩
  exact ⟨ready.closed type target indexed hlead, hinside f hf hr kind target ht v hread⟩

theorem checkItems_quiet {type : TypeKey} {path : String} {position : Nat} {items : List Value}
    (chain : Chain) {s : Session} (ready : c.setting.Ready s)
    (indexed : s.index.contains type = true) (hinside : ∀ v ∈ items, c.QuietOn type v) :
    Quiet s (c.checkItems path position items chain s) := by
  induction items generalizing position chain s with
  | nil =>
      rw [checkItems]
      exact .completed s _
  | cons v rest ih =>
      obtain ⟨hfirst, hrest⟩ := List.forall_mem_cons.mp hinside
      rw [checkItems]
      refine (hfirst _ chain s ready indexed).proceed fun chain s' alike => ?_
      exact ih chain (ready.of_alike alike) (by rwa [alike.index]) hrest

/-- What conforms to an indexed type is checked quietly. -/
theorem checkNested_quiet {type : TypeKey} {v : Value} (h : c.setting.Conforms type v) :
    c.QuietOn type v := by
  induction h with
  | object walked ih =>
      intro path chain s ready indexed
      rw [checkNested_object]
      exact (checkObject_quiet none chain ready indexed ih).map _
  | seq elements ih =>
      intro path chain s ready indexed
      rw [checkNested]
      exact checkItems_quiet chain ready indexed ih
  | leaf isLeaf =>
      intro path chain s ready indexed
      rw [c.checkNested_of_leaf path isLeaf]
      exact .completed s _

theorem checkValues_quiet {selection : Option (List String)} {type : TypeKey} {vs : List Value}
    (chain : Chain) {s : Session} (ready : c.setting.Ready s)
    (indexed : s.index.contains type = true)
    (heach : ∀ v ∈ vs, ∀ chain s, c.setting.Ready s → s.index.contains type = true →
      Quiet s (c.checkValue selection v chain s)) :
    Quiet s (c.checkValues selection vs chain s) := by
  induction vs generalizing chain s with
  | nil =>
      rw [checkValues]
      exact .completed s _
  | cons v rest ih =>
      obtain ⟨hfirst, hrest⟩ := List.forall_mem_cons.mp heach
      rw [checkValues]
      refine (hfirst chain s ready indexed).proceed fun chain s' alike => ?_
      exact ih chain (ready.of_alike alike) (by rwa [alike.index]) hrest

/-- **What conforms to an indexed type is checked quietly,** with any selection of the outermost
fields. -/
theorem checkValue_quiet (selection : Option (List String)) {type : TypeKey} {v : Value}
    (h : c.setting.Conforms type v) :
    ∀ chain s, c.setting.Ready s → s.index.contains type = true →
      Quiet s (c.checkValue selection v chain s) := by
  induction h with
  | object walked =>
      intro chain s ready indexed
      rw [checkValue]
      exact checkObject_quiet selection chain ready indexed fun f hf hr kind target ht v hread =>
        checkNested_quiet (walked f hf hr kind target ht v hread)
  | seq elements ih =>
      intro chain s ready indexed
      rw [checkValue]
      exact checkValues_quiet chain ready indexed ih
  | leaf isLeaf =>
      intro chain s ready indexed
      rw [c.checkValue_of_leaf selection isLeaf]
      exact .completed s _

end Check

namespace Setting

/-! ## After histories -/

/-- **After indexing, checks are quiet.** After a history without a rule error in which a type was
requested, to index it or to index it ahead of its first check, a check of what conforms to the type
leaves index and registry exactly as they were and does not end with a rule error, in any group and
with any selection, whether it passes, fails or comes upon a field that cannot be read. -/
theorem check_after_indexing_is_quiet {w : Setting} {history : List Request} {type : TypeKey}
    (answered : w.failures history .empty = [])
    (requested : .index type ∈ history ∨ .prepare type ∈ history) {v : Value}
    (conforms : w.Conforms type v) (clock : Nat → Instant) (group : String)
    (selection : Option (List String)) :
    (w.evaluate clock group v selection (w.after history)).2.index = (w.after history).index ∧
    (w.evaluate clock group v selection (w.after history)).2.registry =
      (w.after history).registry ∧
    ∀ e, (w.evaluate clock group v selection (w.after history)).1 ≠ .error (.rule e) := by
  have ready : w.Ready (w.after history) := ⟨w.exact_after history, closed_after answered⟩
  have indexed : (w.after history).index.contains type = true :=
    contains_of_requested answered requested
  have hquiet : Quiet (w.after history) (w.evaluate clock group v selection (w.after history)) :=
    (Check.checkValue_quiet (c := ⟨w, groupNamed group, clock⟩) selection conforms .empty _ ready
      indexed).map _
  exact ⟨hquiet.alike.index, hquiet.alike.registry, hquiet.clean⟩

namespace Household

def person : TypeKey := ⟨"A", "A"⟩

def home : TypeKey := ⟨"B", "B"⟩

/-- A person has a home, and a home has people. -/
def setting : Setting where
  schemas := ⟨[
    (person, ⟨[
      ⟨"home", .nested home, [], true⟩,
      ⟨"name", .leaf, [⟨.values ["x"], ["g"], true, false⟩], false⟩]⟩),
    (home, ⟨[⟨"people", .container .sequence (.nested person), [], true⟩]⟩)]⟩
  book := .empty

/-- Somebody in the home of a person, whose own home cannot be read. -/
def guest : Value :=
  .object person [("home", .unreadable ⟨"A", "home", "closed"⟩)]

/-- A person whose home has a guest. -/
def host : Value :=
  .object person [("home", .value (.object home [("people", .value (.seq [guest]))]))]

theorem fields_person : (setting.schemas.of person).fields =
    [⟨"home", .nested home, [], true⟩,
      ⟨"name", .leaf, [⟨.values ["x"], ["g"], true, false⟩], false⟩] := by decide

theorem fields_home : (setting.schemas.of home).fields =
    [⟨"people", .container .sequence (.nested person), [], true⟩] := by decide

/-- A person conforms if what the home reads as does; no other field of a person is walked. -/
theorem conforms_person {values : List (String × Reading)}
    (h : ∀ v, Value.read person values "home" = .ok v → setting.Conforms home v) :
    setting.Conforms person (.object person values) := by
  refine .object fun f hf _ kind target ht v hread => ?_
  rw [fields_person, List.mem_cons, List.mem_singleton] at hf
  rcases hf with rfl | rfl
  · cases ht
    exact h v hread
  · cases ht

theorem conforms_guest : setting.Conforms person guest :=
  conforms_person fun _ hread => by cases hread

theorem conforms_host : setting.Conforms person host := by
  refine conforms_person fun v hread => ?_
  cases hread
  refine .object fun f hf _ kind target ht v hread => ?_
  rw [fields_home, List.mem_singleton] at hf
  subst hf
  cases ht
  cases hread
  exact .seq fun v hv => List.mem_singleton.mp hv ▸ conforms_guest

/-- The check goes from the host to the guest and ends there, with nothing new in the index. -/
theorem visit_is_quiet :
    setting.failures [.prepare person] .empty = [] ∧ setting.Conforms person host ∧
      (setting.evaluate (fun _ => ⟨0, 0, by decide⟩) "g" host none
          (setting.after [.prepare person])).1 = .error (.access ⟨"A", "home", "closed"⟩) ∧
      (setting.evaluate (fun _ => ⟨0, 0, by decide⟩) "g" host none
          (setting.after [.prepare person])).2.index =
        (setting.after [.prepare person]).index := by
  have answered : setting.failures [.prepare person] .empty = [] := by cbv
  have quiet := check_after_indexing_is_quiet answered (.inr List.mem_cons_self) conforms_host
    (fun _ => ⟨0, 0, by decide⟩) "g" none
  exact ⟨answered, conforms_host, by cbv, quiet.1⟩

end Household

end Setting

end FieldRules
