import FieldRules.Proofs.History.Request
import Mathlib

/-!
# `Proofs.History.Unread` — fields that no check reads

A field of a type is passed over in a group if no rule with an effect on it is filed there and no
declaration of it leads to a type. A check in the group does not read it, so it may hold anything:
objects of types with malformed rules, sequences of them, or nothing that can be read.

That is a statement on two checks, of values that differ in what such fields read as. Wherever the
first check reads a field, the second reads the same, up to the fields that are passed over further
down; so both make the same requests in the same order, and nothing that the engine knows or answers
tells them apart.

## Contents
- **`Setting.PassedOver`**, fields that are passed over in a group.
- **`Value.Replaced`**, values that differ in what one field of the objects of one type reads as.
- **`Replaced.refl`**, **`cons_replaced`** and **`cons_value`**, by which such values are built.
- **`Replaced.entryFor?_eq`**: they are judged alike.
- **`checkValue_replaced`**: they are checked alike, in every exact session.
- **`passed_over_field_is_unread`**, after every history.
- **`Archive.setting`**, an object of a malformed type where nobody looks.
-/

namespace FieldRules

open Calendar

/-! ## Fields that are passed over -/

/-- No rule with an effect on a declaration of the field is filed under the group, and no
declaration without rules leads to a type. -/
structure Setting.PassedOver (w : Setting) (group : String) (type : TypeKey) (field : String) :
    Prop where
  unfiled : ∀ f ∈ (w.schemas.of type).fields, f.name = field →
    ∀ r ∈ w.enabledRules type f, group ∉ r.effectiveGroups
  unwalked : ∀ f ∈ (w.schemas.of type).fields, f.name = field →
    w.enabledRules type f = [] → f.target? = none

namespace Setting.PassedOver

variable {w : Setting} {group : String} {type : TypeKey} {field : String}

theorem matchersOn_eq_nil (h : w.PassedOver group type field) :
    w.matchersOn group type field = [] := by
  rw [matchersOn, List.flatMap_eq_nil_iff]
  intro f hf
  obtain ⟨hmem, hname⟩ := List.mem_filter.mp hf
  rw [List.flatMap_eq_nil_iff]
  exact fun r hr => Rule.matchersFor_eq_nil (h.unfiled f hmem (by simpa using hname) r hr)

/-- If such a field is indexed at all, then for its rules. -/
theorem kind_eq_rules (h : w.PassedOver group type field) {f : Field}
    (hf : f ∈ (w.schemas.of type).fields) (hname : f.name = field) {kind : FieldKind}
    (hkind : w.kind? type f = some kind) : kind = .rules := by
  by_contra hne
  obtain ⟨hr, target, ht⟩ := walked_of_kind? hkind hne
  rw [h.unwalked f hf hname hr] at ht
  cases ht

end Setting.PassedOver

/-! ## Objects and sequences under matchers -/

theorem Value.object_or_seq {v : Value} (h : v.isLeaf = false) :
    (∃ type values, v = .object type values) ∨ ∃ items, v = .seq items := by
  cases v with
  | object type values => exact .inl ⟨type, values, rfl⟩
  | seq items => exact .inr ⟨items, rfl⟩
  | _ => cases h

/-- An object or a sequence lies in no interval. -/
theorem Interval.matchesAt_of_not_leaf {v : Value} (h : v.isLeaf = false) (i : Interval)
    (now : Instant) : i.matchesAt v now = false := by
  have hnumeric : numeric? v = none := by
    rcases v.object_or_seq h with ⟨type, values, rfl⟩ | ⟨items, rfl⟩
    all_goals rfl
  have htemporal : temporal? v = none := by
    rcases v.object_or_seq h with ⟨type, values, rfl⟩ | ⟨items, rfl⟩
    all_goals rfl
  cases i with
  | past => rw [matchesAt, htemporal]; rfl
  | future => rw [matchesAt, htemporal]; rfl
  | range lower upper domain =>
      rw [matchesAt]
      cases domain with
      | none => rw [scalarFor?, hnumeric, htemporal]; rfl
      | some domain =>
          cases domain with
          | numeric => rw [scalarFor?, hnumeric]; rfl
          | temporal => rw [scalarFor?, htemporal]; rfl

/-- An object or a sequence hits no matcher. -/
theorem Matcher.hits_of_not_leaf {v : Value} (h : v.isLeaf = false) (m : Matcher)
    (now : Instant) : m.hits v now = false := by
  cases m with
  | interval i => exact i.matchesAt_of_not_leaf h now
  | literals set polarity =>
      rcases v.object_or_seq h with ⟨type, values, rfl⟩ | ⟨items, rfl⟩
      all_goals rfl
  | pattern p polarity =>
      rcases v.object_or_seq h with ⟨type, values, rfl⟩ | ⟨items, rfl⟩
      all_goals rfl

/-! ## Values that differ in one field -/

theorem Value.read_cons_of_ne {owner : TypeKey} {name other : String} {r : Reading}
    {values : List (String × Reading)} (h : other ≠ name) :
    Value.read owner ((name, r) :: values) other = Value.read owner values other := by
  rw [Value.read, List.lookup_cons, beq_false_of_ne h]
  rfl

theorem Value.read_cons_self {owner : TypeKey} {name : String} {v : Value}
    {values : List (String × Reading)} :
    Value.read owner ((name, .value v) :: values) name = .ok v := by
  rw [Value.read, List.lookup_cons, beq_self_eq_true]

/-- `Replaced type field v v'`: the values differ at most in what the field reads as in objects of
the type, where one of them may hold anything and the other anything else. -/
inductive Value.Replaced (type : TypeKey) (field : String) : Value → Value → Prop where
  | object {owner values values'}
      (unreadable : ∀ name, ¬(owner = type ∧ name = field) → ∀ e,
        Value.read owner values name = .error e ↔ Value.read owner values' name = .error e)
      (readable : ∀ name, ¬(owner = type ∧ name = field) → ∀ v v',
        Value.read owner values name = .ok v → Value.read owner values' name = .ok v' →
          Replaced type field v v') :
      Replaced type field (.object owner values) (.object owner values')
  | seq {items items'} (length : items.length = items'.length)
      (elements : ∀ p ∈ items.zip items', Replaced type field p.1 p.2) :
      Replaced type field (.seq items) (.seq items')
  | leaf {v} (isLeaf : v.isLeaf = true) : Replaced type field v v

namespace Value.Replaced

variable {type : TypeKey} {field : String} {v v' : Value}

/-- Nothing needs to be replaced. -/
theorem refl (v : Value) : Replaced type field v v := by
  induction v using Value.held_induction with
  | object owner values ih =>
      refine .object (fun _ _ _ => Iff.rfl) fun name _ v v' hv hv' => ?_
      obtain rfl := Except.ok.inj (hv.symm.trans hv')
      exact ih name v hv
  | seq items ih =>
      refine .seq rfl fun p hp => ?_
      obtain ⟨i, hi⟩ := List.mem_iff_getElem?.mp hp
      obtain ⟨hleft, hright⟩ := List.getElem?_zip_eq_some.mp hi
      have heq : p.1 = p.2 := Option.some.inj (hleft.symm.trans hright)
      rw [← heq]
      exact ih p.1 (List.mem_of_getElem? hleft)
  | leaf v isLeaf => exact .leaf isLeaf

/-- The field may be set to anything on either side. -/
theorem cons_replaced (r r' : Reading) {values values' : List (String × Reading)}
    (h : Replaced type field (.object type values) (.object type values')) :
    Replaced type field (.object type ((field, r) :: values))
      (.object type ((field, r') :: values')) := by
  cases h with
  | object unreadable readable =>
      refine .object (fun name elsewhere e => ?_) fun name elsewhere v v' hv hv' => ?_
      · have hne : name ≠ field := fun h => elsewhere ⟨rfl, h⟩
        rw [Value.read_cons_of_ne hne, Value.read_cons_of_ne hne]
        exact unreadable name elsewhere e
      · have hne : name ≠ field := fun h => elsewhere ⟨rfl, h⟩
        rw [Value.read_cons_of_ne hne] at hv hv'
        exact readable name elsewhere v v' hv hv'
  | leaf isLeaf => cases isLeaf

/-- Any field may be set to values of which one replaces the other. -/
theorem cons_value {owner : TypeKey} (name : String) (held : Replaced type field v v')
    {values values' : List (String × Reading)}
    (h : Replaced type field (.object owner values) (.object owner values')) :
    Replaced type field (.object owner ((name, .value v) :: values))
      (.object owner ((name, .value v') :: values')) := by
  cases h with
  | object unreadable readable =>
      refine .object (fun other elsewhere e => ?_) fun other elsewhere u u' hu hu' => ?_
      · by_cases heq : other = name
        · subst heq
          rw [Value.read_cons_self, Value.read_cons_self]
          exact ⟨nofun, nofun⟩
        · rw [Value.read_cons_of_ne heq, Value.read_cons_of_ne heq]
          exact unreadable other elsewhere e
      · by_cases heq : other = name
        · subst heq
          rw [Value.read_cons_self] at hu hu'
          obtain rfl := Except.ok.inj hu
          obtain rfl := Except.ok.inj hu'
          exact held
        · rw [Value.read_cons_of_ne heq] at hu hu'
          exact readable other elsewhere u u' hu hu'
  | leaf isLeaf => cases isLeaf

/-- Messages do not show what an object or a sequence holds. -/
theorem text_eq (h : Replaced type field v v') : v'.text = v.text := by
  cases h with
  | object unreadable readable => rfl
  | seq length elements => rw [Value.text, Value.text, length]
  | leaf isLeaf => rfl

/-- No matcher is hit by an object or a sequence for what it holds. -/
theorem hits_eq (h : Replaced type field v v') (m : Matcher) (now : Instant) :
    m.hits v' now = m.hits v now := by
  cases h with
  | object unreadable readable => rw [m.hits_of_not_leaf rfl, m.hits_of_not_leaf rfl]
  | seq length elements => rw [m.hits_of_not_leaf rfl, m.hits_of_not_leaf rfl]
  | leaf isLeaf => rfl

/-- **The judgement is the same,** with the same entry for a failure. -/
theorem entryFor?_eq (h : Replaced type field v v') (path : String) (r : Resolved)
    (now : Instant) :
    entryFor? path v' r (r.decision v' now) = entryFor? path v r (r.decision v now) := by
  have hdecision : r.decision v' now = r.decision v now := by
    simp only [Resolved.decision, h.hits_eq]
  rw [hdecision]
  cases r.decision v now with
  | pass => rfl
  | notAccepted => simp only [entryFor?, notAcceptedEntry, h.text_eq]
  | rejected m => simp only [entryFor?, rejectedEntry, h.text_eq]

end Value.Replaced

/-! ## Two checks at once -/

/-- Two readings: the same error, or values that are related. -/
inductive SameReading (related : Value → Value → Prop) :
    Except AccessError Value → Except AccessError Value → Prop where
  | unreadable {e} : SameReading related (.error e) (.error e)
  | readable {v v'} (held : related v v') : SameReading related (.ok v) (.ok v')

theorem SameReading.of_iff {related : Value → Value → Prop} {r r' : Except AccessError Value}
    (unreadable : ∀ e, r = .error e ↔ r' = .error e)
    (readable : ∀ v v', r = .ok v → r' = .ok v' → related v v') : SameReading related r r' := by
  cases r with
  | error e =>
      rw [(unreadable e).mp rfl]
      exact .unreadable
  | ok v =>
      cases r' with
      | error e => cases (unreadable e).mpr rfl
      | ok v' => exact .readable (readable v v' rfl rfl)

/-- Equal from where the first part has ended is equal. -/
theorem proceed_congr {p : Progress} {next next' : Chain → Session → Progress}
    (h : ∀ chain, next chain p.2 = next' chain p.2) : proceed p next = proceed p next' := by
  obtain ⟨r, s⟩ := p
  cases r with
  | error e => rfl
  | ok ended =>
      obtain ⟨passed, chain⟩ := ended
      cases passed with
      | true => exact h chain
      | false => rfl

namespace Check

/-- No exact session tells the values apart where a walked field holds them. -/
def SameOn (c : Check) (v v' : Value) : Prop :=
  ∀ path chain s, c.setting.Exact s →
    c.checkNested path v' chain s = c.checkNested path v chain s

variable {c : Check} {type : TypeKey} {field : String}

/-- An indexed field is passed over unread, or reads alike and is judged or walked alike. -/
theorem checkField_replaced (passed : c.setting.PassedOver c.group type field) {owner : TypeKey}
    {values values' : List (String × Reading)} {f : Field} {kind : FieldKind}
    (hf : f ∈ (c.setting.schemas.of owner).fields) (hkind : c.setting.kind? owner f = some kind)
    (chain : Chain) {s : Session} (hs : c.setting.Exact s)
    (indexed : s.index.contains owner = true)
    (hread : ¬(owner = type ∧ f.name = field) →
      SameReading (fun v v' => Value.Replaced type field v v' ∧ c.SameOn v v')
        (Value.read owner values f.name) (Value.read owner values' f.name)) :
    c.checkField owner values' ⟨f.name, kind⟩ chain s =
      c.checkField owner values ⟨f.name, kind⟩ chain s := by
  by_cases here : owner = type ∧ f.name = field
  · obtain ⟨rfl, hname⟩ := here
    obtain rfl := passed.kind_eq_rules hf hname hkind
    have hempty : (s.registry.resolve ⟨c.group, owner, f.name⟩).isEmpty = true := by
      rw [hs.resolve c.group owner f.name indexed, hname, passed.matchersOn_eq_nil]
      rfl
    have unread (values : List (String × Reading)) :
        c.checkField owner values ⟨f.name, .rules⟩ chain s = (.ok (true, chain), s) := by
      rw [checkField, judgeField]
      exact if_pos hempty
    rw [unread, unread]
  · have hsame := hread here
    by_cases hrules : kind = .rules
    · subst hrules
      rw [checkField, checkField, judgeField, judgeField]
      generalize Value.read owner values f.name = r at hsame ⊢
      generalize Value.read owner values' f.name = r' at hsame ⊢
      cases hsame with
      | unreadable => rfl
      | readable held => simp only [held.1.entryFor?_eq]
    · rw [c.checkField_of_walked owner values' _ chain s hrules,
        c.checkField_of_walked owner values _ chain s hrules]
      dsimp only
      generalize Value.read owner values f.name = r at hsame ⊢
      generalize Value.read owner values' f.name = r' at hsame ⊢
      cases hsame with
      | unreadable => rfl
      | readable held => exact held.2 _ chain s hs

/-- Indexed fields in order. -/
theorem checkFields_replaced (passed : c.setting.PassedOver c.group type field)
    (selection : Option (List String)) {owner : TypeKey} {values values' : List (String × Reading)}
    {decls : List Field} (hdecls : ∀ f ∈ decls, f ∈ (c.setting.schemas.of owner).fields)
    (chain : Chain) {s : Session} (hs : c.setting.Exact s)
    (indexed : s.index.contains owner = true)
    (hread : ∀ name, ¬(owner = type ∧ name = field) →
      SameReading (fun v v' => Value.Replaced type field v v' ∧ c.SameOn v v')
        (Value.read owner values name) (Value.read owner values' name)) :
    c.checkFields selection owner values' (c.setting.indexed owner decls) chain s =
      c.checkFields selection owner values (c.setting.indexed owner decls) chain s := by
  induction decls generalizing chain s with
  | nil =>
      rw [Setting.indexed, List.filterMap_nil, checkFields, checkFields]
  | cons f decls ih =>
      obtain ⟨hf, hdecls⟩ := List.forall_mem_cons.mp hdecls
      cases hkind : c.setting.kind? owner f with
      | none =>
          rw [Setting.indexed_cons_of_none hkind]
          exact ih hdecls chain hs indexed
      | some kind =>
          rw [Setting.indexed_cons_of_some hkind, checkFields, checkFields]
          by_cases outside : (selection.any fun names => !names.contains f.name) = true
          · rw [if_pos outside, if_pos outside]
            exact ih hdecls chain hs indexed
          · rw [if_neg outside, if_neg outside,
              checkField_replaced passed hf hkind chain hs indexed (hread f.name)]
            -- the first part is one and the same, and leaves an exact session
            have worked : c.setting.Worked s (c.checkField owner values ⟨f.name, kind⟩ chain s) :=
              (c.checkField_goes owner values ⟨f.name, kind⟩ chain s).worked
            exact proceed_congr fun chain =>
              ih hdecls chain (hs.steps worked.steps) (worked.steps.contains indexed)

theorem checkObject_replaced (passed : c.setting.PassedOver c.group type field)
    (selection : Option (List String)) {owner : TypeKey} {values values' : List (String × Reading)}
    (chain : Chain) {s : Session} (hs : c.setting.Exact s)
    (hread : ∀ name, ¬(owner = type ∧ name = field) →
      SameReading (fun v v' => Value.Replaced type field v v' ∧ c.SameOn v v')
        (Value.read owner values name) (Value.read owner values' name)) :
    c.checkObject selection owner values' chain s =
      c.checkObject selection owner values chain s := by
  rw [checkObject, checkObject]
  cases hr : c.setting.ensureIndexed owner s with
  | mk r s₁ =>
      cases r with
      | error e => rfl
      | ok entry =>
          have hsteps := c.setting.ensureIndexed_steps owner s
          rw [hr] at hsteps
          obtain rfl := Setting.entry_of_ensureIndexed hs hr
          exact checkFields_replaced passed selection (fun _ hf => hf) chain (hs.steps hsteps)
            (Setting.ensureIndexed_closedBut hr).1 hread

theorem checkItems_replaced {path : String} {position : Nat} {items items' : List Value}
    (length : items.length = items'.length) (chain : Chain) {s : Session}
    (hs : c.setting.Exact s) (heach : ∀ p ∈ items.zip items', c.SameOn p.1 p.2) :
    c.checkItems path position items' chain s = c.checkItems path position items chain s := by
  induction items generalizing items' position chain s with
  | nil =>
      obtain rfl := List.length_eq_zero_iff.mp length.symm
      rfl
  | cons v rest ih =>
      cases items' with
      | nil => cases length
      | cons v' rest' =>
          obtain ⟨hfirst, hrest⟩ := List.forall_mem_cons.mp heach
          rw [checkItems, checkItems, hfirst _ chain s hs]
          have hsteps := (c.checkNested_goes (elementPath path position) v chain s).worked.steps
          exact proceed_congr fun chain =>
            ih (Nat.succ.inj length) chain (hs.steps hsteps) hrest

theorem checkNested_replaced (passed : c.setting.PassedOver c.group type field) {v v' : Value}
    (h : Value.Replaced type field v v') : c.SameOn v v' := by
  induction h with
  | @object owner values values' unreadable readable ih =>
      intro path chain s hs
      rw [checkNested, checkNested, checkObject_replaced passed none chain hs]
      exact fun name elsewhere => .of_iff (unreadable name elsewhere) fun v v' hv hv' =>
        ⟨readable name elsewhere v v' hv hv', ih name elsewhere v v' hv hv'⟩
  | seq length elements ih =>
      intro path chain s hs
      rw [checkNested, checkNested]
      exact checkItems_replaced length chain hs ih
  | leaf isLeaf => exact fun path chain s hs => rfl

theorem checkValues_replaced {selection : Option (List String)} {vs vs' : List Value}
    (length : vs.length = vs'.length) (chain : Chain) {s : Session} (hs : c.setting.Exact s)
    (heach : ∀ p ∈ vs.zip vs', ∀ chain s, c.setting.Exact s →
      c.checkValue selection p.2 chain s = c.checkValue selection p.1 chain s) :
    c.checkValues selection vs' chain s = c.checkValues selection vs chain s := by
  induction vs generalizing vs' chain s with
  | nil =>
      obtain rfl := List.length_eq_zero_iff.mp length.symm
      rfl
  | cons v rest ih =>
      cases vs' with
      | nil => cases length
      | cons v' rest' =>
          obtain ⟨hfirst, hrest⟩ := List.forall_mem_cons.mp heach
          rw [checkValues, checkValues, hfirst chain s hs]
          have hsteps := (c.checkValue_goes selection v chain s).worked.steps
          exact proceed_congr fun chain =>
            ih (Nat.succ.inj length) chain (hs.steps hsteps) hrest

/-- **Values that differ in a field that is passed over are checked alike** in every exact session.
-/
theorem checkValue_replaced (passed : c.setting.PassedOver c.group type field)
    (selection : Option (List String)) {v v' : Value} (h : Value.Replaced type field v v') :
    ∀ chain s, c.setting.Exact s →
      c.checkValue selection v' chain s = c.checkValue selection v chain s := by
  induction h with
  | object unreadable readable =>
      intro chain s hs
      rw [checkValue, checkValue]
      exact checkObject_replaced passed selection chain hs fun name elsewhere =>
        .of_iff (unreadable name elsewhere) fun v v' hv hv' =>
          have held := readable name elsewhere v v' hv hv'
          ⟨held, checkNested_replaced passed held⟩
  | seq length elements ih =>
      intro chain s hs
      rw [checkValue, checkValue]
      exact checkValues_replaced length chain hs ih
  | leaf isLeaf => exact fun chain s hs => rfl

end Check

namespace Setting

/-- **A field that is passed over is not read.** After any history, whatever such a field reads as
in the objects of its type, wherever they are in a value, and be it that it cannot be read, the
answer of a check in the group is the same, with any selection of fields, and so is all that the
engine knows afterwards. -/
theorem passed_over_field_is_unread {w : Setting} {group : String} {type : TypeKey}
    {field : String} (passed : w.PassedOver (groupNamed group) type field) {v v' : Value}
    (replaced : Value.Replaced type field v v') (history : List Request)
    (clock : Nat → Instant) (selection : Option (List String)) :
    w.evaluate clock group v' selection (w.after history) =
      w.evaluate clock group v selection (w.after history) := by
  unfold evaluate
  dsimp only
  rw [Check.checkValue_replaced (c := ⟨w, groupNamed group, clock⟩) passed selection replaced .empty
    _ (w.exact_after history)]

namespace Archive

def record : TypeKey := ⟨"A", "A"⟩

def vault : TypeKey := ⟨"B", "B"⟩

/-- A record leads to the next one, and has a vault with a rule in another group only. A rule on
vaults lists no literal, so no request for their type could succeed. -/
def setting : Setting where
  schemas := ⟨[
    (record, ⟨[
      ⟨"next", .nested record, [], true⟩,
      ⟨"vault", .nested vault, [⟨.values ["x"], ["h"], true, false⟩], true⟩,
      ⟨"tag", .leaf, [⟨.values ["x"], ["g"], true, false⟩], false⟩]⟩),
    (vault, ⟨[⟨"code", .leaf, [⟨.values [], [], true, false⟩], false⟩]⟩)]⟩
  book := .empty

/-- A record with a next one; what their vaults read as is left open. -/
def records (held held' : Reading) : Value :=
  .object record [
    ("next", .value (.object record [
      ("next", .value .null), ("vault", held), ("tag", .value (.str "y"))])),
    ("vault", held'), ("tag", .value (.str "x"))]

/-- Vaults may be replaced, in the outer record as in the next one. -/
theorem records_replaced (held held' other other' : Reading) :
    Value.Replaced record "vault" (records held held') (records other other') :=
  .cons_value "next" (.cons_value "next" (.refl .null) (.cons_replaced held other (.refl _)))
    (.cons_replaced held' other' (.refl _))

/-- A vault that cannot be read, of a type that is not known here. -/
def closed : AccessError := ⟨"Cellar", "vault", "closed"⟩

theorem vault_passed_over : setting.PassedOver (groupNamed "g") record "vault" where
  unfiled := by decide +kernel
  unwalked := by decide +kernel

/-- A check passes both vaults over, be they malformed or closed, and fails at the tag of the next
record. -/
theorem unread_where_nobody_looks :
    setting.PassedOver (groupNamed "g") record "vault" ∧ setting.Malformed vault ∧
      setting.evaluate (fun _ => ⟨0, 0, by decide⟩) "g"
          (records (.value (.object vault [])) (.value (.object vault []))) none
          (setting.after [.prepare record]) =
        setting.evaluate (fun _ => ⟨0, 0, by decide⟩) "g"
          (records (.unreadable closed) (.unreadable closed)) none
          (setting.after [.prepare record]) ∧
      (setting.evaluate (fun _ => ⟨0, 0, by decide⟩) "g"
          (records (.value (.object vault [])) (.value (.object vault []))) none
          (setting.after [.prepare record])).1 =
        .ok ⟨false, "g", ["A.next: nested A failed",
          "A.tag: value \"y\" is not accepted by values [\"x\"]"]⟩ := by
  refine ⟨vault_passed_over, ?_, ?_, by cbv⟩
  · exact ⟨⟨"code", .leaf, [⟨.values [], [], true, false⟩], false⟩, by decide,
      ⟨.values [], [], true, false⟩, by decide, .emptyValues, rfl⟩
  · exact passed_over_field_is_unread vault_passed_over (records_replaced _ _ _ _)
      [.prepare record] (fun _ => ⟨0, 0, by decide⟩) none

end Archive

end Setting

end FieldRules
