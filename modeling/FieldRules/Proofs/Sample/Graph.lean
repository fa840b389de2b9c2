import FieldRules.Proofs.History.Legible
import FieldRules.Proofs.History.Unread
import FieldRules.Sample.Account

/-!
# `Proofs.Sample.Graph` — graphs of accounts and teams

What accounts and teams declare and what their fields read as are two lists each, written apart from
one another. They have the same names in the same order, and every field reads as a value, which
again is a leaf, an account, a team or a sequence of such. So whatever a check comes to inside of a
graph of accounts and teams can be read, and what accounts and teams lead to are accounts and teams.

The mentor of an account is declared without being walked, and its tags hold nothing to walk. Unless
a rule is on them, a check passes both over, whatever they hold.

## Contents
- **`Value.Sampled`**, values made of accounts and teams, with **`Sampled.inside`**.
- **`Setting.Samples`**, settings that declare accounts and teams, with **`Samples.legible`** and
  **`Samples.compilesInside`**.
- **`Aside`** and **`Value.Reset`**, graphs that differ in mentors or in tags, with
  **`Reset.replaced`**.
- **`samples_never_misdeclare`**.
-/

namespace FieldRules

open Calendar

/-! ## What is inside of a graph -/

/-- Values made of accounts, teams, sequences and leaves. -/
inductive Value.Sampled : Value → Prop where
  | account (a : Account) : Sampled a.value
  | team (t : Team) : Sampled t.value
  | seq {items} (each : ∀ v ∈ items, Sampled v) : Sampled (.seq items)
  | leaf {v} (isLeaf : v.isLeaf = true) : Sampled v

namespace Value

theorem isLeaf_ofOption {α : Type} {leaf : α → Value} (h : ∀ x, (leaf x).isLeaf = true)
    (o : Option α) : (ofOption leaf o).isLeaf = true := by
  cases o with
  | none => rfl
  | some x => exact h x

namespace Sampled

theorem ofOption {α : Type} {leaf : α → Value} (h : ∀ x, (leaf x).isLeaf = true) (o : Option α) :
    Sampled (Value.ofOption leaf o) :=
  .leaf (isLeaf_ofOption h o)

theorem accountOrNull (o : Option Account) : Sampled (FieldRules.accountOrNull o) := by
  cases o with
  | none => exact .leaf rfl
  | some a => exact .account a

theorem teamOrNull (o : Option Team) : Sampled (FieldRules.teamOrNull o) := by
  cases o with
  | none => exact .leaf rfl
  | some t => exact .team t

theorem of_mem_accountValues {accounts : List Account} :
    ∀ v ∈ accountValues accounts, Sampled v := by
  induction accounts with
  | nil => exact fun v hmem => absurd hmem List.not_mem_nil
  | cons a rest ih => exact List.forall_mem_cons.mpr ⟨.account a, ih⟩

theorem of_mem_roleValues {roles : List (String × List Account)} :
    ∀ v ∈ roleValues roles, Sampled v := by
  induction roles with
  | nil => exact fun v hmem => absurd hmem List.not_mem_nil
  | cons role rest ih => exact List.forall_mem_cons.mpr ⟨.seq of_mem_accountValues, ih⟩

end Sampled

/-- The readings of an object are values, under the names that its type declares. -/
structure ReadAs (schema : Schema) (values : List (String × Reading)) : Prop where
  names : values.map Prod.fst = schema.fields.map Field.name
  held : ∀ e ∈ values, ∃ v, e.2 = .value v ∧ v.Sampled

theorem readAs_account (a : Account) :
    ∃ values, a.value = .object accountType values ∧ ReadAs accountSchema values := by
  obtain ⟨profile, parent, mentor, team⟩ := a
  refine ⟨_, by rw [Account.value], rfl, ?_⟩
  have leaf {α : Type} {leaf : α → Value} (o : Option α) (h : ∀ x, (leaf x).isLeaf = true) :
      ∃ v, Reading.value (.ofOption leaf o) = .value v ∧ v.Sampled :=
    ⟨_, rfl, .ofOption h o⟩
  have tags : ∀ v ∈ profile.tags.map Value.str, v.Sampled :=
    List.forall_mem_map.mpr fun tag _ => .leaf rfl
  simp only [Profile.readings, List.cons_append, List.nil_append, List.forall_mem_cons]
  exact ⟨leaf _ fun _ => rfl, leaf _ fun _ => rfl, leaf _ fun _ => rfl, leaf _ fun _ => rfl,
    leaf _ fun _ => rfl, leaf _ fun _ => rfl, leaf _ fun _ => rfl, leaf _ fun _ => rfl,
    leaf _ fun _ => rfl, ⟨_, rfl, .seq tags⟩, ⟨_, rfl, .accountOrNull parent⟩,
    ⟨_, rfl, .accountOrNull mentor⟩, ⟨_, rfl, .teamOrNull team⟩, nofun⟩

theorem readAs_team (t : Team) :
    ∃ values, t.value = .object teamType values ∧ ReadAs teamSchema values := by
  obtain ⟨name, code, owner, members, byRole⟩ := t
  refine ⟨_, by rw [Team.value], rfl, ?_⟩
  simp only [List.forall_mem_cons]
  exact ⟨⟨_, rfl, .ofOption (fun _ => rfl) _⟩, ⟨_, rfl, .ofOption (fun _ => rfl) _⟩,
    ⟨_, rfl, .accountOrNull owner⟩, ⟨_, rfl, .seq Sampled.of_mem_accountValues⟩,
    ⟨_, rfl, .seq Sampled.of_mem_roleValues⟩, nofun⟩

/-- An object that is made of accounts and teams is one of them, and reads as its type declares. -/
theorem Sampled.readAs {type : TypeKey} {values : List (String × Reading)}
    (h : Sampled (.object type values)) :
    (type = accountType ∧ ReadAs accountSchema values) ∨
      (type = teamType ∧ ReadAs teamSchema values) := by
  generalize hv : Value.object type values = v at h
  cases h with
  | account a =>
      obtain ⟨values', heq, reads⟩ := readAs_account a
      obtain ⟨rfl, rfl⟩ := Value.object.inj (hv.trans heq)
      exact .inl ⟨rfl, reads⟩
  | team t =>
      obtain ⟨values', heq, reads⟩ := readAs_team t
      obtain ⟨rfl, rfl⟩ := Value.object.inj (hv.trans heq)
      exact .inr ⟨rfl, reads⟩
  | seq each => cases hv
  | leaf isLeaf =>
      subst hv
      cases isLeaf

/-- What is read is listed. -/
theorem mem_of_read {type : TypeKey} {values : List (String × Reading)} {name : String} {v : Value}
    (h : Value.read type values name = .ok v) : (name, .value v) ∈ values := by
  unfold Value.read at h
  split at h
  · next u found =>
      obtain rfl := Except.ok.inj h
      obtain ⟨before, after, hsplit, -⟩ := List.lookup_eq_some_iff.mp found
      rw [hsplit]
      exact List.mem_append_right _ List.mem_cons_self
  · cases h
  · cases h

namespace ReadAs

variable {schema : Schema} {values : List (String × Reading)}

theorem sampled (h : ReadAs schema values) {type : TypeKey} {name : String} {v : Value}
    (read : Value.read type values name = .ok v) : v.Sampled := by
  obtain ⟨u, heq, sampled⟩ := h.held _ (mem_of_read read)
  obtain rfl := Reading.value.inj heq
  exact sampled

/-- Every declared field can be read. -/
theorem readable (h : ReadAs schema values) (type : TypeKey) {f : Field}
    (hf : f ∈ schema.fields) : ∃ v, Value.read type values f.name = .ok v := by
  have hname : f.name ∈ values.map Prod.fst := by
    rw [h.names]
    exact List.mem_map_of_mem hf
  unfold Value.read
  cases found : values.lookup f.name with
  | none =>
      obtain ⟨e, he, heq⟩ := List.mem_map.mp hname
      have hne := List.lookup_eq_none_iff.mp found e he
      exact absurd heq.symm (bne_iff_ne.mp hne)
  | some r =>
      obtain ⟨before, after, hsplit, -⟩ := List.lookup_eq_some_iff.mp found
      obtain ⟨v, rfl, -⟩ := h.held (f.name, r) (by simp [hsplit])
      exact ⟨v, rfl⟩

end ReadAs

/-- **Whatever is inside of a graph of accounts and teams is one.** -/
theorem Sampled.inside {u v : Value} (h : v.Sampled) (inside : Value.Inside u v) : u.Sampled := by
  induction inside with
  | self => exact h
  | @field type values name v read inside ih =>
      rcases h.readAs with ⟨-, reads⟩ | ⟨-, reads⟩
      · exact ih (reads.sampled read)
      · exact ih (reads.sampled read)
  | @element items v hmem inside ih =>
      refine ih ?_
      generalize hv : Value.seq items = whole at h
      cases h with
      | account a =>
          obtain ⟨values, heq, -⟩ := readAs_account a
          cases hv.trans heq
      | team t =>
          obtain ⟨values, heq, -⟩ := readAs_team t
          cases hv.trans heq
      | seq each =>
          obtain rfl := Value.seq.inj hv
          exact each v hmem
      | leaf isLeaf =>
          subst hv
          cases isLeaf

end Value

/-! ## Settings that declare accounts and teams -/

/-- Accounts and teams are declared as they are, whatever else is. -/
structure Setting.Samples (w : Setting) : Prop where
  account : w.schemas.of accountType = accountSchema
  team : w.schemas.of teamType = teamSchema

namespace Setting.Samples

variable {w : Setting}

/-- **Every declared field of a graph of accounts and teams can be read.** -/
theorem legible (samples : w.Samples) {v : Value} (h : v.Sampled) : v.Legible w.schemas := by
  intro type values inside f hf
  rcases (h.inside inside).readAs with ⟨rfl, reads⟩ | ⟨rfl, reads⟩
  · rw [samples.account] at hf
    exact reads.readable _ hf
  · rw [samples.team] at hf
    exact reads.readable _ hf

theorem targets : ∀ f ∈ accountSchema.fields ++ teamSchema.fields,
    ∀ target ∈ f.target?, target.2 = accountType ∨ target.2 = teamType := by
  decide

/-- Accounts and teams lead to accounts and teams only. -/
theorem leads (samples : w.Samples) {type target : TypeKey}
    (htype : type = accountType ∨ type = teamType) (h : w.Leads type target) :
    target = accountType ∨ target = teamType := by
  obtain ⟨f, hf, -, kind, htarget⟩ := leads_iff.mp h
  have hmem : f ∈ accountSchema.fields ++ teamSchema.fields := by
    rcases htype with rfl | rfl
    · rw [samples.account] at hf
      exact List.mem_append_left _ hf
    · rw [samples.team] at hf
      exact List.mem_append_right _ hf
  exact targets f hmem (kind, target) htarget

theorem reaches (samples : w.Samples) {type target : TypeKey}
    (htype : type = accountType ∨ type = teamType) (h : w.Reaches type target) :
    target = accountType ∨ target = teamType := by
  induction h with
  | refl => exact htype
  | tail _ hlead ih => exact samples.leads ih hlead

theorem compilesInside (samples : w.Samples) (account : w.Compiles accountType)
    (team : w.Compiles teamType) {v : Value} (h : v.Sampled) : w.CompilesInside v := by
  intro type values inside target hpath
  have htype : type = accountType ∨ type = teamType :=
    (h.inside inside).readAs.imp And.left And.left
  rcases samples.reaches htype hpath with rfl | rfl
  · exact account
  · exact team

end Setting.Samples

/-! ## Graphs that differ in mentors or in tags -/

/-- The fields of accounts that are declared but lead nowhere. -/
inductive Aside where
  | mentor
  | tags
  deriving DecidableEq, Repr

/-- The name of the field. -/
def Aside.field : Aside → String
  | .mentor => "mentor"
  | .tags => "tags"

/-- Profiles that differ in nothing but the tags, and in those only if they are what differs. -/
def Profile.Reset (aside : Aside) (p p' : Profile) : Prop :=
  p' = { p with tags := p'.tags } ∧ (aside = .tags ∨ p'.tags = p.tags)

mutual

/-- `a.Reset aside a'`: the accounts differ at most in what the field holds, in themselves and in
all accounts that they lead to. -/
def Account.Reset (aside : Aside) : Account → Account → Prop
  | .mk profile parent mentor team, .mk profile' parent' mentor' team' =>
    profile.Reset aside profile' ∧ accountReset aside parent parent' ∧
      (aside = .mentor ∨ accountReset aside mentor mentor') ∧ teamReset aside team team'

/-- Teams whose accounts differ at most in what the field holds. -/
def Team.Reset (aside : Aside) : Team → Team → Prop
  | .mk name code owner members byRole, .mk name' code' owner' members' byRole' =>
    name' = name ∧ code' = code ∧ accountReset aside owner owner' ∧
      accountsReset aside members members' ∧ rolesReset aside byRole byRole'

/-- Accounts that may be missing. -/
def accountReset (aside : Aside) : Option Account → Option Account → Prop
  | some a, some a' => a.Reset aside a'
  | none, none => True
  | _, _ => False

/-- Teams that may be missing. -/
def teamReset (aside : Aside) : Option Team → Option Team → Prop
  | some t, some t' => t.Reset aside t'
  | none, none => True
  | _, _ => False

/-- Lists of accounts, one by one. -/
def accountsReset (aside : Aside) : List Account → List Account → Prop
  | a :: rest, a' :: rest' => a.Reset aside a' ∧ accountsReset aside rest rest'
  | [], [] => True
  | _, _ => False

/-- The accounts of each role. -/
def rolesReset (aside : Aside) : List (String × List Account) → List (String × List Account) → Prop
  | (role, accounts) :: rest, (role', accounts') :: rest' =>
    role' = role ∧ accountsReset aside accounts accounts' ∧ rolesReset aside rest rest'
  | [], [] => True
  | _, _ => False

end

/-- Graphs that differ at most in what the field of some accounts holds, or sequences of such. -/
inductive Value.Reset (aside : Aside) : Value → Value → Prop where
  | account {a a' : Account} (h : a.Reset aside a') : Reset aside a.value a'.value
  | team {t t' : Team} (h : t.Reset aside t') : Reset aside t.value t'.value
  | seq {items items'} (length : items.length = items'.length)
      (elements : ∀ p ∈ items.zip items', Reset aside p.1 p.2) :
      Reset aside (.seq items) (.seq items')

namespace Value.Replaced

variable {type owner : TypeKey} {field : String}

/-- Sequences whose elements are replaced one by one. -/
theorem cons_seq {v v' : Value} {items items' : List Value} (h : Replaced type field v v')
    (hrest : Replaced type field (.seq items) (.seq items')) :
    Replaced type field (.seq (v :: items)) (.seq (v' :: items')) := by
  cases hrest with
  | seq length elements =>
      exact .seq (congrArg Nat.succ length) (List.forall_mem_cons.mpr ⟨h, elements⟩)
  | leaf isLeaf => cases isLeaf

/-- Readings of which one replaces the other, under the same names in the same order. -/
theorem append_values {before values values' : List (String × Reading)}
    (hbefore : ∀ e ∈ before, ∃ v, e.2 = .value v)
    (h : Replaced type field (.object owner values) (.object owner values')) :
    Replaced type field (.object owner (before ++ values)) (.object owner (before ++ values')) := by
  induction before with
  | nil => exact h
  | cons e before ih =>
      obtain ⟨⟨v, hv⟩, hrest⟩ := List.forall_mem_cons.mp hbefore
      obtain ⟨name, r⟩ := e
      obtain rfl : r = .value v := hv
      exact .cons_value name (.refl v) (ih hrest)

end Value.Replaced

/-- The readings of a profile, with the tags last. -/
theorem Profile.readings_eq (p : Profile) :
    p.readings = p.readings.take 9 ++ [("tags", .value (.seq (p.tags.map .str)))] := rfl

theorem Profile.values_of_mem_readings (p : Profile) :
    ∀ e ∈ p.readings.take 9, ∃ v, e.2 = .value v := by
  simp [readings]

/-- The readings of profiles, in front of readings of which one replaces the other. -/
theorem Profile.Reset.replaced {aside : Aside} {p p' : Profile} (h : p.Reset aside p')
    {values values' : List (String × Reading)}
    (hrest : Value.Replaced accountType aside.field (.object accountType values)
      (.object accountType values')) :
    Value.Replaced accountType aside.field (.object accountType (p.readings ++ values))
      (.object accountType (p'.readings ++ values')) := by
  obtain ⟨hprofile, htags⟩ := h
  have hbefore : p'.readings.take 9 = p.readings.take 9 := by
    rw [hprofile]
    rfl
  rw [p.readings_eq, p'.readings_eq, hbefore, List.append_assoc, List.append_assoc]
  refine .append_values p.values_of_mem_readings ?_
  rcases htags with rfl | htags
  · exact .cons_replaced _ _ hrest
  · rw [htags]
    exact .cons_value "tags" (.refl _) hrest

mutual

theorem Account.Reset.replaced {aside : Aside} : ∀ {a a' : Account}, a.Reset aside a' →
    Value.Replaced accountType aside.field a.value a'.value
  | .mk profile parent mentor team, .mk profile' parent' mentor' team', h => by
    rw [Account.Reset] at h
    obtain ⟨hprofile, hparent, hmentor, hteam⟩ := h
    rw [Account.value, Account.value]
    refine hprofile.replaced (.cons_value "parent" (accountReset_replaced hparent) ?_)
    have hlast : Value.Replaced accountType aside.field
        (.object accountType [("team", .value (teamOrNull team))])
        (.object accountType [("team", .value (teamOrNull team'))]) :=
      .cons_value "team" (teamReset_replaced hteam) (.refl _)
    rcases hmentor with rfl | hmentor
    · exact .cons_replaced _ _ hlast
    · exact .cons_value "mentor" (accountReset_replaced hmentor) hlast

theorem Team.Reset.replaced {aside : Aside} : ∀ {t t' : Team}, t.Reset aside t' →
    Value.Replaced accountType aside.field t.value t'.value
  | .mk name code owner members byRole, .mk name' code' owner' members' byRole', h => by
    rw [Team.Reset] at h
    obtain ⟨rfl, rfl, howner, hmembers, hroles⟩ := h
    rw [Team.value, Team.value]
    exact .cons_value "name" (.refl _) (.cons_value "code" (.refl _)
      (.cons_value "owner" (accountReset_replaced howner)
        (.cons_value "members" (accountsReset_replaced hmembers)
          (.cons_value "by_role" (rolesReset_replaced hroles) (.refl _)))))

theorem accountReset_replaced {aside : Aside} : ∀ {o o' : Option Account},
    accountReset aside o o' →
    Value.Replaced accountType aside.field (accountOrNull o) (accountOrNull o')
  | some a, some a', h => by
    rw [accountReset] at h
    exact Account.Reset.replaced h
  | none, none, _ => .refl .null
  | some _, none, h => by simp [accountReset] at h
  | none, some _, h => by simp [accountReset] at h

theorem teamReset_replaced {aside : Aside} : ∀ {o o' : Option Team}, teamReset aside o o' →
    Value.Replaced accountType aside.field (teamOrNull o) (teamOrNull o')
  | some t, some t', h => by
    rw [teamReset] at h
    exact Team.Reset.replaced h
  | none, none, _ => .refl .null
  | some _, none, h => by simp [teamReset] at h
  | none, some _, h => by simp [teamReset] at h

theorem accountsReset_replaced {aside : Aside} : ∀ {as as' : List Account},
    accountsReset aside as as' →
    Value.Replaced accountType aside.field (.seq (accountValues as)) (.seq (accountValues as'))
  | a :: rest, a' :: rest', h => by
    rw [accountsReset] at h
    exact .cons_seq (Account.Reset.replaced h.1) (accountsReset_replaced h.2)
  | [], [], _ => .refl _
  | _ :: _, [], h => by simp [accountsReset] at h
  | [], _ :: _, h => by simp [accountsReset] at h

theorem rolesReset_replaced {aside : Aside} : ∀ {roles roles' : List (String × List Account)},
    rolesReset aside roles roles' →
    Value.Replaced accountType aside.field (.seq (roleValues roles)) (.seq (roleValues roles'))
  | (role, accounts) :: rest, (role', accounts') :: rest', h => by
    rw [rolesReset] at h
    exact .cons_seq (accountsReset_replaced h.2.1) (rolesReset_replaced h.2.2)
  | [], [], _ => .refl _
  | _ :: _, [], h => by simp [rolesReset] at h
  | [], _ :: _, h => by simp [rolesReset] at h

end

/-- **Graphs that differ in such a field are values that differ in that field.** -/
theorem Value.Reset.replaced {aside : Aside} {v v' : Value} (h : Value.Reset aside v v') :
    Value.Replaced accountType aside.field v v' := by
  induction h with
  | account h => exact h.replaced
  | team h => exact h.replaced
  | seq length elements ih => exact .seq length ih

/-- Without a rule on it, such a field is passed over in every group. -/
theorem Setting.Samples.passedOver {w : Setting} (samples : w.Samples) {aside : Aside}
    (unruled : ∀ r ∈ w.book.rulesFor "Account" aside.field, r.isEnabled = false) (group : String) :
    w.PassedOver group accountType aside.field := by
  have hdeclared : ∀ f ∈ accountSchema.fields, f.rules = [] ∧
      (f.name = aside.field → f.target? = none) := by
    cases aside <;> decide
  constructor
  · intro f hf hname r hr
    rw [samples.account] at hf
    have hrules : w.enabledRules accountType f = [] := by
      rw [enabledRules, (hdeclared f hf).1, hname, List.nil_append, List.filter_eq_nil_iff]
      exact fun r hr => by simp [unruled r hr]
    rw [hrules] at hr
    cases hr
  · intro f hf hname _
    rw [samples.account] at hf
    exact (hdeclared f hf).2 hname

/-- **Accounts and teams are never misdeclared.** In a setting that declares them, with any rule
book, after any history, in any group and with any selection of fields, a check of a graph of them
never ends because of a field; where the rules on both types compile there is a verdict; and graphs
that differ in mentors alone, or in tags alone, are checked alike unless the book has a rule with an
effect on that field. -/
theorem samples_never_misdeclare {w : Setting} (samples : w.Samples) {v : Value}
    (sampled : v.Sampled) (history : List Request) (clock : Nat → Instant) (group : String)
    (selection : Option (List String)) :
    (∀ e, (w.evaluate clock group v selection (w.after history)).1 ≠ .error (.access e)) ∧
    (w.Compiles accountType → w.Compiles teamType →
      ∃ verdict, (w.evaluate clock group v selection (w.after history)).1 = .ok verdict) ∧
    ∀ aside v', Value.Reset aside v v' →
      w.evaluate clock group v' selection (w.after history) ≠
        w.evaluate clock group v selection (w.after history) →
      ∃ r ∈ w.book.rulesFor "Account" aside.field, r.isEnabled = true := by
  obtain ⟨unread, verdict⟩ := Setting.evaluate_of_legible (w.exact_after history) clock group
    (samples.legible sampled) selection
  refine ⟨unread, fun account team => verdict (samples.compilesInside account team sampled), ?_⟩
  intro aside v' reset differs
  by_contra hnone
  have unruled : ∀ r ∈ w.book.rulesFor "Account" aside.field, r.isEnabled = false := by
    intro r hr
    rw [← Bool.not_eq_true]
    exact fun enabled => hnone ⟨r, hr, enabled⟩
  exact differs (Setting.passed_over_field_is_unread (samples.passedOver unruled (groupNamed group))
    reset.replaced history clock selection)

/-! ## An account and its mentor -/

namespace Mentored

/-- Accounts have to be administrators. -/
def setting : Setting where
  schemas := sampleSchemas
  book := RuleBook.empty.insert "Account" "role" ⟨.values ["admin"], [], true, false⟩

/-- An account with a role. -/
def account (role : String) (mentor : Option Account) : Account :=
  .mk ⟨none, some role, none, none, none, none, none, none, none, ["new"]⟩ none mentor none

theorem samples : setting.Samples :=
  ⟨rfl, rfl⟩

theorem reset (mentor mentor' : Option Account) :
    Value.Reset .mentor (account "admin" mentor).value (account "admin" mentor').value := by
  refine .account ?_
  simp [account, Account.Reset, Profile.Reset, accountReset, teamReset]

/-- An administrator has a verdict, and the same one whoever the mentor is. -/
theorem administrator_with_any_mentor :
    setting.Samples ∧ (account "admin" none).value.Sampled ∧
      (∃ verdict, (setting.evaluate (fun _ => ⟨0, 0, by decide⟩) ""
        (account "admin" none).value none (setting.after [.prepare teamType])).1 = .ok verdict) ∧
      setting.evaluate (fun _ => ⟨0, 0, by decide⟩) ""
          (account "admin" (some (account "user" none))).value none
          (setting.after [.prepare teamType]) =
        setting.evaluate (fun _ => ⟨0, 0, by decide⟩) "" (account "admin" none).value none
          (setting.after [.prepare teamType]) := by
  have compiles (type : TypeKey) : setting.Compiles type :=
    Setting.compiles_of_listed (by decide +kernel) type
  obtain ⟨-, verdict, unread⟩ := samples_never_misdeclare samples (.account (account "admin" none))
    [.prepare teamType] (fun _ => ⟨0, 0, by decide⟩) "" none
  refine ⟨samples, .account _, verdict (compiles _) (compiles _), ?_⟩
  by_contra differs
  obtain ⟨r, hr, -⟩ := unread .mentor _ (reset none (some (account "user" none))) differs
  revert hr
  simp [setting, Aside.field, RuleBook.rulesFor_insert, RuleBook.rulesFor_empty]

end Mentored

end FieldRules
