import FieldRules.Proofs.Direct.Refinement

/-!
# `Proofs.Direct.Isolation` — what rules of other groups can change

Rules that are filed under other groups only leave the matchers of a group as they are. Still they
can change a check in the group, because a field with a rule of any group is not walked: its first
rule takes a walked field out of the walk. That is the whole effect. The two engines are compared
through the interpreter, whose plans differ nowhere else.

Where names repeat, a field may also come to be judged by matchers that another declaration of its
name has, at an earlier place than before; such a field is excluded as well.

## Contents
- **`Rule.Added`**, **`Field.Added`** and **`Setting.Extended`**, extra rules of other groups.
- **`Extended.matchersOn_eq`** and **`Extended.plan_eq`**, what they leave alone.
- **`Unwalked`** and **`Undisturbed`**, the conditions on fields that get their first rule.
- **`Direct.fields_of_ignored`** and **`Direct.fields_of_read`**, objects without values.
- **`group_isolation_iff`**, when extra rules make no difference, and **`Parcel.not_isolated`**,
  where one does.
-/

namespace FieldRules

open Calendar

/-! ## Extra rules -/

/-- `Added group rs rs'`: the rules `rs'` are `rs` with extra rules in between, and no extra rule
has an effect in the group. -/
inductive Rule.Added (group : String) : List Rule → List Rule → Prop where
  | nil : Added group [] []
  | keep {r rs rs'} (rest : Added group rs rs') : Added group (r :: rs) (r :: rs')
  | extra {r rs rs'} (elsewhere : r.isEnabled = true → group ∉ r.effectiveGroups)
      (rest : Added group rs rs') : Added group rs (r :: rs')

namespace Rule.Added

variable {group : String} {rs rs' qs qs' : List Rule}

theorem append (h : Added group rs rs') (h' : Added group qs qs') :
    Added group (rs ++ qs) (rs' ++ qs') := by
  induction h with
  | nil => exact h'
  | keep rest ih => exact .keep ih
  | extra elsewhere rest ih => exact .extra elsewhere ih

theorem filter_isEnabled (h : Added group rs rs') :
    Added group (rs.filter Rule.isEnabled) (rs'.filter Rule.isEnabled) := by
  induction h with
  | nil => exact .nil
  | @keep r rs rs' rest ih =>
      by_cases hr : r.isEnabled = true
      · rw [List.filter_cons_of_pos hr, List.filter_cons_of_pos hr]
        exact .keep ih
      · rw [List.filter_cons_of_neg hr, List.filter_cons_of_neg hr]
        exact ih
  | @extra r rs rs' elsewhere rest ih =>
      by_cases hr : r.isEnabled = true
      · rw [List.filter_cons_of_pos hr]
        exact .extra elsewhere ih
      · rw [List.filter_cons_of_neg hr]
        exact ih

theorem mem (h : Added group rs rs') {r : Rule} (hr : r ∈ rs) : r ∈ rs' := by
  induction h with
  | nil => exact hr
  | keep rest ih =>
      rcases List.mem_cons.mp hr with rfl | hmem
      · exact List.mem_cons_self
      · exact List.mem_cons_of_mem _ (ih hmem)
  | extra elsewhere rest ih => exact List.mem_cons_of_mem _ (ih hr)

/-- Extra rules give no matcher to the group. -/
theorem flatMap_matchersFor (h : Added group rs rs') (enabled : ∀ r ∈ rs', r.isEnabled = true) :
    rs'.flatMap (·.matchersFor group) = rs.flatMap (·.matchersFor group) := by
  induction h with
  | nil => rfl
  | keep rest ih =>
      rw [List.flatMap_cons, List.flatMap_cons,
        ih fun r hr => enabled r (List.mem_cons_of_mem _ hr)]
  | @extra r rs rs' elsewhere rest ih =>
      rw [List.flatMap_cons, Rule.matchersFor_eq_nil (elsewhere (enabled r List.mem_cons_self)),
        List.nil_append, ih fun r hr => enabled r (List.mem_cons_of_mem _ hr)]

end Rule.Added

/-- A declared field with extra rules. -/
structure Field.Added (group : String) (f f' : Field) : Prop where
  name : f'.name = f.name
  type : f'.type = f.type
  checked : f'.checked = f.checked
  rules : Rule.Added group f.rules f'.rules

theorem Field.Added.target? {group : String} {f f' : Field} (h : Field.Added group f f') :
    f'.target? = f.target? := by
  rw [Field.target?, Field.target?, h.type, h.checked]

namespace Setting

/-- Extra rules on declared fields and in the rule book, none of them with an effect in the group.
-/
structure Extended (w : Setting) (group : String) (w' : Setting) : Prop where
  fields : ∀ type,
    List.Forall₂ (Field.Added group) (w.schemas.of type).fields (w'.schemas.of type).fields
  book : ∀ owner field,
    Rule.Added group (w.book.rulesFor owner field) (w'.book.rulesFor owner field)

/-- Schemas listed side by side are extended where each of them is. -/
theorem forall₂_fields_of_listed {group : String} {ss ss' : Schemas}
    (h : List.Forall₂
      (fun e e' => e'.1 = e.1 ∧ List.Forall₂ (Field.Added group) e.2.fields e'.2.fields)
      ss.entries ss'.entries) (type : TypeKey) :
    List.Forall₂ (Field.Added group) (ss.of type).fields (ss'.of type).fields := by
  unfold Schemas.of
  generalize ss.entries = entries at h ⊢
  generalize ss'.entries = entries' at h ⊢
  induction h with
  | nil => exact .nil
  | @cons e e' entries entries' he rest ih =>
      obtain ⟨key, schema⟩ := e
      obtain ⟨key', schema'⟩ := e'
      obtain ⟨hkey, hfields⟩ := he
      cases hkey
      rw [List.lookup_cons, List.lookup_cons]
      split
      · exact hfields
      · exact ih

/-- The declarations of a type, each beside the declaration at its place in the other setting. -/
def counterparts (w w' : Setting) (type : TypeKey) : List (Field × Field) :=
  (w.schemas.of type).fields.zip (w'.schemas.of type).fields

/-! ## What extra rules leave alone -/

namespace Extended

variable {w w' : Setting} {group : String}

theorem enabledRules (h : w.Extended group w') {f f' : Field} (hf : Field.Added group f f')
    (type : TypeKey) : Rule.Added group (w.enabledRules type f) (w'.enabledRules type f') := by
  unfold Setting.enabledRules
  rw [hf.name]
  exact (hf.rules.append (h.book type.shortName f.name)).filter_isEnabled

/-- The matchers of the group are the same. -/
theorem matchersOn_eq (h : w.Extended group w') (type : TypeKey) (field : String) :
    w'.matchersOn group type field = w.matchersOn group type field := by
  unfold matchersOn
  have hfields := h.fields type
  generalize (w.schemas.of type).fields = fields at hfields ⊢
  generalize (w'.schemas.of type).fields = fields' at hfields ⊢
  induction hfields with
  | nil => rfl
  | @cons f f' fields fields' hf rest ih =>
      have hmatchers : (w'.enabledRules type f').flatMap (·.matchersFor group) =
          (w.enabledRules type f).flatMap (·.matchersFor group) :=
        (h.enabledRules hf type).flatMap_matchersFor fun r hr => List.of_mem_filter hr
      by_cases hn : f.name = field
      · have hn' : f'.name = field := hf.name.trans hn
        rw [List.filter_cons_of_pos (by simpa using hn'),
          List.filter_cons_of_pos (by simpa using hn), List.flatMap_cons, List.flatMap_cons, ih,
          hmatchers]
      · have hn' : ¬f'.name = field := fun heq => hn (hf.name.symm.trans heq)
        rw [List.filter_cons_of_neg (by simpa using hn'),
          List.filter_cons_of_neg (by simpa using hn), ih]

/-- Each declaration with its counterpart among those with extra rules. -/
theorem counterpart (h : w.Extended group w') {type : TypeKey} {p : Field × Field}
    (hp : p ∈ w.counterparts w' type) :
    p.1 ∈ (w.schemas.of type).fields ∧ p.2 ∈ (w'.schemas.of type).fields ∧
      Field.Added group p.1 p.2 :=
  ⟨(List.of_mem_zip hp).1, (List.of_mem_zip hp).2, List.forall₂_zip (h.fields type) hp⟩

theorem counterpart_at {type : TypeKey} {i : Nat} (hi : i < (w.schemas.of type).fields.length)
    (hi' : i < (w'.schemas.of type).fields.length) :
    ((w.schemas.of type).fields[i], (w'.schemas.of type).fields[i]) ∈ w.counterparts w' type := by
  refine List.mem_iff_getElem.mpr ⟨i, ?_, List.getElem_zip⟩
  rw [counterparts, List.length_zip]
  omega

/-- With fewer rules, a type still compiles. -/
theorem compiles (h : w.Extended group w') {type : TypeKey} (hc : w'.Compiles type) :
    w.Compiles type := by
  intro f hf r hr
  obtain ⟨i, hi, rfl⟩ := List.mem_iff_getElem.mp hf
  have hi' : i < (w'.schemas.of type).fields.length := (h.fields type).length_eq ▸ hi
  obtain ⟨-, hf', hadded⟩ := h.counterpart (counterpart_at hi hi')
  exact hc _ hf' r ((h.enabledRules hadded type).mem hr)

/-- Rules stay where they are. -/
theorem enabledRules_ne_nil (h : w.Extended group w') {f f' : Field} (hf : Field.Added group f f')
    {type : TypeKey} (hr : w.enabledRules type f ≠ []) : w'.enabledRules type f' ≠ [] := by
  obtain ⟨r, hmem⟩ := List.exists_mem_of_ne_nil _ hr
  exact List.ne_nil_of_mem ((h.enabledRules hf type).mem hmem)

end Extended

/-! ## Fields that get their first rule -/

/-- A declaration that had no rule with an effect has one now. -/
def FirstRule (w w' : Setting) (type : TypeKey) (p : Field × Field) : Prop :=
  w.enabledRules type p.1 = [] ∧ w'.enabledRules type p.2 ≠ []

/-- No walked field gets its first rule. -/
def Unwalked (w w' : Setting) : Prop :=
  ∀ type, ∀ p ∈ w.counterparts w' type, w.FirstRule w' type p → p.1.target? = none

/-- The same, and no field whose name has a matcher of the group on another declaration. -/
def Undisturbed (w : Setting) (group : String) (w' : Setting) : Prop :=
  ∀ type, ∀ p ∈ w.counterparts w' type, w.FirstRule w' type p →
    p.1.target? = none ∧ w.matchersOn group type p.1.name = []

namespace Extended

variable {w w' : Setting} {group : String}

/-- A declaration is treated as before, unless its first rule is an extra one. -/
theorem treatment_eq (h : w.Extended group w') (undisturbed : w.Undisturbed group w')
    {type : TypeKey} {p : Field × Field} (hp : p ∈ w.counterparts w' type) :
    w'.treatment group type p.2 = w.treatment group type p.1 := by
  obtain ⟨-, -, hadded⟩ := h.counterpart hp
  by_cases hr : w.enabledRules type p.1 = []
  · by_cases hr' : w'.enabledRules type p.2 = []
    · have hkind : w'.kind? type p.2 = w.kind? type p.1 := by
        rw [kind?_of_ruleless hr, kind?_of_ruleless hr', hadded.target?]
      rw [treatment, treatment, hkind, hadded.name, h.matchersOn_eq]
    · obtain ⟨htarget, hmatchers⟩ := undisturbed type p hp ⟨hr, hr'⟩
      rw [treatment_of_unwalked hr htarget, treatment_of_ruled hr', hadded.name, h.matchersOn_eq,
        if_pos hmatchers]
  · rw [treatment_of_ruled hr, treatment_of_ruled (h.enabledRules_ne_nil hadded hr), hadded.name,
      h.matchersOn_eq]

/-- **The plans of the group are the same** where no field is disturbed. -/
theorem plan_eq (h : w.Extended group w') (undisturbed : w.Undisturbed group w') :
    w'.plan group = w.plan group := by
  funext type
  refine List.ext_getElem (by simpa [plan] using (h.fields type).length_eq.symm) ?_
  intro i hi' hi
  simp only [plan, List.length_map] at hi hi'
  have hp := counterpart_at hi hi'
  have hadded := (h.counterpart hp).2.2
  simp only [plan, List.getElem_map, planned]
  rw [h.treatment_eq undisturbed hp, hadded.name]

end Extended

end Setting

/-! ## An object without values -/

namespace Direct

variable (d : Direct) (type : TypeKey) (name : String) {planned : List PlannedField}

/-- Without values, nothing that is ignored is missed. -/
theorem fields_of_ignored (h : ∀ f ∈ planned, f.name = name → f.treatment = .ignored) :
    d.fields (some [name]) type [] planned = .ok .passed := by
  induction planned with
  | nil => rw [fields]
  | cons f rest ih =>
      obtain ⟨hf, hrest⟩ := List.forall_mem_cons.mp h
      rw [fields]
      split
      · exact ih hrest
      · next within =>
          have hname : f.name = name := by simpa using within
          rw [field, hf hname]
          exact ih hrest

/-- Without values, the first field that is not ignored cannot be read. -/
theorem fields_of_read (h : ∃ f ∈ planned, f.name = name ∧ f.treatment ≠ .ignored) :
    d.fields (some [name]) type [] planned =
      .error ⟨type.shortName, name, "no such field"⟩ := by
  induction planned with
  | nil =>
      obtain ⟨f, hf, -⟩ := h
      cases hf
  | cons f rest ih =>
      rw [fields]
      split
      · next outside =>
          have hname : f.name ≠ name := by simpa using outside
          obtain ⟨g, hg, hgname, hread⟩ := h
          rcases List.mem_cons.mp hg with rfl | hmem
          · exact absurd hgname hname
          · exact ih ⟨g, hmem, hgname, hread⟩
      · next within =>
          have hname : f.name = name := by simpa using within
          cases ht : f.treatment with
          | ignored =>
              obtain ⟨g, hg, hgname, hread⟩ := h
              rw [field, ht]
              rcases List.mem_cons.mp hg with rfl | hmem
              · exact absurd ht hread
              · exact ih ⟨g, hmem, hgname, hread⟩
          | judged ms =>
              rw [field, ht, hname]
              rfl
          | walked =>
              rw [field_of_walked d type [] f ht, hname]
              rfl

end Direct

namespace Setting

/-! ## Isolation -/

/-- Checks in a group have the same result in both settings, whatever was requested before. -/
def Indistinguishable (w : Setting) (group : String) (w' : Setting) : Prop :=
  ∀ history history' now v selection,
    (w.evaluate (fun _ => now) group v selection (w.after history)).1 =
      (w'.evaluate (fun _ => now) group v selection (w'.after history')).1

/-- No name is declared twice for a type. -/
def DistinctNames (w : Setting) : Prop :=
  ∀ type, ((w.schemas.of type).fields.map Field.name).Nodup

/-- Where names are distinct, a field without rules has no matcher. -/
theorem DistinctNames.matchersOn_eq_nil {w : Setting} (h : w.DistinctNames) {group : String}
    {type : TypeKey} {f : Field} (hf : f ∈ (w.schemas.of type).fields)
    (hr : w.enabledRules type f = []) : w.matchersOn group type f.name = [] := by
  rw [matchersOn, List.flatMap_eq_nil_iff]
  intro g hg
  obtain ⟨hmem, hname⟩ := List.mem_filter.mp hg
  have heq : g = f := List.inj_on_of_nodup_map (h type) hmem hf (by simpa using hname)
  rw [heq, hr]
  rfl

namespace Extended

variable {w w' : Setting} {group : String}

theorem distinctNames (h : w.Extended group w') (hn : w.DistinctNames) : w'.DistinctNames := by
  intro type
  have hnames : (w'.schemas.of type).fields.map Field.name =
      (w.schemas.of type).fields.map Field.name := by
    have hfields := h.fields type
    generalize (w.schemas.of type).fields = fields at hfields ⊢
    generalize (w'.schemas.of type).fields = fields' at hfields ⊢
    induction hfields with
    | nil => rfl
    | cons hf rest ih => rw [List.map_cons, List.map_cons, hf.name, ih]
  rw [hnames]
  exact hn type

/-- Where names are distinct, it is enough that no walked field gets its first rule. -/
theorem undisturbed (h : w.Extended group w') (hn : w.DistinctNames) (hw : w.Unwalked w') :
    w.Undisturbed group w' := by
  intro type p hp hfirst
  exact ⟨hw type p hp hfirst, hn.matchersOn_eq_nil (h.counterpart hp).1 hfirst.1⟩

/-- **Without a disturbed field, checks in the group do not tell the settings apart.** -/
theorem indistinguishable {group : String} (h : w.Extended (groupNamed group) w')
    (compiles : ∀ type, w'.Compiles type) (hu : w.Undisturbed (groupNamed group) w') :
    w.Indistinguishable group w' := by
  intro history history' now v selection
  rw [evaluate_of_exact group now (w.exact_after history) v selection
      fun _ _ _ target _ => h.compiles (compiles target),
    evaluate_of_exact group now (w'.exact_after history') v selection
      fun _ _ _ target _ => compiles target,
    interpret, interpret, h.plan_eq hu]

/-- **A walked field that gets its first rule is missed.** In an object without values it cannot be
read; once it has a rule of another group, nobody tries. -/
theorem unwalked {group : String} (h : w.Extended (groupNamed group) w')
    (compiles : ∀ type, w'.Compiles type) (hn : w.DistinctNames)
    (hw : w.Indistinguishable group w') : w.Unwalked w' := by
  intro type p hp hfirst
  by_contra hwalked
  obtain ⟨hf, hf', hadded⟩ := h.counterpart hp
  have now : Instant := ⟨0, 0, by decide⟩
  have hread : Direct.value ⟨w.plan (groupNamed group), now⟩ (some [p.1.name]) (.object type []) =
      .error ⟨type.shortName, p.1.name, "no such field"⟩ := by
    rw [Direct.value, Direct.object]
    refine Direct.fields_of_read _ type p.1.name ⟨_, List.mem_map_of_mem hf, rfl, ?_⟩
    rw [planned, treatment_of_walked hfirst.1 hwalked]
    exact Treatment.noConfusion
  have hpass : Direct.value ⟨w'.plan (groupNamed group), now⟩ (some [p.1.name]) (.object type []) =
      .ok .passed := by
    rw [Direct.value, Direct.object]
    refine Direct.fields_of_ignored _ type p.1.name ?_
    intro q hq hname
    obtain ⟨f', hmem, rfl⟩ := List.mem_map.mp hq
    -- the name has no other declaration, so this is the field that got its first rule
    have heq : f' = p.2 :=
      List.inj_on_of_nodup_map (h.distinctNames hn type) hmem hf' (hname.trans hadded.name.symm)
    rw [planned, heq, treatment_of_ruled hfirst.2, h.matchersOn_eq, hadded.name,
      if_pos (hn.matchersOn_eq_nil hf hfirst.1)]
  have hsame := hw [] [] now (.object type []) (some [p.1.name])
  rw [evaluate_of_exact group now (w.exact_after []) _ _
      fun _ _ _ target _ => h.compiles (compiles target),
    evaluate_of_exact group now (w'.exact_after []) _ _ fun _ _ _ target _ => compiles target,
    interpret, interpret, hread, hpass] at hsame
  cases hsame

end Extended

/-! ## When extra rules make no difference -/

/-- **Group isolation.** With extra rules of other groups, all of which compile, checks in the group
have the same results as without them, provided that no field that gets its first rule was walked or
has a matcher of the group on another declaration of its name. Where names are distinct, they have
the same results exactly if no walked field gets its first rule. -/
theorem group_isolation_iff {w w' : Setting} {group : String}
    (extended : w.Extended (groupNamed group) w') (compiles : ∀ type, w'.Compiles type) :
    (w.Undisturbed (groupNamed group) w' → w.Indistinguishable group w') ∧
    (w.DistinctNames → (w.Indistinguishable group w' ↔ w.Unwalked w')) :=
  ⟨extended.indistinguishable compiles, fun distinct =>
    ⟨extended.unwalked compiles distinct, fun unwalked =>
      extended.indistinguishable compiles (extended.undisturbed distinct unwalked)⟩⟩

namespace Parcel

/-- The setting with a rule in the group `h` on the walked field. -/
def crowded : Setting where
  schemas := ⟨[
    (order, ⟨[⟨"x", .nested line, [⟨.values ["z"], ["h"], true, false⟩], true⟩]⟩),
    (line, ⟨[⟨"y", .leaf, [⟨.values ["a"], ["g"], true, false⟩], false⟩]⟩)]⟩
  book := .empty

theorem compiles_crowded (type : TypeKey) : crowded.Compiles type :=
  compiles_of_listed (by decide) type

theorem extended_crowded : setting.Extended (groupNamed "g") crowded where
  fields := forall₂_fields_of_listed <|
    .cons ⟨rfl, .cons ⟨rfl, rfl, rfl, .extra (by decide) .nil⟩ .nil⟩ <|
      .cons ⟨rfl, .cons ⟨rfl, rfl, rfl, .keep .nil⟩ .nil⟩ .nil
  book _ _ := .nil

theorem distinctNames : setting.DistinctNames :=
  Schemas.of_listed (P := fun _ schema => (schema.fields.map Field.name).Nodup) (by decide)
    fun _ => .nil

/-- The rule on the order takes its line out of the walk, so the settings can be told apart. -/
theorem distinguishable_crowded :
    setting.Extended (groupNamed "g") crowded ∧ (∀ type, crowded.Compiles type) ∧
      setting.DistinctNames ∧ ¬setting.Indistinguishable "g" crowded := by
  refine ⟨extended_crowded, compiles_crowded, distinctNames, ?_⟩
  rw [(group_isolation_iff extended_crowded compiles_crowded).2 distinctNames]
  intro hunwalked
  have htarget := hunwalked order
    (⟨"x", .nested line, [], true⟩,
      ⟨"x", .nested line, [⟨.values ["z"], ["h"], true, false⟩], true⟩)
    (by decide) ⟨by decide, by decide⟩
  cases htarget

/-- **A rule of another group hides a failure.** Without the rule in the group `h`, the order fails
in the group `g`; with it, the order passes there. -/
theorem not_isolated :
    setting.Extended (groupNamed "g") crowded ∧ (∀ type, crowded.Compiles type) ∧
      (setting.evaluate (fun _ => ⟨0, 0, by decide⟩) "g" parcel none .empty).1 =
        .ok ⟨false, "g", ["A.x: nested B failed",
          "B.y: value \"b\" is not accepted by values [\"a\"]"]⟩ ∧
      (crowded.evaluate (fun _ => ⟨0, 0, by decide⟩) "g" parcel none .empty).1 =
        .ok ⟨true, "g", []⟩ := by
  refine ⟨extended_crowded, compiles_crowded, ?_, ?_⟩
  · cbv
  · cbv

end Parcel

end Setting

end FieldRules
