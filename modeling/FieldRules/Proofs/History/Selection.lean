import FieldRules.Proofs.History.Ahead
import FieldRules.Proofs.Trace.Visits
import FieldRules.Proofs.Walk.Ending

/-!
# `Proofs.History.Selection` — a check field by field

A check of some fields of an object is made of checks of single fields. It goes through the fields
that the selection has in common with the index, in the order of declaration, so the order and the
repetition of names in the selection count for nothing, and unknown names neither. Its answer is that
of the first field that does not pass.

Each single check begins where the engine is now, while the check of many fields may have indexed
more types by the time it comes to a field. It has done so by requests that ended well, so it is
ahead, and the answer is the same.

What a field holds is always checked in full. The check of a single walked field is the check of
what it holds, without a selection; only the entry for the object in which the failure is comes in
front.

## Contents
- **`selects`**, and **`checkFields_congr`**: selections that agree on the indexed fields.
- **`checkFields_alone`** and **`checkFields_first`**: one field, and the first one that does not
  pass.
- **`Framed`** and **`checkNested_framed`**: a walked field and what it holds.
- **`selection_decomposes`**.
-/

namespace FieldRules

open Calendar

/-- Whether a selection has a field; without one, all fields are selected. -/
def selects (selection : Option (List String)) (field : String) : Bool :=
  selection.all (·.contains field)

namespace Check

variable (c : Check) {type : TypeKey} {values : List (String × Reading)}

/-! ## Fields of an object -/

theorem checkFields_cons (selection : Option (List String)) (f : IndexedField)
    (rest : List IndexedField) (chain : Chain) (s : Session) :
    c.checkFields selection type values (f :: rest) chain s =
      if selects selection f.name then
        proceed (c.checkField type values f chain s) (c.checkFields selection type values rest)
      else c.checkFields selection type values rest chain s := by
  rw [checkFields]
  cases selection with
  | none => rfl
  | some names =>
      show (if (!names.contains f.name) = true then _ else _) =
        if names.contains f.name = true then _ else _
      cases names.contains f.name with
      | true => rfl
      | false => rfl

/-- Selections that agree on the fields are the same. -/
theorem checkFields_congr {selection selection' : Option (List String)}
    {fields : List IndexedField}
    (same : ∀ f ∈ fields, selects selection f.name = selects selection' f.name) :
    c.checkFields selection type values fields = c.checkFields selection' type values fields := by
  induction fields with
  | nil =>
      funext chain s
      rw [checkFields, checkFields]
  | cons f rest ih =>
      obtain ⟨hfirst, hrest⟩ := List.forall_mem_cons.mp same
      funext chain s
      rw [checkFields_cons, checkFields_cons, hfirst, ih hrest]

theorem checkFields_of_unselected {selection : Option (List String)} {fields : List IndexedField}
    (unselected : ∀ f ∈ fields, selects selection f.name = false) :
    c.checkFields selection type values fields = fun chain s => (.ok (true, chain), s) := by
  induction fields with
  | nil =>
      funext chain s
      rw [checkFields]
  | cons f rest ih =>
      obtain ⟨hfirst, hrest⟩ := List.forall_mem_cons.mp unselected
      funext chain s
      rw [checkFields_cons, hfirst, ih hrest]
      rfl

/-- Going on with nothing is to stop. -/
theorem proceed_nothing (p : Progress) : proceed p (fun chain s => (.ok (true, chain), s)) = p := by
  obtain ⟨r, s⟩ := p
  cases r with
  | error e => rfl
  | ok ended =>
      obtain ⟨passed, chain⟩ := ended
      cases passed with
      | true => rfl
      | false => rfl

/-- With its name as the selection, a field is checked alone. -/
theorem checkFields_alone {fields : List IndexedField}
    (distinct : (fields.map IndexedField.name).Nodup) {f : IndexedField} (hf : f ∈ fields) :
    c.checkFields (some [f.name]) type values fields = c.checkField type values f := by
  induction fields with
  | nil => cases hf
  | cons g rest ih =>
      obtain ⟨hfresh, distinct⟩ := List.nodup_cons.mp distinct
      have hother {a b : IndexedField} (hne : b.name ≠ a.name) :
          selects (some [a.name]) b.name = false := by
        simpa [selects] using hne
      funext chain s
      rw [checkFields_cons]
      rcases List.mem_cons.mp hf with rfl | hf
      · have hself : selects (some [f.name]) f.name = true := by simp [selects]
        have hrest : ∀ g ∈ rest, selects (some [f.name]) g.name = false := fun g hg =>
          hother fun heq => hfresh (heq ▸ List.mem_map_of_mem hg)
        rw [hself, if_pos rfl, c.checkFields_of_unselected hrest, proceed_nothing]
      · have hne : g.name ≠ f.name := fun heq => hfresh (heq ▸ List.mem_map_of_mem hf)
        rw [hother hne, ih distinct hf]
        rfl

/-- **The first field that does not pass decides,** with the answer that it has alone in a session
that is behind. -/
theorem checkFields_first (still : c.Still) (selection : Option (List String))
    (fields : List IndexedField) {s t : Session} (h : c.setting.Ahead s t)
    (indexed : s.index.contains type = true) {alone : IndexedField → Except CheckError Verdict}
    (halone : ∀ f ∈ fields,
      alone f = (verdictOf c.group (c.checkField type values f .empty s)).1) :
    (verdictOf c.group (c.checkFields selection type values fields .empty t)).1 =
      match fields.find? fun f => selects selection f.name && !passes (alone f) with
      | some f => alone f
      | none => .ok ⟨true, c.group, []⟩ := by
  induction fields generalizing t with
  | nil =>
      rw [checkFields]
      rfl
  | cons f rest ih =>
      obtain ⟨hfirst, hrest⟩ := List.forall_mem_cons.mp halone
      rw [checkFields_cons, List.find?_cons]
      cases selects selection f.name with
      | false => exact ih h hrest
      | true =>
          have hcourse :=
            still.sideBySide.checkField type values f .empty h indexed trivial fun _ _ => trivial
          have hanswer : alone f = (verdictOf c.group (c.checkField type values f .empty t)).1 :=
            hfirst.trans (congrArg (Except.map _) hcourse.answer.symm)
          have hgoes := c.checkField_goes type values f .empty t
          have hworked := hgoes.worked
          have hended := hgoes.ended
          generalize c.checkField type values f .empty t = q at hanswer hworked hended ⊢
          rw [hanswer]
          cases hended with
          | passed => exact ih (h.works hworked.works) hrest
          | failed recorded => exact hanswer.symm
          | malformed => exact hanswer.symm
          | unread => exact hanswer.symm

end Check

/-! ## A walked field and what it holds -/

/-- `Framed place v chain p q`: the check `p` of a value on its own and the walk `q` to the same value
at a place have ended alike, but for one entry for the object in which a failure is. -/
inductive Framed (place : Place) (v : Value) (chain : Chain) : Progress → Progress → Prop where
  | passed {s} : Framed place v chain (.ok (true, chain), s) (.ok (true, chain), s)
  | failed {positions target inner entries s}
      (found : v.at? positions = some (.object target inner)) :
      Framed place v chain (.ok (false, ⟨chain.entries ++ entries⟩), s)
        (.ok (false, ⟨chain.entries ++
          Hop.entry ⟨⟨place.type, place.field, place.positions ++ positions⟩, target⟩ ::
            entries⟩), s)
  | ended {e s} : Framed place v chain (.error e, s) (.error e, s)

namespace Check

variable (c : Check)

/-- Elements of a sequence, behind the ones before. -/
theorem checkItems_framed {place : Place} {chain : Chain} (items : List Value)
    (hinside : ∀ v ∈ items, ∀ place s,
      Framed place v chain (c.checkValue none v chain s) (c.checkNested place.path v chain s)) :
    ∀ before s, Framed place (.seq (before ++ items)) chain (c.checkValues none items chain s)
      (c.checkItems place.path before.length items chain s) := by
  induction items with
  | nil =>
      intro before s
      rw [checkValues, checkItems]
      exact .passed
  | cons v rest ih =>
      intro before s
      obtain ⟨hfirst, hrest⟩ := List.forall_mem_cons.mp hinside
      have hframed := hfirst (place.element before.length) s
      rw [checkValues, checkItems, ← place.path_element]
      generalize c.checkValue none v chain s = p at hframed ⊢
      generalize c.checkNested (place.element before.length).path v chain s = q at hframed ⊢
      cases hframed with
      | @passed s' =>
          have hnext := ih hrest (before ++ [v]) s'
          rw [List.append_assoc, List.singleton_append, List.length_append] at hnext
          exact hnext
      | ended => exact .ended
      | @failed positions target inner entries s' found =>
          have hfound : (Value.seq (before ++ v :: rest)).at? (before.length :: positions) =
              some (.object target inner) := by
            simpa [Value.at?] using found
          show Framed place (.seq (before ++ v :: rest)) chain _
            (.ok (false, ⟨chain.entries ++ Hop.entry ⟨⟨place.type, place.field,
              (place.positions ++ [before.length]) ++ positions⟩, target⟩ :: entries⟩), s')
          rw [← List.append_cons]
          exact .failed hfound

/-- **The walk to what a field holds is the check of it on its own,** without a selection. -/
theorem checkNested_framed (v : Value) (chain : Chain) :
    ∀ place s,
      Framed place v chain (c.checkValue none v chain s) (c.checkNested place.path v chain s) := by
  induction v using Value.held_induction with
  | object type values ih =>
      intro place s
      have hended := (c.checkObject_goes none type values chain s).ended
      rw [checkValue, checkNested_object]
      generalize c.checkObject none type values chain s = p at hended ⊢
      cases hended with
      | passed => exact .passed
      | malformed => exact .ended
      | unread => exact .ended
      | @failed entries s recorded =>
          show Framed place (.object type values) chain _
            (.ok (false, (Chain.mk (chain.entries ++ entries)).failAt chain.mark
              (Hop.entry ⟨⟨place.type, place.field, place.positions⟩, type⟩)), s)
          rw [Chain.failAt_mark, ← List.append_nil place.positions]
          exact .failed rfl
  | seq items ih =>
      intro place s
      rw [checkValue, checkNested]
      exact c.checkItems_framed items ih [] s
  | leaf v hleaf =>
      intro place s
      rw [c.checkValue_of_leaf none hleaf, c.checkNested_of_leaf place.path hleaf]
      exact .passed

end Check

/-- `HeldIn type field v r r'`: the check of a value has the answer `r`, and the check of the field
that holds it has the answer `r'`. Where the value does not pass, the entry for an object in it comes
in front of the chain. -/
inductive HeldIn (type : TypeKey) (field : String) (v : Value) :
    Except CheckError Verdict → Except CheckError Verdict → Prop where
  | passed {group} : HeldIn type field v (.ok ⟨true, group, []⟩) (.ok ⟨true, group, []⟩)
  | failed {group chain positions target inner}
      (found : v.at? positions = some (.object target inner)) :
      HeldIn type field v (.ok ⟨false, group, chain⟩)
        (.ok ⟨false, group, Hop.entry ⟨⟨type, field, positions⟩, target⟩ :: chain⟩)
  | ended {e} : HeldIn type field v (.error e) (.error e)

theorem Framed.heldIn {type : TypeKey} {field : String} {v : Value} {p q : Progress}
    (h : Framed ⟨type, field, []⟩ v .empty p q) (group : String) :
    HeldIn type field v (verdictOf group p).1 (verdictOf group q).1 ∧ q.2 = p.2 := by
  cases h with
  | passed => exact ⟨.passed, rfl⟩
  | failed found => exact ⟨.failed found, rfl⟩
  | ended => exact ⟨.ended, rfl⟩

namespace Setting

/-! ## Selections -/

/-- The indexed fields of a type are some of the declared ones, in the same order. -/
theorem names_indexed_sublist (w : Setting) (type : TypeKey) (fields : List Field) :
    ((w.indexed type fields).map IndexedField.name).Sublist (fields.map Field.name) := by
  induction fields with
  | nil => exact .slnil
  | cons f rest ih =>
      cases hkind : w.kind? type f with
      | none =>
          rw [indexed_cons_of_none hkind]
          exact ih.cons f.name
      | some kind =>
          rw [indexed_cons_of_some hkind]
          exact ih.cons_cons f.name

/-- The check of an object whose type can be indexed goes through the indexed fields. -/
theorem evaluate_object {w : Setting} {type : TypeKey} {s : Session} {entry : ClassIndex}
    (indexable : (w.ensureIndexed type s).1 = .ok entry) (clock : Nat → Instant) (group : String)
    (values : List (String × Reading)) (selection : Option (List String)) :
    w.evaluate clock group (.object type values) selection s =
      verdictOf (groupNamed group)
        (Check.checkFields ⟨w, groupNamed group, clock⟩ selection type values entry.fields .empty
          (w.ensureIndexed type s).2) := by
  rw [evaluate_eq, Check.checkValue, Check.checkObject]
  dsimp only
  cases hr : w.ensureIndexed type s with
  | mk r s₁ =>
      rw [hr] at indexable
      cases indexable
      rfl

/-- **A check decomposes into its fields.** Whatever was requested before, take an object whose type
has distinct field names and can be indexed, any group, and a clock that stands still.

* Selections that have the same indexed fields lead to the same answer and the same session.
* The answer for a selection, or for all fields, is that of the first selected indexed field, in the
  order of declaration, whose check alone does not pass; where there is none, the object passes with
  no entries. Each of these checks alone begins where the engine is now.
* The check of a walked field alone is the check of all that the field holds, begun with the type of
  the object indexed: it leaves the same session, and its answer has the entry for an object in the
  field in front, if that object does not pass. -/
theorem selection_decomposes (w : Setting) (history : List Request) {type : TypeKey}
    {entry : ClassIndex} (distinct : ((w.schemas.of type).fields.map Field.name).Nodup)
    (indexable : (w.ensureIndexed type (w.after history)).1 = .ok entry)
    (values : List (String × Reading)) (now : Instant) (group : String) :
    (∀ names names', (∀ f ∈ entry.fields, f.name ∈ names ↔ f.name ∈ names') →
      w.evaluate (fun _ => now) group (.object type values) (some names) (w.after history) =
        w.evaluate (fun _ => now) group (.object type values) (some names') (w.after history)) ∧
    (∀ selection,
      (w.evaluate (fun _ => now) group (.object type values) selection (w.after history)).1 =
        match entry.fields.find? fun f => selects selection f.name &&
          !passes (w.evaluate (fun _ => now) group (.object type values) (some [f.name])
            (w.after history)).1 with
        | some f => (w.evaluate (fun _ => now) group (.object type values) (some [f.name])
            (w.after history)).1
        | none => .ok ⟨true, groupNamed group, []⟩) ∧
    ∀ f ∈ entry.fields, f.kind ≠ .rules → ∀ v, Value.read type values f.name = .ok v →
      HeldIn type f.name v
        (w.evaluate (fun _ => now) group v none (w.ensureIndexed type (w.after history)).2).1
        (w.evaluate (fun _ => now) group (.object type values) (some [f.name])
          (w.after history)).1 ∧
      (w.evaluate (fun _ => now) group (.object type values) (some [f.name])
          (w.after history)).2 =
        (w.evaluate (fun _ => now) group v none (w.ensureIndexed type (w.after history)).2).2 := by
  have hrequest : w.ensureIndexed type (w.after history) =
      (.ok entry, (w.ensureIndexed type (w.after history)).2) := Prod.ext indexable rfl
  have hexact := w.exact_after history
  have hnames : (entry.fields.map IndexedField.name).Nodup := by
    rw [entry_of_ensureIndexed hexact hrequest]
    exact distinct.sublist (w.names_indexed_sublist type (w.schemas.of type).fields)
  have hindexed := (ensureIndexed_closedBut hrequest).1
  have hahead := Ahead.refl (hexact.steps (w.ensureIndexed_steps type (w.after history)))
  have halone : ∀ f ∈ entry.fields,
      w.evaluate (fun _ => now) group (.object type values) (some [f.name]) (w.after history) =
        verdictOf (groupNamed group) (Check.checkField ⟨w, groupNamed group, fun _ => now⟩ type
          values f .empty (w.ensureIndexed type (w.after history)).2) := by
    intro f hf
    rw [evaluate_object indexable, Check.checkFields_alone _ hnames hf]
  refine ⟨fun names names' same => ?_, fun selection => ?_, fun f hf hkind v hread => ?_⟩
  · have hselects : ∀ f ∈ entry.fields,
        selects (some names) f.name = selects (some names') f.name := by
      intro f hf
      show names.contains f.name = names'.contains f.name
      rw [Bool.eq_iff_iff, List.contains_iff_mem, List.contains_iff_mem]
      exact same f hf
    rw [evaluate_object indexable, evaluate_object indexable, Check.checkFields_congr _ hselects]
  · rw [evaluate_object indexable]
    exact Check.checkFields_first ⟨w, groupNamed group, fun _ => now⟩ (fun _ _ => rfl) selection
      entry.fields hahead hindexed fun f hf => congrArg Prod.fst (halone f hf)
  · rw [halone f hf, Check.checkField_of_walked _ type values f .empty _ hkind, hread,
      evaluate_eq]
    exact (Check.checkNested_framed ⟨w, groupNamed group, fun _ => now⟩ v .empty
      ⟨type, f.name, []⟩ _).heldIn (groupNamed group)

namespace Delivery

def parcel : TypeKey := ⟨"P", "Parcel"⟩

def item : TypeKey := ⟨"I", "Item"⟩

/-- A parcel holds an item, and both have a rule on their codes. -/
def setting : Setting where
  schemas := ⟨[
    (parcel, ⟨[
      ⟨"content", .nested item, [], true⟩,
      ⟨"code", .leaf, [⟨.values ["x"], ["g"], true, false⟩], false⟩]⟩),
    (item, ⟨[⟨"code", .leaf, [⟨.values ["x"], ["g"], true, false⟩], false⟩]⟩)]⟩
  book := .empty

/-- Both codes are wrong. -/
def values : List (String × Reading) :=
  [("content", .value (.object item [("code", .value (.str "y"))])), ("code", .value (.str "z"))]

def now : Instant := ⟨0, 0, by decide⟩

/-- The content decides, because it is declared first. Its own code is checked, although the
selection does not list that name. -/
theorem content_decides :
    ((setting.schemas.of parcel).fields.map Field.name).Nodup ∧
      (setting.ensureIndexed parcel (setting.after [.prepare item])).1 =
        .ok (setting.entryOf parcel) ∧
      (setting.evaluate (fun _ => now) "g" (.object parcel values) none
          (setting.after [.prepare item])).1 =
        (setting.evaluate (fun _ => now) "g" (.object parcel values) (some ["content"])
          (setting.after [.prepare item])).1 ∧
      (setting.evaluate (fun _ => now) "g" (.object parcel values) (some ["content"])
          (setting.after [.prepare item])).1 =
        .ok ⟨false, "g", ["Parcel.content: nested Item failed",
          "Item.code: value \"y\" is not accepted by values [\"x\"]"]⟩ := by
  have distinct : ((setting.schemas.of parcel).fields.map Field.name).Nodup := by decide +kernel
  have indexable : (setting.ensureIndexed parcel (setting.after [.prepare item])).1 =
      .ok (setting.entryOf parcel) := by cbv
  have first := (selection_decomposes setting [.prepare item] distinct indexable values now "g").2.1
    none
  have found : (setting.entryOf parcel).fields.find? (fun f => selects none f.name &&
      !passes (setting.evaluate (fun _ => now) "g" (.object parcel values) (some [f.name])
        (setting.after [.prepare item])).1) = some ⟨"content", .nested⟩ := by
    cbv
  rw [found] at first
  exact ⟨distinct, indexable, first, by cbv⟩

end Delivery

end Setting

end FieldRules
