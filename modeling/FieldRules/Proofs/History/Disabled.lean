import FieldRules.Proofs.History.Book
import FieldRules.Proofs.History.Request

/-!
# `Proofs.History.Disabled` — rules that are disabled

A disabled rule is kept among the rules of a field or of a rule book and has no effect. To say what
that means, the setting is compared with the one from which all disabled rules are removed: the same
rules have an effect in both, so they are twins. No call answers differently, be it that a disabled
rule would not compile, is the only one on a field that is to be walked, or is the only one that the
book has for a field. At most a warning about an entry of the book is missing.

## Contents
- **`Buckets.filter`**, items that are kept, with `Buckets.get_filter`.
- **`Setting.withoutDisabled`**, the setting without disabled rules, and **`twin_withoutDisabled`**.
- **`indexed_of_all_disabled`**: a field with disabled rules only is walked as one without rules.
- **`disabled_rules_leave_no_trace`**.
-/

namespace FieldRules

open Calendar

/-! ## Items that are kept -/

namespace Store.Buckets

variable {κ α : Type} [DecidableEq κ]

/-- The buckets with the items that are kept, as far as they have any. -/
def filterIn (keep : α → Bool) (entries : List (κ × List α)) : List (κ × List α) :=
  (entries.map fun e => (e.1, e.2.filter keep)).filter fun e => !e.2.isEmpty

omit [DecidableEq κ] in
theorem sublist_keys_filterIn (keep : α → Bool) (entries : List (κ × List α)) :
    ((filterIn keep entries).map Prod.fst).Sublist (entries.map Prod.fst) := by
  have hkeys : (entries.map fun e => (e.1, e.2.filter keep)).map Prod.fst =
      entries.map Prod.fst := by
    rw [List.map_map]
    rfl
  rw [← hkeys]
  exact List.filter_sublist.map Prod.fst

/-- The items that are kept, under their keys and in their order. -/
def filter (keep : α → Bool) (b : Buckets κ α) : Buckets κ α where
  entries := filterIn keep b.entries
  distinct := b.distinct.sublist (sublist_keys_filterIn keep b.entries)
  filled e he := by
    have hkept := (List.mem_filter.mp he).2
    simpa using hkept

theorem bucketIn_of_not_mem {entries : List (κ × List α)} {k : κ}
    (h : k ∉ entries.map Prod.fst) : bucketIn entries k = [] := by
  induction entries with
  | nil => rfl
  | cons e entries ih =>
      obtain ⟨k', xs⟩ := e
      rw [List.map_cons, List.mem_cons, not_or] at h
      rw [bucketIn, if_neg fun heq => h.1 heq.symm]
      exact ih h.2

theorem bucketIn_filterIn (keep : α → Bool) {entries : List (κ × List α)}
    (distinct : (entries.map Prod.fst).Nodup) (k : κ) :
    bucketIn (filterIn keep entries) k = (bucketIn entries k).filter keep := by
  induction entries with
  | nil => rfl
  | cons e entries ih =>
      obtain ⟨k', xs⟩ := e
      rw [List.map_cons, List.nodup_cons] at distinct
      have hrest : filterIn keep ((k', xs) :: entries) =
          if (xs.filter keep).isEmpty then filterIn keep entries
          else (k', xs.filter keep) :: filterIn keep entries := by
        unfold filterIn
        rw [List.map_cons, List.filter_cons]
        cases (xs.filter keep).isEmpty with
        | true => rfl
        | false => rfl
      rw [hrest, bucketIn]
      by_cases hk : k' = k
      · subst hk
        rw [if_pos rfl]
        cases hempty : (xs.filter keep).isEmpty with
        | false => rw [if_neg Bool.false_ne_true, bucketIn, if_pos rfl]
        | true =>
            -- the bucket is given up, and there is no other one for the key
            rw [if_pos rfl, ih distinct.2, bucketIn_of_not_mem distinct.1,
              List.isEmpty_iff.mp hempty]
            rfl
      · rw [if_neg hk, ← ih distinct.2]
        split
        · rfl
        · rw [bucketIn, if_neg hk]

/-- The bucket of a key has the items that are kept. -/
theorem get_filter (keep : α → Bool) (b : Buckets κ α) (k : κ) :
    (b.filter keep).get k = (b.get k).filter keep :=
  bucketIn_filterIn keep b.distinct k

end Store.Buckets

/-! ## Settings without disabled rules -/

/-- The book without disabled rules. -/
def RuleBook.withoutDisabled (b : RuleBook) : RuleBook :=
  ⟨b.rules.filter Rule.isEnabled⟩

/-- The field without disabled rules. -/
def Field.withoutDisabled (f : Field) : Field :=
  { f with rules := f.rules.filter Rule.isEnabled }

/-- The schema of a type without disabled rules. -/
def Schema.withoutDisabled (schema : Schema) : Schema :=
  ⟨schema.fields.map Field.withoutDisabled⟩

/-- The schemas without disabled rules. -/
def Schemas.withoutDisabled (ss : Schemas) : Schemas :=
  ⟨ss.entries.map fun e => (e.1, e.2.withoutDisabled)⟩

theorem RuleBook.rulesFor_withoutDisabled (b : RuleBook) (owner field : String) :
    b.withoutDisabled.rulesFor owner field = (b.rulesFor owner field).filter Rule.isEnabled :=
  b.rules.get_filter Rule.isEnabled (owner, field)

theorem Schemas.fields_withoutDisabled (ss : Schemas) (type : TypeKey) :
    (ss.withoutDisabled.of type).fields = (ss.of type).fields.map Field.withoutDisabled := by
  have hlookup : (ss.entries.map fun e => (e.1, e.2.withoutDisabled)).lookup type =
      (ss.entries.lookup type).map Schema.withoutDisabled :=
    lookup_map_snd (fun _ => Schema.withoutDisabled) type ss.entries
  unfold of withoutDisabled
  rw [hlookup]
  cases ss.entries.lookup type with
  | none => rfl
  | some schema => rfl

namespace Setting

/-- The setting without disabled rules, neither declared ones nor such of the book. -/
def withoutDisabled (w : Setting) : Setting :=
  ⟨w.schemas.withoutDisabled, w.book.withoutDisabled⟩

/-- Without disabled rules, the same rules have an effect. -/
theorem enabledRules_withoutDisabled (w : Setting) (type : TypeKey) (f : Field) :
    w.withoutDisabled.enabledRules type f.withoutDisabled = w.enabledRules type f := by
  show (f.rules.filter Rule.isEnabled ++
    w.book.withoutDisabled.rulesFor type.shortName f.name).filter Rule.isEnabled = _
  rw [RuleBook.rulesFor_withoutDisabled, ← List.filter_append, List.filter_filter, enabledRules]
  congr 1
  funext r
  exact Bool.and_self r.isEnabled

theorem twin_withoutDisabled (w : Setting) : w.Twin w.withoutDisabled where
  fields type := by
    show List.Forall₂ (w.TwinField w.withoutDisabled type) (w.schemas.of type).fields
      (w.schemas.withoutDisabled.of type).fields
    rw [Schemas.fields_withoutDisabled, List.forall₂_map_right_iff, List.forall₂_same]
    intro f _
    exact ⟨rfl, rfl, rfl, w.enabledRules_withoutDisabled type f⟩

/-! ## Fields with disabled rules only -/

theorem enabledRules_of_all_disabled {w : Setting} {type : TypeKey} {f : Field}
    (h : ∀ r ∈ f.rules ++ w.book.rulesFor type.shortName f.name, r.disabled = true) :
    w.enabledRules type f = [] := by
  rw [enabledRules, List.filter_eq_nil_iff]
  intro r hr
  rw [Rule.isEnabled, h r hr]
  exact Bool.false_ne_true

/-- **A field whose rules are all disabled is walked** where a field without rules is: the index of
its type lists it, and the type that it leads to is indexed as well. -/
theorem indexed_of_all_disabled {w : Setting} {type target : TypeKey} {f : Field} {kind : FieldKind}
    (declared : f ∈ (w.schemas.of type).fields) (leads : f.target? = some (kind, target))
    (disabled : ∀ r ∈ f.rules ++ w.book.rulesFor type.shortName f.name, r.disabled = true)
    {history : List Request} {entry : ClassIndex} {s : Session}
    (answered : w.ensureIndexed type (w.after history) = (.ok entry, s)) :
    ⟨f.name, kind⟩ ∈ entry.fields ∧
      (w.failures history .empty = [] → s.index.contains target = true) := by
  have hruleless := enabledRules_of_all_disabled disabled
  constructor
  · have hkind : w.kind? type f = some kind := by
      rw [kind?_of_ruleless hruleless, leads]
      rfl
    rw [entry_of_ensureIndexed (w.exact_after history) answered]
    exact List.mem_filterMap.mpr ⟨f, declared, by rw [hkind]; rfl⟩
  · intro clean
    have hclosed := (closed_after clean).ensureIndexed answered
    exact hclosed type target (ensureIndexed_closedBut answered).1
      (leads_iff.mpr ⟨f, declared, hruleless, kind, leads⟩)

/-! ## The same answers -/

/-- **Disabled rules leave no trace.** The setting without them, that is with the same types and
fields and with the rules of fields and of the book that are not disabled, in their order, answers
every sequence of calls in the same way, rule errors included, and has the same index and the same
registry after each of them. A field that leads to a type and has disabled rules only is listed in
the index as one that is walked, and the type that it leads to is indexed too if nothing has failed
before. -/
theorem disabled_rules_leave_no_trace (w : Setting) (calls : List Call) :
    w.withoutDisabled.transcript calls .empty = w.transcript calls .empty ∧
    w.withoutDisabled.schemas.types = w.schemas.types ∧
    (∀ type, (w.withoutDisabled.schemas.of type).fields =
      (w.schemas.of type).fields.map fun f =>
        { f with rules := f.rules.filter fun r => !r.disabled }) ∧
    (∀ owner field, w.withoutDisabled.book.rulesFor owner field =
      (w.book.rulesFor owner field).filter fun r => !r.disabled) ∧
    (∀ type, ∀ f ∈ (w.schemas.of type).fields, ∀ kind target,
      f.target? = some (kind, target) →
        (∀ r ∈ f.rules ++ w.book.rulesFor type.shortName f.name, r.disabled = true) →
          ∀ history entry s, w.ensureIndexed type (w.after history) = (.ok entry, s) →
            ⟨f.name, kind⟩ ∈ entry.fields ∧
              (w.failures history .empty = [] → s.index.contains target = true)) := by
  refine ⟨w.twin_withoutDisabled.transcript calls (.refl _), ?_, ?_, ?_, ?_⟩
  · show (w.schemas.entries.map _).map Prod.fst = w.schemas.entries.map Prod.fst
    rw [List.map_map]
    rfl
  · intro type
    exact w.schemas.fields_withoutDisabled type
  · intro owner field
    exact w.book.rulesFor_withoutDisabled owner field
  · intro type f declared kind target leads disabled history entry s answered
    exact indexed_of_all_disabled declared leads disabled answered

end Setting

end FieldRules
