import FieldRules.Proofs.Store.Tiers
import FieldRules.Proofs.Text.ByteOrder

/-!
# `Proofs.Document.Conversion` — the book of a document

A document has entries by type, field and position. Its listing goes through the types in order,
through the fields of each in order, and through the entries of each of these, so it is sorted by
places. A conversion follows the listing and stops at the first entry that is no rule, which is
therefore the one with the least place; and what the listing has for a field is what the document
has for it, so the book has it as well.

## Contents
- **`Dictionary.mem_entries_iff`** and **`Dictionary.flatMap_eq_of_get?`**, traversals of a map.
- **`RuleEntry.StatesOne`** and **`RuleEntry.toRule_eq_ok_iff`**, which entries are rules.
- **`EntryPlace`**, **`RuleDocument.at?`** and **`RuleDocument.placed_sorted`**.
- **`RuleBook.insertEntries_eq_ok_iff`** and **`RuleBook.insertEntries_eq_error_iff`**, one run.
- **`conversion_keeps_every_rule`**.
-/

namespace FieldRules

open Store Text

/-! ## Traversals of a map -/

namespace Store.Dictionary

variable {α β : Type}

/-- The entries are the keys with what they are mapped to. -/
theorem mem_entries_iff (d : Dictionary α) (key : String) (x : α) :
    (key, x) ∈ d.entries ↔ d.get? key = some x := by
  rw [get?, List.lookup_eq_some_iff]
  constructor
  · intro h
    obtain ⟨before, after, hsplit⟩ := List.append_of_mem h
    refine ⟨before, after, hsplit, fun e he => ?_⟩
    have hlt : e.1 < key := by
      have hsorted := d.sorted
      rw [hsplit, List.pairwise_append] at hsorted
      exact hsorted.2.2 e he _ List.mem_cons_self
    simpa using hlt.ne'
  · rintro ⟨before, after, hsplit, -⟩
    rw [hsplit]
    simp

/-- A traversal in which one key alone yields something yields what that key is mapped to. -/
theorem flatMap_eq_of_get? (d : Dictionary α) (key : String) (visit : String × α → List β)
    (h : ∀ e, e.1 ≠ key → visit e = []) :
    d.entries.flatMap visit = ((d.get? key).map fun x => visit (key, x)).getD [] := by
  obtain ⟨entries, sorted⟩ := d
  show entries.flatMap visit = ((entries.lookup key).map fun x => visit (key, x)).getD []
  induction entries with
  | nil => rfl
  | cons e rest ih =>
      obtain ⟨k, x⟩ := e
      rw [List.pairwise_cons] at sorted
      rw [List.flatMap_cons, List.lookup_cons]
      by_cases hk : k = key
      · subst hk
        -- the keys that follow are greater
        have hrest : rest.flatMap visit = [] := by
          rw [List.flatMap_eq_nil_iff]
          exact fun e he => h e (sorted.1 e he).ne'
        simp [hrest]
      · have hne : (key == k) = false := by simpa using Ne.symm hk
        rw [h (k, x) hk, List.nil_append, ih sorted.2, hne]

end Store.Dictionary

/-! ## Entries that are rules -/

namespace RuleEntry

/-- Exactly one of the three conditions is present. -/
def StatesOne (e : RuleEntry) : Prop :=
  [e.values.isSome, e.range.isSome, e.pattern.isSome].count true = 1

instance (e : RuleEntry) : Decidable e.StatesOne :=
  inferInstanceAs (Decidable (_ = _))

/-- The conditions are listed once each. -/
theorem length_conditions (e : RuleEntry) :
    e.conditions.length = [e.values.isSome, e.range.isSome, e.pattern.isSome].count true := by
  obtain ⟨values, range, pattern, groups, accept, disabled⟩ := e
  cases values <;> cases range <;> cases pattern <;> rfl

/-- An entry is a rule if it states one condition. -/
theorem toRule_eq_ok_iff (e : RuleEntry) : (∃ r, e.toRule = .ok r) ↔ e.StatesOne := by
  rw [StatesOne, ← length_conditions, toRule]
  rcases e.conditions with _ | ⟨c, _ | ⟨c', rest⟩⟩
  · simp
  · simp
  · simp

/-- The fault of an entry tells what it states instead: nothing, or several conditions by name. -/
theorem toRule_eq_error_iff (e : RuleEntry) (fault : RuleFault) :
    e.toRule = .error fault ↔
      (e.conditions = [] ∧ fault = .noCondition) ∨
      (1 < e.conditions.length ∧ fault = .ambiguous (e.conditions.map Prod.fst)) := by
  rw [toRule]
  rcases e.conditions with _ | ⟨c, _ | ⟨c', rest⟩⟩
  · simp [eq_comm]
  · simp
  · simp [eq_comm]

/-- The rule of an entry, if it is one. -/
def toRule? (e : RuleEntry) : Option Rule :=
  e.toRule.toOption

theorem toRule?_of_ok {e : RuleEntry} {r : Rule} (h : e.toRule = .ok r) : e.toRule? = some r := by
  rw [toRule?, h]
  rfl

/-- Where every entry is a rule, none is lost. -/
theorem map_ok_filterMap {es : List RuleEntry} (h : ∀ e ∈ es, e.StatesOne) :
    (es.filterMap toRule?).map Except.ok = es.map toRule := by
  induction es with
  | nil => rfl
  | cons e rest ih =>
      obtain ⟨r, hr⟩ := e.toRule_eq_ok_iff.mpr (h e List.mem_cons_self)
      rw [List.filterMap_cons_some (toRule?_of_ok hr), List.map_cons, List.map_cons, hr,
        ih fun e he => h e (List.mem_cons_of_mem _ he)]

end RuleEntry

/-! ## Places -/

/-- Where an entry stands in a document. -/
structure EntryPlace where
  owner : String
  field : String
  position : Nat
  deriving DecidableEq, Repr

/-- The order of the places: by type, then by field, both by their bytes, then by position. -/
def EntryPlace.Before (p q : EntryPlace) : Prop :=
  BytesBefore p.owner q.owner ∨
    p.owner = q.owner ∧
      (BytesBefore p.field q.field ∨ p.field = q.field ∧ p.position < q.position)

theorem EntryPlace.Before.asymm {p q : EntryPlace} (h : p.Before q) : ¬ q.Before p := by
  simp only [EntryPlace.Before, bytesBefore_iff] at h ⊢
  rintro (ho' | ⟨ho', hf' | ⟨hf', hp'⟩⟩)
  · rcases h with ho | ⟨ho, -⟩
    · exact lt_asymm ho ho'
    · exact ho'.ne' ho
  · rcases h with ho | ⟨-, hf | ⟨hf, -⟩⟩
    · exact ho.ne' ho'
    · exact lt_asymm hf hf'
    · exact hf'.ne' hf
  · rcases h with ho | ⟨-, hf | ⟨-, hp⟩⟩
    · exact ho.ne' ho'
    · exact hf.ne' hf'
    · exact lt_asymm hp hp'

namespace RuleDocument

/-- The entries on a field, none if the type or the field is absent. -/
def entriesFor (d : RuleDocument) (owner field : String) : List RuleEntry :=
  ((d.types.get? owner).bind (·.get? field)).getD []

/-- The entry at a place. -/
def at? (d : RuleDocument) (p : EntryPlace) : Option RuleEntry :=
  (d.entriesFor p.owner p.field)[p.position]?

/-- The rules on a field, in the order of the document. -/
def rulesFor (d : RuleDocument) (owner field : String) : List Rule :=
  (d.entriesFor owner field).filterMap RuleEntry.toRule?

/-- All entries in order, each with its place. -/
def placed (d : RuleDocument) : List (EntryPlace × RuleEntry) :=
  d.types.entries.flatMap fun (owner, fields) =>
    fields.entries.flatMap fun (field, entries) =>
      entries.zipIdx.map fun (e, position) => (⟨owner, field, position⟩, e)

theorem listing_eq (d : RuleDocument) :
    d.listing = d.placed.map fun x => (x.1.owner, x.1.field, x.2) := by
  have hentries (owner field : String) (entries : List RuleEntry) :
      (entries.map fun e => (owner, field, e)) =
        entries.zipIdx.map fun x => (owner, field, x.1) := by
    conv_lhs => rw [← List.zipIdx_map_fst 0 entries, List.map_map]
    rfl
  simp only [listing, placed, List.map_flatMap, List.map_map, Function.comp_def, hentries]

/-- The places in the listing are those of the document. -/
theorem mem_placed_iff (d : RuleDocument) (p : EntryPlace) (e : RuleEntry) :
    (p, e) ∈ d.placed ↔ d.at? p = some e := by
  obtain ⟨owner, field, position⟩ := p
  simp only [placed, List.mem_flatMap, List.mem_map, Prod.exists, Prod.mk.injEq,
    EntryPlace.mk.injEq, Dictionary.mem_entries_iff, List.mem_zipIdx_iff_getElem?, at?, entriesFor]
  constructor
  · rintro ⟨_, fields, hfields, _, entries, hentries, _, _, he, ⟨rfl, rfl, rfl⟩, rfl⟩
    rw [hfields, Option.bind_some, hentries]
    exact he
  · intro h
    cases hfields : d.types.get? owner with
    | none => simp [hfields] at h
    | some fields =>
        cases hentries : fields.get? field with
        | none => simp [hfields, hentries] at h
        | some entries =>
            rw [hfields, Option.bind_some, hentries] at h
            exact ⟨owner, fields, hfields, field, entries, hentries, e, position, h,
              ⟨rfl, rfl, rfl⟩, rfl⟩

/-- The listing follows the order of the places. -/
theorem placed_sorted (d : RuleDocument) : d.placed.Pairwise fun x y => x.1.Before y.1 := by
  refine List.pairwise_flatMap.mpr ⟨fun ⟨owner, fields⟩ _ => ?_, ?_⟩
  · refine List.pairwise_flatMap.mpr ⟨fun ⟨field, entries⟩ _ => ?_, ?_⟩
    · rw [List.pairwise_map]
      have hpositions : entries.zipIdx.Pairwise fun x y => x.2 < y.2 := by
        rw [← List.pairwise_map (f := Prod.snd), List.zipIdx_map_snd]
        exact List.pairwise_lt_range'
      exact hpositions.imp fun h => .inr ⟨rfl, .inr ⟨rfl, h⟩⟩
    · refine fields.sorted.imp fun hlt => ?_
      intro x hx y hy
      obtain ⟨_, -, rfl⟩ := List.mem_map.mp hx
      obtain ⟨_, -, rfl⟩ := List.mem_map.mp hy
      exact .inr ⟨rfl, .inl ((bytesBefore_iff _ _).mpr hlt)⟩
  · refine d.types.sorted.imp fun hlt => ?_
    intro x hx y hy
    obtain ⟨_, -, hx⟩ := List.mem_flatMap.mp hx
    obtain ⟨_, -, rfl⟩ := List.mem_map.mp hx
    obtain ⟨_, -, hy⟩ := List.mem_flatMap.mp hy
    obtain ⟨_, -, rfl⟩ := List.mem_map.mp hy
    exact .inl ((bytesBefore_iff _ _).mpr hlt)

/-- What the listing has for a field is what the document has for it. -/
theorem listedAt_listing (d : RuleDocument) (owner field : String) :
    listedAt d.listing owner field = d.entriesFor owner field := by
  rw [listedAt, listing, List.filterMap_flatMap,
    Dictionary.flatMap_eq_of_get? d.types owner]
  · rw [entriesFor]
    cases d.types.get? owner with
    | none => rfl
    | some fields =>
        rw [Option.map_some, Option.getD_some, Option.bind_some, List.filterMap_flatMap,
          Dictionary.flatMap_eq_of_get? fields field]
        · cases fields.get? field with
          | none => rfl
          | some entries => simp [List.filterMap_map]
        · intro e he
          simp [List.filterMap_map, he]
  · intro e he
    simp [List.filterMap_flatMap, List.filterMap_map, he]

/-- Before an entry in the listing are the entries at places before it, and no others. -/
theorem mem_placed_before {d : RuleDocument} {before after : List (EntryPlace × RuleEntry)}
    {p : EntryPlace} {e : RuleEntry} (h : d.placed = before ++ (p, e) :: after) (q : EntryPlace)
    (e' : RuleEntry) :
    (q, e') ∈ before ↔ d.at? q = some e' ∧ q.Before p := by
  have hsorted := d.placed_sorted
  rw [h, List.pairwise_append, List.pairwise_cons] at hsorted
  obtain ⟨-, ⟨hafter, -⟩, hbefore⟩ := hsorted
  rw [← mem_placed_iff, h, List.mem_append, List.mem_cons]
  constructor
  · exact fun hq => ⟨.inl hq, hbefore (q, e') hq (p, e) List.mem_cons_self⟩
  · rintro ⟨hq | heq | hq, hlt⟩
    · exact hq
    · obtain ⟨rfl, rfl⟩ := Prod.mk.inj heq
      exact absurd hlt hlt.asymm
    · exact absurd hlt (hafter (q, e') hq).asymm

end RuleDocument

/-! ## One run -/

/-- The rules of a listing of entries. -/
def ruleListing (l : List (String × String × RuleEntry)) : List (String × String × Rule) :=
  l.filterMap fun x => x.2.2.toRule?.map fun r => (x.1, x.2.1, r)

/-- The rules are listed for the fields that their entries are listed for. -/
theorem listedAt_ruleListing (l : List (String × String × RuleEntry)) (owner field : String) :
    listedAt (ruleListing l) owner field =
      (listedAt l owner field).filterMap RuleEntry.toRule? := by
  simp only [listedAt, ruleListing, List.filterMap_filterMap]
  refine List.filterMap_congr fun x _ => ?_
  by_cases h : x.1 = owner ∧ x.2.1 = field
  · cases hr : x.2.2.toRule? <;> simp [h, hr]
  · cases hr : x.2.2.toRule? <;> simp [h]

namespace RuleBook

/-- A run ends well if every entry is a rule, and has then added all rules in order. -/
theorem insertEntries_eq_ok_iff (b b' : RuleBook) (l : List (String × String × RuleEntry)) :
    b.insertEntries l = .ok b' ↔
      (∀ x ∈ l, x.2.2.StatesOne) ∧ b' = b.insertAll (ruleListing l) := by
  induction l generalizing b with
  | nil => simp [insertEntries, ruleListing, insertAll, eq_comm]
  | cons x rest ih =>
      obtain ⟨owner, field, e⟩ := x
      rw [insertEntries, List.forall_mem_cons, ← e.toRule_eq_ok_iff]
      cases hr : e.toRule with
      | error fault => simp
      | ok r =>
          have hrules : ruleListing ((owner, field, e) :: rest) =
              (owner, field, r) :: ruleListing rest := by
            simp [ruleListing, RuleEntry.toRule?_of_ok hr]
          simp only [ih, hrules, insertAll]
          simp

/-- A run that fails does so at the first entry that is no rule. -/
theorem insertEntries_eq_error_iff (b : RuleBook) (l : List (String × String × RuleEntry))
    (err : RuleError) :
    b.insertEntries l = .error err ↔
      ∃ before x after fault, l = before ++ x :: after ∧ (∀ y ∈ before, y.2.2.StatesOne) ∧
        x.2.2.toRule = .error fault ∧ err = ⟨x.1, x.2.1, fault⟩ := by
  induction l generalizing b with
  | nil => simp [insertEntries]
  | cons x rest ih =>
      obtain ⟨owner, field, e⟩ := x
      rw [insertEntries]
      cases hr : e.toRule with
      | error fault =>
          constructor
          · intro h
            obtain rfl := Except.error.inj h
            exact ⟨[], _, rest, fault, rfl, by simp, hr, rfl⟩
          · rintro ⟨_ | ⟨y, before⟩, x', after, fault', hsplit, hbefore, hfault, rfl⟩
            · obtain ⟨rfl, rfl⟩ := List.cons.inj hsplit
              obtain rfl := Except.error.inj (hr.symm.trans hfault)
              rfl
            · obtain ⟨rfl, rfl⟩ := List.cons.inj hsplit
              obtain ⟨r, hok⟩ := (e.toRule_eq_ok_iff).mpr (hbefore _ List.mem_cons_self)
              rw [hr] at hok
              nomatch hok
      | ok r =>
          rw [ih]
          constructor
          · rintro ⟨before, x', after, fault, rfl, hbefore, hfault, rfl⟩
            refine ⟨(owner, field, e) :: before, x', after, fault, rfl, ?_, hfault, rfl⟩
            exact List.forall_mem_cons.mpr ⟨e.toRule_eq_ok_iff.mp ⟨r, hr⟩, hbefore⟩
          · rintro ⟨_ | ⟨y, before⟩, x', after, fault, hsplit, hbefore, hfault, rfl⟩
            · obtain ⟨rfl, rfl⟩ := List.cons.inj hsplit
              rw [hr] at hfault
              nomatch hfault
            · obtain ⟨rfl, rfl⟩ := List.cons.inj hsplit
              have hrest := (List.forall_mem_cons.mp hbefore).2
              exact ⟨before, x', after, fault, rfl, hrest, hfault, rfl⟩

/-! ## The book of a document -/

/-- Every entry of the listing is a rule if every entry of the document is. -/
theorem forall_listing_iff (d : RuleDocument) :
    (∀ x ∈ d.listing, x.2.2.StatesOne) ↔ ∀ p e, d.at? p = some e → e.StatesOne := by
  simp only [d.listing_eq, List.forall_mem_map, ← d.mem_placed_iff, Prod.forall]

/-- The run over a document fails at the least place with an entry that is no rule. -/
theorem ofDocument_eq_error_iff (d : RuleDocument) (err : RuleError) :
    ofDocument d = .error err ↔
      ∃ p e fault, d.at? p = some e ∧ e.toRule = .error fault ∧ err = ⟨p.owner, p.field, fault⟩ ∧
        ∀ q e', d.at? q = some e' → q.Before p → e'.StatesOne := by
  rw [ofDocument, insertEntries_eq_error_iff, d.listing_eq]
  constructor
  · rintro ⟨before, x, after, fault, hsplit, hbefore, hfault, rfl⟩
    obtain ⟨before', rest, hplaced, rfl, hrest⟩ := List.map_eq_append_iff.mp hsplit
    obtain ⟨⟨p, e⟩, after', rfl, rfl, -⟩ := List.map_eq_cons_iff.mp hrest
    have hat : d.at? p = some e := by
      rw [← d.mem_placed_iff, hplaced]
      exact List.mem_append_right _ List.mem_cons_self
    refine ⟨p, e, fault, hat, hfault, rfl, fun q e' hq hlt => ?_⟩
    have hmem := (RuleDocument.mem_placed_before hplaced q e').mpr ⟨hq, hlt⟩
    exact hbefore _ (List.mem_map_of_mem hmem)
  · rintro ⟨p, e, fault, hat, hfault, rfl, hleast⟩
    obtain ⟨before, after, hplaced⟩ := List.append_of_mem ((d.mem_placed_iff p e).mpr hat)
    rw [hplaced, List.map_append, List.map_cons]
    refine ⟨_, _, _, fault, rfl, List.forall_mem_map.mpr fun x hx => ?_, hfault, rfl⟩
    obtain ⟨hq, hlt⟩ := (RuleDocument.mem_placed_before hplaced x.1 x.2).mp hx
    exact hleast x.1 x.2 hq hlt

/-- The book of a document has its rules added in order. -/
theorem ofDocument_eq_ok_iff (d : RuleDocument) (b : RuleBook) :
    ofDocument d = .ok b ↔
      (∀ p e, d.at? p = some e → e.StatesOne) ∧ b = empty.insertAll (ruleListing d.listing) := by
  rw [ofDocument, insertEntries_eq_ok_iff, forall_listing_iff]

/-- The rules that the book of a document has on a field, with those that are added later. -/
theorem rulesFor_ofDocument {d : RuleDocument} {b : RuleBook} (h : ofDocument d = .ok b)
    (later : List (String × String × Rule)) (owner field : String) :
    (b.insertAll later).rulesFor owner field =
      d.rulesFor owner field ++ listedAt later owner field := by
  obtain rfl := ((ofDocument_eq_ok_iff d b).mp h).2
  rw [rulesFor_insertAll, rulesFor_insertAll, rulesFor_empty, List.nil_append,
    listedAt_ruleListing, d.listedAt_listing, RuleDocument.rulesFor]

end RuleBook

/-- A document without entries on any field is one without entries at any place. -/
theorem RuleDocument.entriesFor_eq_nil_iff (d : RuleDocument) :
    (∀ owner field, d.entriesFor owner field = []) ↔ ∀ p, d.at? p = none := by
  constructor
  · intro h p
    rw [at?, h]
    rfl
  · intro h owner field
    have hfirst := h ⟨owner, field, 0⟩
    rw [at?, ← List.head?_eq_getElem?, List.head?_eq_none_iff] at hfirst
    exact hfirst

/-- **A document is converted without loss, and in order.** There is a book exactly if every entry
states one condition. Otherwise the error names the type and the field of the entry with the least
place among those that do not, with the fault of that entry. The rules of the book on a field are
those of the entries on it, one by one; the fields listed for a type are those with a rule; the book
is empty exactly if the document has no entry. Whatever is added later comes after the rules of its
own field and changes no other one, and the store that files by type first agrees all the time. -/
theorem conversion_keeps_every_rule (d : RuleDocument) :
    ((∃ b, RuleBook.ofDocument d = .ok b) ↔ ∀ p e, d.at? p = some e → e.StatesOne) ∧
    (∀ err, RuleBook.ofDocument d = .error err ↔
      ∃ p e fault, d.at? p = some e ∧ e.toRule = .error fault ∧ err = ⟨p.owner, p.field, fault⟩ ∧
        ∀ q e', d.at? q = some e' → q.Before p → e'.StatesOne) ∧
    ∀ b, RuleBook.ofDocument d = .ok b →
      (∀ owner field, (d.rulesFor owner field).map Except.ok =
        (d.entriesFor owner field).map RuleEntry.toRule) ∧
      b.Holds d.rulesFor ∧
      (b.isEmpty = true ↔ ∀ p, d.at? p = none) ∧
      ∀ later,
        ((b.insertAll later).Holds fun owner field =>
          d.rulesFor owner field ++ listedAt later owner field) ∧
        ((Tiers.empty.insertAll (ruleListing d.listing)).insertAll later).Agrees
          (b.insertAll later) := by
  refine ⟨?_, RuleBook.ofDocument_eq_error_iff d, fun b hb => ?_⟩
  · simp only [RuleBook.ofDocument_eq_ok_iff, exists_and_left, exists_eq, and_true]
  · obtain ⟨hall, hbook⟩ := (RuleBook.ofDocument_eq_ok_iff d b).mp hb
    have hrules (owner field : String) : (d.rulesFor owner field).map Except.ok =
        (d.entriesFor owner field).map RuleEntry.toRule := by
      refine RuleEntry.map_ok_filterMap fun e he => ?_
      obtain ⟨position, hposition⟩ := List.getElem?_of_mem he
      exact hall ⟨owner, field, position⟩ e hposition
    have hlater := RuleBook.rulesFor_ofDocument hb
    have hholds : b.Holds d.rulesFor := RuleBook.holds_of_rulesFor fun owner field => by
      simpa [listedAt, RuleBook.insertAll] using hlater [] owner field
    refine ⟨hrules, hholds, ?_, fun later => ⟨RuleBook.holds_of_rulesFor (hlater later), ?_⟩⟩
    · rw [hholds.isEmpty, ← d.entriesFor_eq_nil_iff]
      refine forall₂_congr fun owner field => ?_
      rw [← List.map_eq_nil_iff (f := Except.ok (ε := RuleFault)), hrules, List.map_eq_nil_iff]
    · rw [hbook]
      exact (Tiers.agrees_empty.insertAll _).insertAll later

/-- Two rules on one field, a field without rules, and a type without fields. -/
def openOrders : RuleDocument :=
  ⟨.ofList [
    ("Receipt", .empty),
    ("Order", .ofList [
      ("status", [
        ⟨some [.text "open", .null], none, none, [], true, false⟩,
        ⟨none, none, some "[a-z]+", ["audit"], false, true⟩]),
      ("note", [])])]⟩

theorem conversion_of_openOrders :
    ∃ b, RuleBook.ofDocument openOrders = .ok b ∧
      b.rulesFor "Order" "status" =
        [⟨.values ["open", "null"], [], true, false⟩,
          ⟨.pattern "[a-z]+", ["audit"], false, true⟩] ∧
      "note" ∉ b.fieldsFor "Order" ∧ ¬ b.isEmpty = true := by
  refine ⟨_, rfl, ?_⟩
  obtain ⟨-, hholds, hempty, -⟩ := (conversion_keeps_every_rule openOrders).2.2 _ rfl
  refine ⟨?_, ?_, ?_⟩
  · rw [hholds.rulesFor]
    decide +kernel
  · rw [hholds.fieldsFor]
    decide +kernel
  · rw [hempty]
    intro hnone
    have hfirst := hnone ⟨"Order", "status", 0⟩
    revert hfirst
    decide +kernel

end FieldRules
