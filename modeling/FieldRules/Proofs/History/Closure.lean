import FieldRules.Proofs.History.Request
import FieldRules.Proofs.Walk.Added
import Mathlib

/-!
# `Proofs.History.Closure` — the index is what the requested types reach

Whatever a request adds to the index is reached from the requested type (`ensureIndexed_added`). The
other direction is the harder one: a walk passes over types that are indexed or under way. Over a
whole history without a rule error nothing is lost by that, because the index is closed afterwards
(`closed_after`) and holds every requested type.

Which types are indexed is therefore a matter of which types were requested, not of the order or the
number of requests. An exact session has no further choice: the set of its types fixes its index and
what every slot resolves to.

## Contents
- **`contains_after_iff`**: the indexed types are those that the requested ones reach.
- **`index_answered_of_compiles`**: requests for types that reach no malformed rule end well.
- **`Exact.perm_classes`** and **`Exact.resolve_eq`**: exact sessions with the same types agree.
- **`index_is_reachable_closure`**, the statement on histories, and **`Ring.setting`**, three types
  that lead to each other and to themselves.
-/

namespace FieldRules

/-- The listed entries are those that are found. -/
theorem Index.mem_classes_iff (i : Index) (c : ClassIndex) :
    c ∈ i.classes ↔ i.get? c.type = some c := by
  constructor
  · intro hmem
    cases hget : i.get? c.type with
    | none =>
        have hc := (Index.contains_iff i c.type).mpr (List.mem_map_of_mem hmem)
        rw [(Index.get?_eq_none_iff i c.type).mp hget] at hc
        cases hc
    | some c' =>
        have htype := Index.type_of_get? hget
        have hmem' : c' ∈ i.classes := List.mem_of_find?_eq_some hget
        rw [List.inj_on_of_nodup_map i.distinct hmem' hmem htype]
  · exact List.mem_of_find?_eq_some

namespace Setting

/-! ## What a request adds -/

/-- A request adds only types that the requested one reaches. -/
theorem ensureIndexed_reached (w : Setting) (type : TypeKey) (s : Session) {found : TypeKey}
    (h : (w.ensureIndexed type s).2.index.contains found = true) :
    s.index.contains found = true ∨ w.Reaches type found :=
  (w.ensureIndexed_added type s h).imp_right ReachesNew.reaches

/-! ## Requests for types -/

/-- The history that requests types in order. -/
abbrev indexing (types : List TypeKey) : List Request :=
  types.map .index

/-- Requests for types add only what one of the types reaches. -/
theorem serveAll_reached (w : Setting) (types : List TypeKey) (s : Session) {found : TypeKey}
    (h : (w.serveAll (indexing types) s).index.contains found = true) :
    s.index.contains found = true ∨ ∃ type ∈ types, w.Reaches type found := by
  induction types generalizing s with
  | nil => exact .inl h
  | cons type types ih =>
      rcases ih _ h with hc | ⟨other, hmem, hpath⟩
      · refine (w.ensureIndexed_reached type s hc).imp_right fun hpath => ?_
        exact ⟨type, List.mem_cons_self, hpath⟩
      · exact .inr ⟨other, List.mem_cons_of_mem type hmem, hpath⟩

/-- A closed index holds what its types reach. -/
theorem Closed.reaches {w : Setting} {i : Index} (hs : w.Closed i) {type found : TypeKey}
    (indexed : i.contains type = true) (hpath : w.Reaches type found) :
    i.contains found = true := by
  induction hpath with
  | refl => exact indexed
  | tail _ hlead ih => exact hs _ _ ih hlead

/-- **The indexed types are those that the requested ones reach.** -/
theorem contains_after_iff {w : Setting} {types : List TypeKey}
    (answered : w.failures (indexing types) .empty = []) (found : TypeKey) :
    (w.after (indexing types)).index.contains found = true ↔
      ∃ type ∈ types, w.Reaches type found := by
  constructor
  · intro hc
    refine (w.serveAll_reached types .empty hc).resolve_left fun hempty => ?_
    cases hempty
  · rintro ⟨type, hmem, hpath⟩
    exact (closed_after answered).reaches
      (contains_of_requested answered (.inl (List.mem_map_of_mem hmem))) hpath

/-- Requests for types that reach no malformed rule end well. -/
theorem index_answered_of_compiles {w : Setting} {types : List TypeKey} {s : Session}
    (hs : w.Exact s) (h : ∀ type ∈ types, ∀ found, w.Reaches type found → w.Compiles found) :
    w.failures (indexing types) s = [] := by
  induction types generalizing s with
  | nil => rfl
  | cons type types ih =>
      obtain ⟨hfirst, hrest⟩ := List.forall_mem_cons.mp h
      obtain ⟨s', hok, hs', -⟩ := ensureIndexed_eq_ok hs hfirst
      have hserve : w.serve (.index type) s = (none, s') := by
        simp only [serve, hok, errorOf?]
      rw [indexing, List.map_cons, failures, hserve]
      exact ih hs' hrest

/-! ## Sessions with the same types -/

/-- Exact sessions with the same types find the same entries. -/
theorem Exact.get?_eq {w : Setting} {s s' : Session} (hs : w.Exact s) (hs' : w.Exact s')
    (same : ∀ type, s'.index.contains type = true ↔ s.index.contains type = true)
    (type : TypeKey) : s'.index.get? type = s.index.get? type := by
  cases hc : s.index.contains type with
  | true => rw [hs.entry type hc, hs'.entry type ((same type).mpr hc)]
  | false =>
      have hc' : s'.index.contains type = false := (Bool.eq_iff_iff.mpr (same type)).trans hc
      rw [(Index.get?_eq_none_iff _ _).mpr hc, (Index.get?_eq_none_iff _ _).mpr hc']

/-- **Exact sessions with the same types list the same entries,** in whatever order. -/
theorem Exact.perm_classes {w : Setting} {s s' : Session} (hs : w.Exact s) (hs' : w.Exact s')
    (same : ∀ type, s'.index.contains type = true ↔ s.index.contains type = true) :
    s'.index.classes.Perm s.index.classes := by
  have hnodup (i : Index) : i.classes.Nodup := List.Nodup.of_map ClassIndex.type i.distinct
  refine (List.perm_ext_iff_of_nodup (hnodup s'.index) (hnodup s.index)).mpr fun c => ?_
  rw [Index.mem_classes_iff, Index.mem_classes_iff, hs.get?_eq hs' same]

/-- **Exact sessions with the same types resolve every slot alike.** -/
theorem Exact.resolve_eq {w : Setting} {s s' : Session} (hs : w.Exact s) (hs' : w.Exact s')
    (same : ∀ type, s'.index.contains type = true ↔ s.index.contains type = true) (slot : Slot) :
    s'.registry.resolve slot = s.registry.resolve slot := by
  obtain ⟨group, type, field⟩ := slot
  cases hc : s.index.contains type with
  | true => rw [hs.resolve group type field hc, hs'.resolve group type field ((same type).mpr hc)]
  | false =>
      have hc' : s'.index.contains type = false := (Bool.eq_iff_iff.mpr (same type)).trans hc
      rw [hs.vacant group type field hc, hs'.vacant group type field hc']

/-! ## The closure of the requested types -/

/-- **The index is the closure of the requested types.** If every request for a type ends well, the
indexed types are exactly those that the requested ones reach. Requests for the same types in any
other order and number end well too, and leave the same entries in the index and the same answers in
every slot. -/
theorem index_is_reachable_closure {w : Setting} {types : List TypeKey}
    (answered : w.failures (types.map .index) .empty = []) :
    (∀ found, (w.after (types.map .index)).index.contains found = true ↔
      ∃ type ∈ types, w.Reaches type found) ∧
    ∀ types' : List TypeKey, (∀ type, type ∈ types' ↔ type ∈ types) →
      w.failures (types'.map .index) .empty = [] ∧
      (w.after (types'.map .index)).index.classes.Perm (w.after (types.map .index)).index.classes ∧
      (∀ type, (w.after (types'.map .index)).index.get? type =
        (w.after (types.map .index)).index.get? type) ∧
      ∀ slot, (w.after (types'.map .index)).registry.resolve slot =
        (w.after (types.map .index)).registry.resolve slot := by
  have hs := w.exact_after (indexing types)
  refine ⟨contains_after_iff answered, ?_⟩
  intro types' members
  -- all that the types reach is indexed, so it compiles, and the other requests end well
  have compiles : ∀ type ∈ types', ∀ found, w.Reaches type found → w.Compiles found := by
    intro type hmem found hpath
    exact hs.compiles found
      ((contains_after_iff answered found).mpr ⟨type, (members type).mp hmem, hpath⟩)
  have answered' : w.failures (indexing types') .empty = [] :=
    index_answered_of_compiles (Exact.empty w) compiles
  have same (found : TypeKey) : (w.after (indexing types')).index.contains found = true ↔
      (w.after (indexing types)).index.contains found = true := by
    rw [contains_after_iff answered', contains_after_iff answered]
    simp only [members]
  have hs' := w.exact_after (indexing types')
  exact ⟨answered', hs.perm_classes hs' same, hs.get?_eq hs' same, hs.resolve_eq hs' same⟩

namespace Ring

/-- A type that leads to itself and, through a list of lists, to the next one. -/
def first : TypeKey := ⟨"A", "A"⟩

/-- A type that leads back to the first one. -/
def second : TypeKey := ⟨"B", "B"⟩

/-- A type that only a field with a rule and a field that is not to be walked are declared to hold.
-/
def apart : TypeKey := ⟨"C", "C"⟩

/-- Two types that lead to each other. Fields that hold a third one lead nowhere. -/
def setting : Setting where
  schemas := ⟨[
    (first, ⟨[
      ⟨"self", .nested first, [], true⟩,
      ⟨"grid", .container .sequence (.container .set (.nested second)), [], true⟩,
      ⟨"loose", .nested apart, [], false⟩]⟩),
    (second, ⟨[
      ⟨"back", .nested first, [], true⟩,
      ⟨"ruled", .nested apart, [⟨.values ["x"], ["g"], true, false⟩], true⟩]⟩)]⟩
  book := .empty

/-- Requests for both types in the other order, one of them twice, leave the same entries. The type
apart is indexed only if the ring reaches it. -/
theorem same_from_either_side :
    setting.failures ([first, second].map .index) .empty = [] ∧
      ((setting.after ([first, second].map .index)).index.contains apart = true ↔
        ∃ type ∈ [first, second], setting.Reaches type apart) ∧
      (setting.after ([second, first, second].map .index)).index.classes.Perm
        (setting.after ([first, second].map .index)).index.classes := by
  have answered : setting.failures ([first, second].map .index) .empty = [] := by cbv
  obtain ⟨closure, same⟩ := index_is_reachable_closure answered
  refine ⟨answered, closure apart, (same [second, first, second] ?_).2.1⟩
  intro type
  simp only [List.mem_cons, List.not_mem_nil, or_false]
  exact ⟨fun h => h.elim .inr id, .inr⟩

end Ring

end Setting

end FieldRules
