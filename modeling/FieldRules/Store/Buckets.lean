/-!
# `FieldRules.Store.Buckets` — lists of items filed under keys

## Contents
- **`Buckets`**: each key that is in use has one bucket, and no bucket is empty.
- **`Buckets.push`** files an item last in the bucket of a key; **`Buckets.get`** is the bucket of a
  key.
- **Laws.** Filing adds the item to its own bucket and changes no other one; the total grows by one;
  the keys are those whose bucket is not empty.
-/

namespace FieldRules.Store

variable {κ α : Type} [DecidableEq κ]

/-- Items filed under keys, in the order of filing. -/
structure Buckets (κ α : Type) where
  entries : List (κ × List α)
  distinct : (entries.map Prod.fst).Nodup
  filled : ∀ e ∈ entries, e.2 ≠ []
  deriving DecidableEq, Repr

namespace Buckets

/-! ## Plain lists of buckets -/

/-- The bucket of a key. -/
def bucketIn : List (κ × List α) → κ → List α
  | [], _ => []
  | (k', xs) :: rest, k => if k' = k then xs else bucketIn rest k

/-- Adds an item to the bucket of a key, or a new bucket at the end. -/
def pushTo : List (κ × List α) → κ → α → List (κ × List α)
  | [], k, x => [(k, [x])]
  | (k', xs) :: rest, k, x =>
    if k' = k then (k', xs ++ [x]) :: rest else (k', xs) :: pushTo rest k x

theorem mem_keys_pushTo {es : List (κ × List α)} {k k' : κ} {x : α} :
    k' ∈ (pushTo es k x).map Prod.fst ↔ k' = k ∨ k' ∈ es.map Prod.fst := by
  induction es with
  | nil => simp [pushTo]
  | cons e es ih =>
      obtain ⟨k₀, xs⟩ := e
      by_cases h : k₀ = k
      · subst h
        simp [pushTo]
      · rw [pushTo, if_neg h, List.map_cons, List.mem_cons, ih, List.map_cons, List.mem_cons]
        exact or_left_comm

theorem nodup_pushTo {es : List (κ × List α)} (h : (es.map Prod.fst).Nodup) (k : κ) (x : α) :
    ((pushTo es k x).map Prod.fst).Nodup := by
  induction es with
  | nil => simp [pushTo]
  | cons e es ih =>
      obtain ⟨k₀, xs⟩ := e
      rw [List.map_cons, List.nodup_cons] at h
      by_cases hk : k₀ = k
      · simpa [pushTo, hk] using h
      · rw [pushTo, if_neg hk, List.map_cons, List.nodup_cons]
        refine ⟨fun hmem => ?_, ih h.2⟩
        rcases mem_keys_pushTo.mp hmem with rfl | hmem
        · exact hk rfl
        · exact h.1 hmem

theorem filled_pushTo {es : List (κ × List α)} (h : ∀ e ∈ es, e.2 ≠ []) (k : κ) (x : α) :
    ∀ e ∈ pushTo es k x, e.2 ≠ [] := by
  induction es with
  | nil => simp [pushTo]
  | cons e es ih =>
      obtain ⟨k₀, xs⟩ := e
      intro e' he'
      by_cases hk : k₀ = k
      · rw [pushTo, if_pos hk] at he'
        rcases List.mem_cons.mp he' with rfl | he'
        · simp
        · exact h e' (List.mem_cons_of_mem _ he')
      · rw [pushTo, if_neg hk] at he'
        rcases List.mem_cons.mp he' with rfl | he'
        · exact h _ List.mem_cons_self
        · exact ih (fun e he => h e (List.mem_cons_of_mem _ he)) e' he'

/-! ## Operations -/

/-- No item at all. -/
def empty : Buckets κ α :=
  ⟨[], List.nodup_nil, by simp⟩

/-- Files an item last under a key. -/
def push (b : Buckets κ α) (k : κ) (x : α) : Buckets κ α :=
  ⟨pushTo b.entries k x, nodup_pushTo b.distinct k x, filled_pushTo b.filled k x⟩

/-- The items filed under a key, in the order of filing. -/
def get (b : Buckets κ α) (k : κ) : List α :=
  bucketIn b.entries k

/-- The keys under which something is filed, in the order of their first use. -/
def keys (b : Buckets κ α) : List κ :=
  b.entries.map Prod.fst

/-- The number of items. -/
def size (b : Buckets κ α) : Nat :=
  b.entries.foldr (fun e n => e.2.length + n) 0

/-- Whether nothing is filed. -/
def isEmpty (b : Buckets κ α) : Bool :=
  b.entries.isEmpty

/-! ## Laws -/

@[simp]
theorem get_empty (k : κ) : (empty : Buckets κ α).get k = [] := rfl

theorem bucketIn_pushTo (es : List (κ × List α)) (k k' : κ) (x : α) :
    bucketIn (pushTo es k x) k' = if k' = k then bucketIn es k' ++ [x] else bucketIn es k' := by
  induction es with
  | nil => by_cases h : k = k' <;> simp [pushTo, bucketIn, h, eq_comm]
  | cons e es ih =>
      obtain ⟨k₀, xs⟩ := e
      by_cases hk : k₀ = k
      · subst hk
        by_cases h : k₀ = k'
        · simp [pushTo, bucketIn, h]
        · simp [pushTo, bucketIn, h, Ne.symm h]
      · by_cases h : k₀ = k'
        · subst h
          simp [pushTo, bucketIn, hk]
        · simp [pushTo, bucketIn, hk, h, ih]

/-- An item is filed last in its own bucket, and no other bucket changes. -/
theorem get_push (b : Buckets κ α) (k k' : κ) (x : α) :
    (b.push k x).get k' = if k' = k then b.get k' ++ [x] else b.get k' :=
  bucketIn_pushTo b.entries k k' x

@[simp]
theorem get_push_self (b : Buckets κ α) (k : κ) (x : α) : (b.push k x).get k = b.get k ++ [x] := by
  rw [get_push, if_pos rfl]

theorem get_push_of_ne (b : Buckets κ α) {k k' : κ} (h : k' ≠ k) (x : α) :
    (b.push k x).get k' = b.get k' := by
  rw [get_push, if_neg h]

theorem size_push (b : Buckets κ α) (k : κ) (x : α) : (b.push k x).size = b.size + 1 := by
  show (pushTo b.entries k x).foldr (fun e n => e.2.length + n) 0 = _
  unfold size
  generalize b.entries = es
  induction es with
  | nil => simp [pushTo]
  | cons e es ih =>
      obtain ⟨k₀, xs⟩ := e
      by_cases hk : k₀ = k
      · simp [pushTo, hk]
        omega
      · simp [pushTo, hk, ih]
        omega

theorem bucketIn_ne_nil_iff {es : List (κ × List α)} (h : ∀ e ∈ es, e.2 ≠ []) (k : κ) :
    bucketIn es k ≠ [] ↔ k ∈ es.map Prod.fst := by
  induction es with
  | nil => simp [bucketIn]
  | cons e es ih =>
      obtain ⟨k₀, xs⟩ := e
      have htail := ih fun e he => h e (List.mem_cons_of_mem _ he)
      by_cases hk : k₀ = k
      · subst hk
        simpa [bucketIn] using h _ List.mem_cons_self
      · rw [bucketIn, if_neg hk, htail, List.map_cons, List.mem_cons]
        exact ⟨Or.inr, fun hmem => hmem.resolve_left fun heq => hk heq.symm⟩

/-- The keys are those whose bucket is not empty. -/
theorem mem_keys (b : Buckets κ α) (k : κ) : k ∈ b.keys ↔ b.get k ≠ [] :=
  (bucketIn_ne_nil_iff b.filled k).symm

omit [DecidableEq κ] in
theorem nodup_keys (b : Buckets κ α) : b.keys.Nodup :=
  b.distinct

end Buckets

end FieldRules.Store
