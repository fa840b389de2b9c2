/-!
# `FieldRules.Store.Dictionary` — texts mapped to values, in the order of the texts

## Contents
- **`Dictionary`**, entries with strictly ascending keys. Texts are ordered by code points.
- **`Dictionary.insert`**, which replaces what a key had before, and **`Dictionary.ofList`**, where
  the last of several entries with one key wins.
-/

namespace FieldRules.Store

variable {α : Type}

/-- A finite map from texts, its entries in ascending order of the keys. -/
structure Dictionary (α : Type) where
  entries : List (String × α)
  sorted : entries.Pairwise (·.1 < ·.1)
  deriving DecidableEq, Repr

namespace Dictionary

/-- Puts an entry in its place. -/
def place (key : String) (x : α) : List (String × α) → List (String × α)
  | [] => [(key, x)]
  | (k, y) :: rest =>
    if key < k then (key, x) :: (k, y) :: rest
    else if key = k then (key, x) :: rest
    else (k, y) :: place key x rest

theorem fst_mem_place {key : String} {x : α} {es : List (String × α)} {e : String × α}
    (h : e ∈ place key x es) : e.1 = key ∨ ∃ y, (e.1, y) ∈ es := by
  induction es with
  | nil =>
      rw [place, List.mem_singleton] at h
      exact .inl (h ▸ rfl)
  | cons e₀ es ih =>
      obtain ⟨k, y⟩ := e₀
      rw [place] at h
      split at h
      · rcases List.mem_cons.mp h with rfl | h
        · exact .inl rfl
        · exact .inr ⟨e.2, h⟩
      · split at h
        · rcases List.mem_cons.mp h with rfl | h
          · exact .inl rfl
          · exact .inr ⟨e.2, List.mem_cons_of_mem _ h⟩
        · rcases List.mem_cons.mp h with rfl | h
          · exact .inr ⟨y, List.mem_cons_self⟩
          · rcases ih h with h | ⟨z, h⟩
            · exact .inl h
            · exact .inr ⟨z, List.mem_cons_of_mem _ h⟩

theorem sorted_place {es : List (String × α)} (h : es.Pairwise (·.1 < ·.1)) (key : String) (x : α) :
    (place key x es).Pairwise (·.1 < ·.1) := by
  induction es with
  | nil => simp [place]
  | cons e es ih =>
      obtain ⟨k, y⟩ := e
      rw [List.pairwise_cons] at h
      rw [place]
      split
      · rename_i hlt
        rw [List.pairwise_cons, List.pairwise_cons]
        refine ⟨fun e' he' => ?_, h⟩
        rcases List.mem_cons.mp he' with rfl | he'
        · exact hlt
        · exact String.lt_trans hlt (h.1 e' he')
      · split
        · rename_i heq
          rw [List.pairwise_cons]
          exact ⟨fun e' he' => heq ▸ h.1 e' he', h.2⟩
        · rename_i hnlt hne
          rw [List.pairwise_cons]
          refine ⟨fun e' he' => ?_, ih h.2⟩
          rcases fst_mem_place he' with heq | ⟨z, hz⟩
          · show k < e'.1
            rw [heq]
            exact Decidable.byContradiction fun hn =>
              hne (String.le_antisymm (String.not_lt.mp hn) (String.not_lt.mp hnlt))
          · exact h.1 (e'.1, z) hz

/-- No entry at all. -/
def empty : Dictionary α :=
  ⟨[], List.Pairwise.nil⟩

/-- Maps a key to a value, whatever it was mapped to before. -/
def insert (d : Dictionary α) (key : String) (x : α) : Dictionary α :=
  ⟨place key x d.entries, sorted_place d.sorted key x⟩

/-- The map of a list of entries; of several entries with one key the last one counts. -/
def ofList (es : List (String × α)) : Dictionary α :=
  es.foldl (fun d e => d.insert e.1 e.2) empty

/-- What a key is mapped to. -/
def get? (d : Dictionary α) (key : String) : Option α :=
  d.entries.lookup key

/-- The values in the order of their keys. -/
def values (d : Dictionary α) : List α :=
  d.entries.map Prod.snd

end Dictionary

end FieldRules.Store
