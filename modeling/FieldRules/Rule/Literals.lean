import FieldRules.Value

/-!
# `FieldRules.Rule.Literals` — sets of literal texts

## Contents
- **`LiteralSet`**, texts in the order in which they were first listed, none of them twice, with a
  mark for the word `null`. **`LiteralSet.ofList`** adds text by text.
- **`LiteralSet.contains`**. A leaf that is present belongs to the set if its literal text is
  listed; an absent value belongs to the set if the word `null` is listed.
- **`LiteralSet.text`**, the set as messages show it.
-/

namespace FieldRules

/-- The literal that stands for absence. -/
def nullLiteral : String := "null"

/-- A set of literal texts in the order of their listing, with a mark that says whether the word for
absence is one of them. -/
structure LiteralSet where
  values : List String
  admitsNull : Bool
  nodup : values.Nodup
  admitsNull_iff : admitsNull = true ↔ nullLiteral ∈ values
  deriving DecidableEq, Repr

namespace LiteralSet

/-! ## Building -/

/-- The set of no texts. -/
def empty : LiteralSet where
  values := []
  admitsNull := false
  nodup := List.nodup_nil
  admitsNull_iff := by simp

/-- Adds a text at the end, unless it is there. -/
def add (s : LiteralSet) (v : String) : LiteralSet where
  values := if v ∈ s.values then s.values else s.values ++ [v]
  admitsNull := s.admitsNull || v = nullLiteral
  nodup := by
    split
    · exact s.nodup
    · next h =>
        refine List.nodup_append.mpr ⟨s.nodup, by simp, fun w hw w' hw' => ?_⟩
        rw [List.mem_singleton.mp hw']
        rintro rfl
        exact h hw
  admitsNull_iff := by
    rw [Bool.or_eq_true, decide_eq_true_eq, s.admitsNull_iff]
    split
    · next h =>
        refine ⟨fun hor => hor.elim id fun heq => heq ▸ h, .inl⟩
    · simp [eq_comm]

/-- The set of the texts of a list. -/
def ofList (vs : List String) : LiteralSet :=
  vs.foldl add empty

@[simp]
theorem mem_values_add {s : LiteralSet} {v w : String} :
    w ∈ (s.add v).values ↔ w ∈ s.values ∨ w = v := by
  show w ∈ (if v ∈ s.values then s.values else s.values ++ [v]) ↔ _
  split
  · next h => exact ⟨.inl, fun hor => hor.elim id fun heq => heq ▸ h⟩
  · rw [List.mem_append, List.mem_singleton]

/-- The texts of a list join those that are there. -/
theorem mem_values_foldl {s : LiteralSet} {vs : List String} {w : String} :
    w ∈ (vs.foldl add s).values ↔ w ∈ s.values ∨ w ∈ vs := by
  induction vs generalizing s with
  | nil => simp
  | cons v vs ih => rw [List.foldl_cons, ih, mem_values_add, or_assoc, List.mem_cons]

theorem mem_values_ofList {vs : List String} {w : String} : w ∈ (ofList vs).values ↔ w ∈ vs := by
  rw [ofList, mem_values_foldl]
  simp [empty]

/-! ## Membership and text -/

/-- The number of members. -/
def size (s : LiteralSet) : Nat :=
  s.values.length

/-- Whether there is no member. -/
def isEmpty (s : LiteralSet) : Bool :=
  s.values.isEmpty

/-- Whether a value belongs to the set. -/
def contains (s : LiteralSet) (v : Value) : Bool :=
  if v.isNull then s.admitsNull
  else v.literalText?.any fun t => s.values.contains t

/-- The word for absence stands as it is, every other text in quotes. -/
def memberText (v : String) : String :=
  if v = nullLiteral then v else "\"" ++ v ++ "\""

/-- The members between square brackets. -/
def text (s : LiteralSet) : String :=
  "[" ++ ", ".intercalate (s.values.map memberText) ++ "]"

end LiteralSet

end FieldRules
