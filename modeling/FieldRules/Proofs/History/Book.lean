import FieldRules.Proofs.History.Twin

/-!
# `Proofs.History.Book` — a rule book is part of the declarations

A rule book adds its rules to those of the declared fields, by the short names of their types. They
could as well be written behind the declared rules of each field: the setting that has them there
and an empty book answers every call in the same way. What the book says about fields and types that
are not declared is therefore of no account, and each of the types with one short name has the rules
for itself.

## Contents
- **`Schemas.withBook`** and **`Setting.merged`**, the rules of the book among the declarations.
- **`twin_merged`**, the same effective rules in both settings, and **`twin_of_book`**, books that
  agree on the declared fields.
- **`book_is_part_of_schemas`**.
-/

namespace FieldRules

open Calendar

/-! ## Writing the rules of a book behind the declared ones -/

/-- The field of a type with the rules of a book after its own. -/
def Field.withBook (b : RuleBook) (type : TypeKey) (f : Field) : Field :=
  { f with rules := f.rules ++ b.rulesFor type.shortName f.name }

/-- The schema of a type with the rules of a book after those of each declared field. -/
def Schema.withBook (b : RuleBook) (type : TypeKey) (schema : Schema) : Schema :=
  ⟨schema.fields.map (Field.withBook b type)⟩

/-- The schemas with the rules of a book among them. -/
def Schemas.withBook (ss : Schemas) (b : RuleBook) : Schemas :=
  ⟨ss.entries.map fun e => (e.1, Schema.withBook b e.1 e.2)⟩

/-- What is listed under a key is changed by the change for that key. -/
theorem lookup_map_snd {α β γ : Type} [BEq α] [LawfulBEq α] (change : α → β → γ) (a : α)
    (entries : List (α × β)) :
    (entries.map fun e => (e.1, change e.1 e.2)).lookup a = (entries.lookup a).map (change a) := by
  induction entries with
  | nil => rfl
  | cons e entries ih =>
      obtain ⟨k, b⟩ := e
      rw [List.map_cons, List.lookup_cons, List.lookup_cons, ih]
      cases hk : a == k with
      | true =>
          obtain rfl : a = k := eq_of_beq hk
          rfl
      | false => rfl

/-- Every type has its declared fields, each with the rules of the book behind its own. -/
theorem Schemas.fields_withBook (ss : Schemas) (b : RuleBook) (type : TypeKey) :
    ((ss.withBook b).of type).fields = (ss.of type).fields.map (Field.withBook b type) := by
  unfold of withBook
  rw [lookup_map_snd (Schema.withBook b)]
  cases ss.entries.lookup type with
  | none => rfl
  | some schema => rfl

namespace Setting

/-- The setting in which the rules of the book are declared, and the book is empty. -/
def merged (w : Setting) : Setting :=
  ⟨w.schemas.withBook w.book, .empty⟩

/-- With the rules of the book behind the declared ones, the same rules have an effect. -/
theorem enabledRules_withBook (w : Setting) (type : TypeKey) (f : Field) :
    w.merged.enabledRules type (f.withBook w.book type) = w.enabledRules type f := by
  show ((f.rules ++ w.book.rulesFor type.shortName f.name) ++
    RuleBook.empty.rulesFor type.shortName f.name).filter Rule.isEnabled = _
  rw [RuleBook.rulesFor_empty, List.append_nil, enabledRules]

theorem twin_merged (w : Setting) : w.Twin w.merged where
  fields type := by
    show List.Forall₂ (w.TwinField w.merged type) (w.schemas.of type).fields
      ((w.schemas.withBook w.book).of type).fields
    rw [Schemas.fields_withBook, List.forall₂_map_right_iff, List.forall₂_same]
    intro f _
    exact ⟨rfl, rfl, rfl, w.enabledRules_withBook type f⟩

/-- Books with the same rules on the declared fields. -/
theorem twin_of_book (w : Setting) {b : RuleBook}
    (h : ∀ type, ∀ f ∈ (w.schemas.of type).fields,
      b.rulesFor type.shortName f.name = w.book.rulesFor type.shortName f.name) :
    w.Twin ⟨w.schemas, b⟩ where
  fields type := by
    show List.Forall₂ (w.TwinField ⟨w.schemas, b⟩ type) (w.schemas.of type).fields
      (w.schemas.of type).fields
    rw [List.forall₂_same]
    intro f hf
    refine ⟨rfl, rfl, rfl, ?_⟩
    rw [enabledRules, enabledRules, h type f hf]

/-! ## The same answers -/

/-- **A rule book is part of the declarations.** The setting with an empty book and with the rules
of the book behind the declared rules of each field answers every sequence of calls in the same way,
and has the same index and registry after each of them. Each type has the rules for its own short
name, whichever other types share it. Two books that agree on all declared fields cannot be told
apart either. -/
theorem book_is_part_of_schemas (w : Setting) (calls : List Call) :
    w.merged.transcript calls .empty = w.transcript calls .empty ∧
    w.merged.book = .empty ∧
    w.merged.schemas.types = w.schemas.types ∧
    (∀ type, (w.merged.schemas.of type).fields =
      (w.schemas.of type).fields.map fun f =>
        { f with rules := f.rules ++ w.book.rulesFor type.shortName f.name }) ∧
    (∀ b : RuleBook,
      (∀ type, ∀ f ∈ (w.schemas.of type).fields,
        b.rulesFor type.shortName f.name = w.book.rulesFor type.shortName f.name) →
      Setting.transcript ⟨w.schemas, b⟩ calls .empty = w.transcript calls .empty) := by
  refine ⟨w.twin_merged.transcript calls (.refl _), rfl, ?_, ?_, ?_⟩
  · show (w.schemas.entries.map _).map Prod.fst = w.schemas.entries.map Prod.fst
    rw [List.map_map]
    rfl
  · intro type
    exact w.schemas.fields_withBook w.book type
  · intro b h
    exact (w.twin_of_book h).transcript calls (.refl _)

end Setting

end FieldRules
