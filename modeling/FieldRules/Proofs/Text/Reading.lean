/-!
# `Proofs.Text.Reading` — readers that end well

A reader answers with a result or with what is wrong with the text. Statements about what was read
go back along its parts, and each of these lemmas goes back one part.

## Contents
- **`bind_eq_ok`**, one part after another, and **`map_eq_ok`**, a part whose result is changed.
- **`map_bind`**, a change to the result of the last part.
-/

namespace FieldRules

variable {ε α β : Type}

/-- The parts of a reading that ended well. -/
theorem bind_eq_ok {x : Except ε α} {f : α → Except ε β} {b : β} (h : x >>= f = .ok b) :
    ∃ a, x = .ok a ∧ f a = .ok b := by
  cases x with
  | error e => cases h
  | ok a => exact ⟨a, rfl, h⟩

/-- What a reading that ended well was made of. -/
theorem map_eq_ok {x : Except ε α} {f : α → β} {b : β} (h : x.map f = .ok b) :
    ∃ a, x = .ok a ∧ b = f a := by
  cases x with
  | error e => cases h
  | ok a =>
      cases h
      exact ⟨a, rfl, rfl⟩

theorem map_bind {γ : Type} (f : β → γ) (x : Except ε α) (g : α → Except ε β) :
    (x >>= g).map f = x >>= fun a => (g a).map f := by
  cases x with
  | error e => rfl
  | ok a => rfl

end FieldRules
