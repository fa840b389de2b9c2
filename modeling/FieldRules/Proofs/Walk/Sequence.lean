import FieldRules.Proofs.Walk.Ending

/-!
# `Proofs.Walk.Sequence` — sequences that no field holds

A check of a sequence hands one chain of entries from element to element, where checks of the
elements by themselves would each begin with a new one. That makes no difference: an element that
passes leaves the chain as it was, and the first one that does not pass ends the check. So the answer
and all that the engine knows afterwards are those of that element, checked by itself in the session
that the elements before it have left.

Only the order of the elements counts, not the sequences that they are packed in. To take the
elements of a sequence is to take those of its first part and then those of the rest, and a sequence
among the elements is taken element by element in its place.

## Contents
- **`proceed_assoc`** and **`checkValues_append`**, parts in a row.
- **`Value.Spliced`**, lists in which sequences are replaced by their elements, and
  **`Value.unpackedAll`**, where no sequence is left.
- **`PassInTurn`**: values that pass one after the other, each checked by itself.
- **`evaluate_seq_append`** and **`evaluate_seq_of_stopped`**, the two laws of a check of a sequence.
- **`sequence_is_checked_in_turn`**.
-/

namespace FieldRules

open Calendar

/-! ## Parts in a row -/

/-- Going on twice is going on with two parts in a row. -/
theorem proceed_assoc (p : Progress) (next next' : Chain → Session → Progress) :
    proceed (proceed p next) next' =
      proceed p fun chain s => proceed (next chain s) next' := by
  obtain ⟨r, s⟩ := p
  cases r with
  | error e => rfl
  | ok ended =>
      obtain ⟨passed, chain⟩ := ended
      cases passed with
      | true => rfl
      | false => rfl

namespace Check

variable (c : Check) (selection : Option (List String))

theorem checkValues_cons (v : Value) (rest : List Value) (chain : Chain) (s : Session) :
    c.checkValues selection (v :: rest) chain s =
      proceed (c.checkValue selection v chain s) (c.checkValues selection rest) := by
  rw [checkValues]
  rfl

/-- Values in order are the first of them and then the others. -/
theorem checkValues_append (vs us : List Value) (chain : Chain) (s : Session) :
    c.checkValues selection (vs ++ us) chain s =
      proceed (c.checkValues selection vs chain s) (c.checkValues selection us) := by
  induction vs generalizing chain s with
  | nil =>
      rw [List.nil_append, checkValues]
      rfl
  | cons v rest ih =>
      have hrest : c.checkValues selection (rest ++ us) =
          fun chain s =>
            proceed (c.checkValues selection rest chain s) (c.checkValues selection us) := by
        funext chain s
        exact ih chain s
      rw [List.cons_append, checkValues_cons, checkValues_cons, hrest, ← proceed_assoc]

theorem checkValue_seq (items : List Value) (chain : Chain) (s : Session) :
    c.checkValue selection (.seq items) chain s = c.checkValues selection items chain s := by
  rw [checkValue]

end Check

/-! ## Sequences among the elements -/

namespace Value

/-- `Spliced vs vs'`: the list `vs'` is `vs` with some of the sequences in it, at any depth, replaced
by their elements. -/
inductive Spliced : List Value → List Value → Prop where
  | nil : Spliced [] []
  | keep {v vs vs'} (rest : Spliced vs vs') : Spliced (v :: vs) (v :: vs')
  /-- The sequence stays, and sequences inside of it are replaced. -/
  | inside {us us' vs vs'} (elements : Spliced us us') (rest : Spliced vs vs') :
      Spliced (.seq us :: vs) (.seq us' :: vs')
  /-- The elements take the place of the sequence, and sequences among them are replaced too. -/
  | splice {us us' vs vs'} (elements : Spliced us us') (rest : Spliced vs vs') :
      Spliced (.seq us :: vs) (us' ++ vs')

mutual

/-- The value, or the elements of a sequence with all sequences among them replaced. -/
def unpacked : Value → List Value
  | .seq items => unpackedAll items
  | v => [v]

/-- Values with all sequences among them replaced by their elements. -/
def unpackedAll : List Value → List Value
  | [] => []
  | v :: rest => v.unpacked ++ unpackedAll rest

end

/-- Whether the value is a sequence. -/
def isSeq : Value → Bool
  | .seq _ => true
  | _ => false

mutual

/-- To unpack a value in front of others is to replace sequences, if it is one. -/
theorem spliced_unpacked (v : Value) {vs vs' : List Value} (rest : Spliced vs vs') :
    Spliced (v :: vs) (v.unpacked ++ vs') := by
  unfold unpacked
  cases v with
  | seq items => exact .splice (spliced_unpackedAll items) rest
  | _ => exact .keep rest

/-- To unpack everything is to replace all sequences. -/
theorem spliced_unpackedAll (vs : List Value) : Spliced vs (unpackedAll vs) := by
  unfold unpackedAll
  cases vs with
  | nil => exact .nil
  | cons v rest => exact spliced_unpacked v (spliced_unpackedAll rest)

end

mutual

theorem isSeq_of_mem_unpacked (v : Value) : ∀ u ∈ v.unpacked, u.isSeq = false := by
  unfold unpacked
  cases v with
  | seq items => exact isSeq_of_mem_unpackedAll items
  | _ => exact fun u hu => List.mem_singleton.mp hu ▸ rfl

/-- No sequence is left. -/
theorem isSeq_of_mem_unpackedAll (vs : List Value) : ∀ u ∈ unpackedAll vs, u.isSeq = false := by
  unfold unpackedAll
  cases vs with
  | nil => exact fun u hu => absurd hu List.not_mem_nil
  | cons v rest =>
      intro u hu
      rcases List.mem_append.mp hu with hfirst | hrest
      · exact isSeq_of_mem_unpacked v u hfirst
      · exact isSeq_of_mem_unpackedAll rest u hrest

end

end Value

/-- **Packing makes no difference to the elements.** -/
theorem Value.Spliced.checkValues_eq {vs vs' : List Value} (h : Value.Spliced vs vs') (c : Check)
    (selection : Option (List String)) :
    c.checkValues selection vs' = c.checkValues selection vs := by
  induction h with
  | nil => rfl
  | keep rest ih =>
      funext chain s
      rw [c.checkValues_cons, c.checkValues_cons, ih]
  | inside elements rest ihElements ihRest =>
      funext chain s
      rw [c.checkValues_cons, c.checkValues_cons, c.checkValue_seq, c.checkValue_seq, ihElements,
        ihRest]
  | splice elements rest ihElements ihRest =>
      funext chain s
      rw [c.checkValues_append, c.checkValues_cons, c.checkValue_seq, ihElements, ihRest]

namespace Setting

variable (w : Setting) (clock : Nat → Instant) (group : String)
  (selection : Option (List String))

/-- A sequence, packed in one way or another. -/
theorem evaluate_seq_of_spliced {items items' : List Value} (h : Value.Spliced items items')
    (s : Session) :
    w.evaluate clock group (.seq items') selection s =
      w.evaluate clock group (.seq items) selection s := by
  rw [evaluate_eq, evaluate_eq, Check.checkValue_seq, Check.checkValue_seq, h.checkValues_eq]

/-! ## One element after another -/

/-- `PassInTurn vs s s'`: values pass one after the other, each checked by itself, and lead from the
session `s` to the session `s'`. -/
inductive PassInTurn : List Value → Session → Session → Prop where
  | nil {s} : PassInTurn [] s s
  | cons {v rest s s₁ s₂}
      (first : w.evaluate clock group v selection s = (.ok ⟨true, groupNamed group, []⟩, s₁))
      (next : PassInTurn rest s₁ s₂) : PassInTurn (v :: rest) s s₂

variable {w clock group selection}

/-- Behind a check that passes nothing is recorded. -/
theorem checkValue_of_passed {v : Value} {s s₁ : Session}
    (h : w.evaluate clock group v selection s = (.ok ⟨true, groupNamed group, []⟩, s₁)) :
    Check.checkValue ⟨w, groupNamed group, clock⟩ selection v .empty s =
      (.ok (true, .empty), s₁) := by
  rw [evaluate_eq] at h
  have hended := (Check.checkValue_goes ⟨w, groupNamed group, clock⟩ selection v .empty s).ended
  generalize Check.checkValue ⟨w, groupNamed group, clock⟩ selection v .empty s = p at h hended
  cases hended with
  | passed =>
      cases h
      rfl
  | failed recorded => cases h
  | malformed => cases h
  | unread => cases h

/-- **Behind elements that pass, the check of a sequence goes on with the others** as if it began
there. -/
theorem evaluate_seq_append {vs : List Value} {s s' : Session}
    (h : w.PassInTurn clock group selection vs s s') (later : List Value) :
    w.evaluate clock group (.seq (vs ++ later)) selection s =
      w.evaluate clock group (.seq later) selection s' := by
  induction h with
  | nil => rfl
  | @cons v rest s s₁ s₂ first next ih =>
      rw [← ih, List.cons_append, evaluate_eq, evaluate_eq, Check.checkValue_seq,
        Check.checkValue_seq, Check.checkValues_cons, checkValue_of_passed first]
      rfl

/-- **At an element that does not pass, the check of a sequence ends** with the answer and the
session of that element. -/
theorem evaluate_seq_of_stopped {v : Value} {s : Session}
    (h : passes (w.evaluate clock group v selection s).1 = false) (later : List Value) :
    w.evaluate clock group (.seq (v :: later)) selection s =
      w.evaluate clock group v selection s := by
  rw [evaluate_eq] at h
  rw [evaluate_eq, evaluate_eq, Check.checkValue_seq, Check.checkValues_cons]
  generalize Check.checkValue ⟨w, groupNamed group, clock⟩ selection v .empty s = p at h ⊢
  obtain ⟨r, s₁⟩ := p
  cases r with
  | error e => rfl
  | ok ended =>
      obtain ⟨passed, chain⟩ := ended
      cases passed with
      | true => cases h
      | false => rfl

variable (w clock group selection) in
/-- Values pass one after the other, or one of them is the first that does not. -/
theorem passInTurn_or_stopped (vs : List Value) (s : Session) :
    (∃ s', w.PassInTurn clock group selection vs s s') ∨
      ∃ before v after s₁, vs = before ++ v :: after ∧
        w.PassInTurn clock group selection before s s₁ ∧
        passes (w.evaluate clock group v selection s₁).1 = false := by
  induction vs generalizing s with
  | nil => exact .inl ⟨s, .nil⟩
  | cons v rest ih =>
      cases hv : passes (w.evaluate clock group v selection s).1 with
      | false => exact .inr ⟨[], v, rest, s, rfl, .nil, hv⟩
      | true =>
          have hanswer := (w.evaluate_concluded clock group v selection s).eq_of_passes hv
          have hfirst : w.evaluate clock group v selection s =
              (.ok ⟨true, groupNamed group, []⟩, (w.evaluate clock group v selection s).2) :=
            Prod.ext hanswer rfl
          rcases ih (w.evaluate clock group v selection s).2 with
            ⟨s', hrest⟩ | ⟨before, u, after, s₁, rfl, hbefore, hstopped⟩
          · exact .inl ⟨s', .cons hfirst hrest⟩
          · exact .inr ⟨v :: before, u, after, s₁, rfl, .cons hfirst hbefore, hstopped⟩

/-- **A sequence is checked element by element.** Either all elements pass one after the other, each
checked by itself in the session that the one before it has left, and then the sequence passes with
no entries and leaves the session of the last one. Or there is a first element that does not pass,
and the answer and the session are those of that element, whatever comes behind it. Sequences among
the elements may be replaced by their elements at any depth, up to the point where none is left, and
neither the answer nor the session changes. -/
theorem sequence_is_checked_in_turn (w : Setting) (clock : Nat → Instant) (group : String)
    (selection : Option (List String)) (items : List Value) (s : Session) :
    ((∃ s', w.PassInTurn clock group selection items s s' ∧
        w.evaluate clock group (.seq items) selection s =
          (.ok ⟨true, groupNamed group, []⟩, s')) ∨
      ∃ before v after s₁, items = before ++ v :: after ∧
        w.PassInTurn clock group selection before s s₁ ∧
        passes (w.evaluate clock group v selection s₁).1 = false ∧
        ∀ later, w.evaluate clock group (.seq (before ++ v :: later)) selection s =
          w.evaluate clock group v selection s₁) ∧
    (∀ items', Value.Spliced items items' →
      w.evaluate clock group (.seq items') selection s =
        w.evaluate clock group (.seq items) selection s) ∧
    Value.Spliced items (Value.unpackedAll items) ∧
    ∀ v ∈ Value.unpackedAll items, v.isSeq = false := by
  refine ⟨?_, fun items' h => w.evaluate_seq_of_spliced clock group selection h s,
    Value.spliced_unpackedAll items, Value.isSeq_of_mem_unpackedAll items⟩
  rcases w.passInTurn_or_stopped clock group selection items s with
    ⟨s', hall⟩ | ⟨before, v, after, s₁, hsplit, hbefore, hstopped⟩
  · have hrest := evaluate_seq_append hall []
    rw [List.append_nil] at hrest
    exact .inl ⟨s', hall, hrest⟩
  · refine .inr ⟨before, v, after, s₁, hsplit, hbefore, hstopped, fun later => ?_⟩
    rw [evaluate_seq_append hbefore, evaluate_seq_of_stopped hstopped]

end Setting

end FieldRules
