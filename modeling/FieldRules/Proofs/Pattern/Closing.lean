import FieldRules.Pattern.Compile
import FieldRules.Proofs.Text.Reading

/-!
# `Proofs.Pattern.Closing` — a text with a closing anchor behind it

An anchored pattern is read as one text, so the reader of the source has a parenthesis and an anchor
behind the source where its text would otherwise end. What can be read on its own is read in the same
way with these two characters behind it, piece by piece. There is one exception. Where blanks carry
no meaning and the source ends in a comment, the comment takes the two characters with it.

Every piece is followed through both texts at once. What is left of them after a piece is related as
before it, and no piece gives back more than it got.

## Contents
- **`Behind`**, what is left of both texts, and `Behind.skip` for what carries no meaning.
- **`ReadAlike`**, two readings with the same result, with `ReadAlike.bind` for one after another.
- **`takeRun`** and **`takeRun_alike`**, the runs of characters that names and counts are.
-/

namespace FieldRules.Pattern

open FieldRules.Number FieldRules.Text FieldRules.Unicode

/-! ## Both texts -/

/-- What stands behind the source of an anchored pattern. -/
def closing : List Char := [')', '$']

/-- What is left of a text, and what is left of it with the closing characters behind it. -/
inductive Behind : List Char → List Char → Prop
  | closed (cs : List Char) : Behind cs (cs ++ closing)
  /-- A comment has taken the closing characters with it. -/
  | swallowed : Behind [] []

namespace Behind

variable {cs cs' : List Char} {c : Char}

theorem cons_left {tl : List Char} (h : Behind (c :: tl) cs') :
    ∃ tl', cs' = c :: tl' ∧ Behind tl tl' := by
  cases h with
  | closed => exact ⟨tl ++ closing, rfl, .closed tl⟩

theorem cons_right {tl' : List Char} (h : Behind cs (c :: tl')) (hc : c ≠ ')') :
    ∃ tl, cs = c :: tl ∧ Behind tl tl' := by
  generalize hcs : c :: tl' = ds at h
  cases h with
  | swallowed => cases hcs
  | closed =>
      cases cs with
      | nil =>
          injection hcs with hhead _
          exact absurd hhead hc
      | cons d tl =>
          injection hcs with hhead htail
          subst hhead htail
          exact ⟨tl, rfl, .closed tl⟩

theorem nil_left (h : Behind [] cs') : cs' = closing ∨ cs' = [] := by
  cases h with
  | closed => exact .inl rfl
  | swallowed => exact .inr rfl

theorem nil_right (h : Behind cs []) : cs = [] := by
  generalize hds : ([] : List Char) = ds at h
  cases h with
  | swallowed => rfl
  | closed =>
      have := congrArg List.length hds
      simp [closing] at this

theorem length_le (h : Behind cs cs') : cs.length ≤ cs'.length := by
  cases h with
  | closed => simp
  | swallowed => exact Nat.le_refl _

/-- Both texts are at an end, or they go on with the same character. -/
theorem nil_or_cons (h : Behind cs cs') :
    (cs = [] ∧ (cs' = closing ∨ cs' = [])) ∨
      ∃ c tl tl', cs = c :: tl ∧ cs' = c :: tl' ∧ Behind tl tl' := by
  cases cs with
  | nil => exact .inl ⟨rfl, h.nil_left⟩
  | cons c tl =>
      obtain ⟨tl', heq, hb⟩ := h.cons_left
      exact .inr ⟨c, tl, tl', rfl, heq, hb⟩

theorem dropWhile (h : Behind cs cs') {p : Char → Bool} (hp : p ')' = false) :
    Behind (cs.dropWhile p) (cs'.dropWhile p) := by
  cases h with
  | swallowed => exact .swallowed
  | closed =>
      induction cs with
      | nil =>
          rw [List.nil_append, closing, List.dropWhile_cons_of_neg (by simp [hp])]
          exact .closed []
      | cons c cs ih =>
          rw [List.cons_append]
          by_cases hc : p c = true
          · rw [List.dropWhile_cons_of_pos hc, List.dropWhile_cons_of_pos hc]
            exact ih
          · rw [List.dropWhile_cons_of_neg hc, List.dropWhile_cons_of_neg hc]
            exact .closed (c :: cs)

end Behind

/-! ## Blanks and comments -/

theorem skipBlanks_behind (cs : List Char) :
    Behind (skipBlanks cs) (skipBlanks (cs ++ closing)) ∧
      Behind (skipComment cs) (skipComment (cs ++ closing)) := by
  induction cs with
  | nil => exact ⟨.closed [], .swallowed⟩
  | cons c cs ih =>
      rw [List.cons_append, skipBlanks, skipBlanks, skipComment, skipComment]
      constructor
      · split
        · exact ih.1
        · split
          · exact ih.2
          · exact .closed (c :: cs)
      · split
        · exact ih.1
        · exact ih.2

theorem Behind.skip {cs cs' : List Char} (h : Behind cs cs') (verbose : Bool) :
    Behind (skip verbose cs) (skip verbose cs') := by
  cases verbose with
  | false => exact h
  | true =>
      cases h with
      | closed => exact (skipBlanks_behind cs).1
      | swallowed => exact .swallowed

theorem length_skipBlanks_le (cs : List Char) :
    (skipBlanks cs).length ≤ cs.length ∧ (skipComment cs).length ≤ cs.length := by
  induction cs with
  | nil => exact ⟨Nat.le_refl _, Nat.le_refl _⟩
  | cons c cs ih =>
      rw [skipBlanks, skipComment, List.length_cons]
      constructor
      · split
        · exact Nat.le_succ_of_le ih.1
        · split
          · exact Nat.le_succ_of_le ih.2
          · exact Nat.le_refl _
      · split
        · exact Nat.le_succ_of_le ih.1
        · exact Nat.le_succ_of_le ih.2

theorem length_skip_le (verbose : Bool) (cs : List Char) : (skip verbose cs).length ≤ cs.length := by
  cases verbose with
  | false => exact Nat.le_refl _
  | true => exact (length_skipBlanks_le cs).1

/-! ## Readings -/

/-- The second reading gives the same result as the first one, if that ends well, and leaves what is
left of its own text. At most `bound` characters are left. -/
def ReadAlike {α : Type} (bound : Nat) (p p' : Except Fault (α × List Char)) : Prop :=
  ∀ x rest, p = .ok (x, rest) →
    rest.length ≤ bound ∧ ∃ rest', p' = .ok (x, rest') ∧ Behind rest rest'

namespace ReadAlike

variable {α β : Type} {bound bound' : Nat} {p p' : Except Fault (α × List Char)}

theorem error {fault : Fault} : ReadAlike bound (.error fault) p' := by
  intro x rest h
  cases h

theorem ok {rest rest' : List Char} (h : Behind rest rest') (hle : rest.length ≤ bound) (x : α) :
    ReadAlike bound (.ok (x, rest)) (.ok (x, rest')) := by
  rintro _ _ ⟨⟩
  exact ⟨hle, rest', rfl, h⟩

theorem mono (h : ReadAlike bound p p') (hle : bound ≤ bound') : ReadAlike bound' p p' := by
  intro x rest hp
  obtain ⟨hrest, hp'⟩ := h x rest hp
  exact ⟨Nat.le_trans hrest hle, hp'⟩

/-- One piece after another. -/
theorem bind {g g' : α × List Char → Except Fault (β × List Char)} (h : ReadAlike bound p p')
    (hg : ∀ x rest rest', rest.length ≤ bound → Behind rest rest' →
      ReadAlike bound' (g (x, rest)) (g' (x, rest'))) : ReadAlike bound' (p >>= g) (p' >>= g') := by
  intro y rest hp
  obtain ⟨⟨x, cs⟩, hx, hy⟩ := bind_eq_ok hp
  obtain ⟨hle, cs', hx', hb⟩ := h x cs hx
  rw [hx']
  exact hg x cs cs' hle hb y rest hy

/-- A decision that does not look at the text. -/
theorem bind_result {γ : Type} {q : Except Fault γ} {g g' : γ → Except Fault (β × List Char)}
    (hg : ∀ x, q = .ok x → ReadAlike bound (g x) (g' x)) :
    ReadAlike bound (q >>= g) (q >>= g') := by
  intro y rest hp
  obtain ⟨x, hx, hy⟩ := bind_eq_ok hp
  rw [hx]
  exact hg x hx y rest hy

/-- A piece whose result is changed. -/
theorem map {g : α × List Char → β × List Char} (h : ReadAlike bound p p') (f : α → β)
    (hg : ∀ x rest, g (x, rest) = (f x, rest)) : ReadAlike bound (p.map g) (p'.map g) := by
  intro y rest hp
  obtain ⟨⟨x, cs⟩, hx, hy⟩ := map_eq_ok hp
  obtain ⟨hle, cs', hx', hb⟩ := h x cs hx
  rw [hg] at hy
  cases hy
  rw [hx']
  exact ⟨hle, cs', congrArg _ (hg x cs'), hb⟩

end ReadAlike

variable {cs cs' : List Char} (verbose : Bool)

/-! ## Runs of characters -/

/-- Takes characters that satisfy a condition, passing over what carries no meaning after each. -/
def takeRun (p : Char → Bool) : Nat → List Char → List Char × List Char
  | 0, cs => ([], cs)
  | _ + 1, [] => ([], [])
  | fuel + 1, c :: cs =>
    if p c then
      let (run, cs) := takeRun p fuel (skip verbose cs)
      (c :: run, cs)
    else ([], c :: cs)

theorem takeEdgeName_eq (n : Nat) (cs : List Char) :
    takeEdgeName verbose n cs = takeRun verbose takeEdgeName.isEdgeChar n cs := by
  fun_induction takeEdgeName verbose n cs with
  | case1 => rfl
  | case2 => rfl
  | case3 fuel c cs hc name rest heq ih => rw [takeRun, if_pos hc, ← ih, heq]
  | case4 fuel c cs hc => rw [takeRun, if_neg hc]

theorem takeCountDigits_eq (n : Nat) (cs : List Char) :
    takeCountDigits verbose n cs = takeRun verbose Char.isDigit n cs := by
  fun_induction takeCountDigits verbose n cs with
  | case1 => rfl
  | case2 => rfl
  | case3 fuel c cs hc ds rest heq ih => rw [takeRun, if_pos hc, ← ih, heq]
  | case4 fuel c cs hc => rw [takeRun, if_neg hc]

section Runs

variable {p : Char → Bool} {n n' : Nat}

theorem takeRun_nil : takeRun verbose p n [] = ([], []) := by
  cases n with
  | zero => rfl
  | succ n => rfl

theorem takeRun_atEnd (hp : p ')' = false) (hb : Behind [] cs') :
    (takeRun verbose p n' cs').1 = (takeRun verbose p n []).1 ∧
      Behind (takeRun verbose p n []).2 (takeRun verbose p n' cs').2 ∧
      (takeRun verbose p n []).2.length ≤ 0 := by
  -- the closing characters are no part of a run
  have hclosing : takeRun verbose p n' closing = ([], closing) := by
    cases n' with
    | zero => rfl
    | succ n' => rw [closing, takeRun, if_neg (Bool.eq_false_iff.mp hp)]
  rw [takeRun_nil]
  rcases hb.nil_left with rfl | rfl
  · rw [hclosing]
    exact ⟨rfl, .closed [], Nat.le_refl 0⟩
  · rw [takeRun_nil]
    exact ⟨rfl, .swallowed, Nat.le_refl 0⟩

theorem takeRun_alike (hp : p ')' = false) (hn : cs.length ≤ n) (hn' : cs'.length ≤ n')
    (hb : Behind cs cs') :
    (takeRun verbose p n' cs').1 = (takeRun verbose p n cs).1 ∧
      Behind (takeRun verbose p n cs).2 (takeRun verbose p n' cs').2 ∧
      (takeRun verbose p n cs).2.length ≤ cs.length := by
  induction n generalizing n' cs cs' with
  | zero =>
      obtain rfl : cs = [] := List.length_eq_zero_iff.mp (Nat.le_zero.mp hn)
      exact takeRun_atEnd verbose hp hb
  | succ n ih =>
      rcases hb.nil_or_cons with ⟨rfl, -⟩ | ⟨c, tl, tl', rfl, rfl, htl⟩
      · exact takeRun_atEnd verbose hp hb
      · have hskip := length_skip_le verbose tl
        have hskip' := length_skip_le verbose tl'
        rw [List.length_cons] at hn hn'
        obtain ⟨n', rfl⟩ : ∃ m, n' = m + 1 := ⟨n' - 1, by omega⟩
        rw [takeRun, takeRun, List.length_cons]
        split
        · obtain ⟨hrun, hrest, hle⟩ :=
            ih (Nat.le_trans hskip (Nat.le_of_succ_le_succ hn))
              (Nat.le_trans hskip' (Nat.le_of_succ_le_succ hn')) (htl.skip verbose)
          exact ⟨congrArg (c :: ·) hrun, hrest, Nat.le_succ_of_le (Nat.le_trans hle hskip)⟩
        · exact ⟨rfl, hb, Nat.le_refl _⟩

end Runs

end FieldRules.Pattern
