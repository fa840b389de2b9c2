import FieldRules.Text.Blank
import Mathlib

/-!
# `Proofs.Text.Trimming` — what is left of a text when it is trimmed

A text falls into blanks, a middle that neither begins nor ends with a blank, and blanks again. The
middle is all that trimming leaves, so texts with the same middle are the same to a reader that
trims.

## Contents
- **`Blanks`** and **`Tight`**, the parts.
- **`trim_around`**: the middle is what is left. **`exists_around_trim`**: every text has one.
- **`blanks_or_first`** and **`blanks_or_last`**: the two ends of the middle.
- **`trim_padded`**, and **`Padded`** for the relation: blanks around a text make no difference.
-/

namespace FieldRules.Text

/-- A run of blanks, which may be empty. -/
def Blanks (w : List Char) : Prop :=
  ∀ c ∈ w, isBlank c = true

/-- A text that neither begins nor ends with a blank. -/
def Tight (t : List Char) : Prop :=
  (∀ c ∈ t.head?, isBlank c = false) ∧ ∀ c ∈ t.getLast?, isBlank c = false

theorem Blanks.nil : Blanks [] := by
  intro c hc
  cases hc

theorem Blanks.space : Blanks [' '] := by
  intro c hc
  rw [List.mem_singleton.mp hc]
  decide

theorem Blanks.append {u v : List Char} (hu : Blanks u) (hv : Blanks v) : Blanks (u ++ v) := by
  intro c hc
  exact (List.mem_append.mp hc).elim (hu c) (hv c)

theorem Blanks.reverse {u : List Char} (hu : Blanks u) : Blanks u.reverse := by
  intro c hc
  exact hu c (List.mem_reverse.mp hc)

/-- No digit is a blank. -/
theorem isBlank_of_isDigit {c : Char} (h : c.isDigit = true) : isBlank c = false := by
  have hrange : 48 ≤ c.toNat ∧ c.toNat ≤ 57 := by
    simp only [Char.isDigit, Bool.and_eq_true, decide_eq_true_eq] at h
    exact ⟨UInt32.le_iff_toNat_le.mp h.1, UInt32.le_iff_toNat_le.mp h.2⟩
  simp [isBlank]
  omega

/-- Texts without any blank are tight. -/
theorem Tight.of_plain {t : List Char} (h : ∀ c ∈ t, isBlank c = false) : Tight t :=
  ⟨fun c hc => h c (List.mem_of_mem_head? hc), fun c hc => h c (List.mem_of_getLast? hc)⟩

/-- A text between two characters that are not blank is tight, whatever it is. -/
theorem Tight.between {first last : Char} (t : List Char) (hfirst : isBlank first = false)
    (hlast : isBlank last = false) : Tight (first :: (t ++ [last])) := by
  constructor
  · rintro c hc
    cases hc
    exact hfirst
  · rintro c hc
    rw [← List.cons_append, List.getLast?_concat] at hc
    cases hc
    exact hlast

/-- A character that is not blank is a tight text. -/
theorem Tight.single {c : Char} (h : isBlank c = false) : Tight [c] := by
  refine Tight.of_plain fun d hd => ?_
  rw [List.mem_singleton.mp hd]
  exact h

theorem Tight.reverse {t : List Char} (h : Tight t) : Tight t.reverse := by
  refine ⟨?_, ?_⟩
  · rw [List.head?_reverse]
    exact h.2
  · rw [List.getLast?_reverse]
    exact h.1

/-- Blanks in front of a tight text are dropped, and no more. -/
theorem dropWhile_blanks {u t : List Char} (hu : Blanks u)
    (ht : ∀ c ∈ t.head?, isBlank c = false) : (u ++ t).dropWhile isBlank = t := by
  rw [List.dropWhile_append_of_pos hu]
  cases t with
  | nil => rfl
  | cons c t => rw [List.dropWhile_cons_of_neg (by simpa using ht c rfl)]

/-- **Trimming leaves the middle.** -/
theorem trim_around {u t v : List Char} (hu : Blanks u) (ht : Tight t) (hv : Blanks v) :
    trim (u ++ t ++ v) = t := by
  unfold trim trimEnd trimStart
  cases t with
  | nil =>
      -- a text of blanks only is dropped from the front
      have hall := dropWhile_blanks (t := []) (hu.append hv) (by simp)
      rw [List.append_nil] at hall
      rw [List.append_nil, hall]
      rfl
  | cons c t =>
      have hfront : ∀ d ∈ ((c :: t) ++ v).head?, isBlank d = false := ht.1
      rw [List.append_assoc, dropWhile_blanks hu hfront, List.reverse_append,
        dropWhile_blanks hv.reverse ht.reverse.1, List.reverse_reverse]

theorem trim_of_tight {t : List Char} (h : Tight t) : trim t = t := by
  have := trim_around Blanks.nil h Blanks.nil
  rwa [List.nil_append, List.append_nil] at this

theorem blanks_takeWhile (cs : List Char) : Blanks (cs.takeWhile isBlank) := by
  intro c hc
  exact List.mem_takeWhile_imp hc

theorem head?_dropWhile_blank (cs : List Char) :
    ∀ c ∈ (cs.dropWhile isBlank).head?, isBlank c = false := by
  intro c hc
  have hnot := List.head?_dropWhile_not isBlank cs
  rw [Option.mem_def.mp hc] at hnot
  exact hnot

/-- Every text is a tight one, which trimming leaves, with blanks around it. -/
theorem exists_around_trim (cs : List Char) :
    ∃ u v, Blanks u ∧ Tight (trim cs) ∧ Blanks v ∧ cs = u ++ trim cs ++ v := by
  have hsplit : cs = cs.takeWhile isBlank ++ trimStart cs :=
    List.takeWhile_append_dropWhile.symm
  have hsplit' : trimStart cs = trim cs ++ ((trimStart cs).reverse.takeWhile isBlank).reverse := by
    unfold trim trimEnd
    rw [← List.reverse_append, List.takeWhile_append_dropWhile, List.reverse_reverse]
  refine ⟨cs.takeWhile isBlank, ((trimStart cs).reverse.takeWhile isBlank).reverse,
    blanks_takeWhile cs, ⟨?_, ?_⟩, (blanks_takeWhile _).reverse, ?_⟩
  · -- the first character that is left is the first one that was not dropped
    intro c hc
    refine head?_dropWhile_blank cs c ?_
    show c ∈ (trimStart cs).head?
    rw [hsplit', List.head?_append, Option.mem_def.mp hc]
    rfl
  · unfold trim trimEnd
    rw [List.getLast?_reverse]
    exact head?_dropWhile_blank _
  · rw [List.append_assoc, ← hsplit']
    exact hsplit

/-- A text is blank or has a first character that is not. -/
theorem blanks_or_first (cs : List Char) :
    Blanks cs ∨ ∃ u c rest, Blanks u ∧ isBlank c = false ∧ cs = u ++ c :: rest := by
  have hsplit := List.takeWhile_append_dropWhile (p := isBlank) (l := cs)
  cases hdrop : cs.dropWhile isBlank with
  | nil =>
      rw [hdrop, List.append_nil] at hsplit
      exact .inl (hsplit ▸ blanks_takeWhile cs)
  | cons c rest =>
      have hc : isBlank c = false := head?_dropWhile_blank cs c (by rw [hdrop]; rfl)
      rw [hdrop] at hsplit
      exact .inr ⟨_, c, rest, blanks_takeWhile cs, hc, hsplit.symm⟩

/-- A text is blank or has a last character that is not. -/
theorem blanks_or_last (cs : List Char) :
    Blanks cs ∨ ∃ rest c v, Blanks v ∧ isBlank c = false ∧ cs = rest ++ c :: v := by
  rcases blanks_or_first cs.reverse with h | ⟨v, c, rest, hv, hc, heq⟩
  · rw [← cs.reverse_reverse]
    exact .inl h.reverse
  · refine .inr ⟨rest.reverse, c, v.reverse, hv.reverse, hc, ?_⟩
    have hreverse := congrArg List.reverse heq
    simpa using hreverse

/-- **Blanks around a text make no difference** once it is trimmed. -/
theorem trim_padded {u v : List Char} (hu : Blanks u) (hv : Blanks v) (t : List Char) :
    trim (u ++ t ++ v) = trim t := by
  obtain ⟨u', v', hu', htight, hv', ht⟩ := exists_around_trim t
  have hsame : u ++ t ++ v = (u ++ u') ++ trim t ++ (v' ++ v) := by
    conv_lhs => rw [ht]
    simp only [List.append_assoc]
  rw [hsame]
  exact trim_around (hu.append hu') htight (hv'.append hv)

/-- A text with nothing but blanks around it. -/
def Padded (t cs : List Char) : Prop :=
  ∃ u v, Blanks u ∧ Blanks v ∧ cs = u ++ t ++ v

theorem Padded.trim_eq {t cs : List Char} (h : Padded t cs) : trim cs = trim t := by
  obtain ⟨u, v, hu, hv, rfl⟩ := h
  exact trim_padded hu hv t

/-- Every text is what is left of it, padded. -/
theorem padded_trim (cs : List Char) : Padded (trim cs) cs := by
  obtain ⟨u, v, hu, -, hv, hcs⟩ := exists_around_trim cs
  exact ⟨u, v, hu, hv, hcs⟩

theorem tight_trim (cs : List Char) : Tight (trim cs) := by
  obtain ⟨u, v, -, htight, -, -⟩ := exists_around_trim cs
  exact htight

end FieldRules.Text
