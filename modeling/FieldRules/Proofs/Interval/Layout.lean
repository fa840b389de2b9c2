import FieldRules.Proofs.Interval.Parsed
import FieldRules.Proofs.Number.Characters

/-!
# `Proofs.Interval.Layout` — how an expression is taken apart

The reader trims the expression, looks at its two ends, takes it apart at its comma and trims the
parts again. The same result comes from taking the expression apart first and looking for a bracket
in each part afterwards: blanks in front of the opening bracket belong to the lower part, blanks
after the closing bracket to the upper one. In this form each part can be changed by itself.

## Contents
- **`inQuotes`**, and reading a bound that is padded, quoted, or a number.
- **`lowerBracket?`** and **`upperBracket?`**, the bracket of a part and what it encloses.
- **`parseTrimmed_split`**, reading an expression with a comma, and **`parseTrimmed_single`**, one
  without.
-/

namespace FieldRules

open Calendar Number Text

/-! ## Bounds -/

/-- A text between single quotes. -/
def inQuotes (cs : List Char) : List Char :=
  '\'' :: (cs ++ ['\''])

@[simp]
theorem unquote?_inQuotes (cs : List Char) : unquote? (inQuotes cs) = some cs := by
  simp [unquote?, inQuotes]

/-- Only quoted texts can be unquoted. -/
theorem eq_inQuotes_of_unquote? {cs inner : List Char} (h : unquote? cs = some inner) :
    cs = inQuotes inner := by
  unfold unquote? at h
  split at h
  · next rest =>
      split at h
      · next hlast =>
          cases h
          rw [inQuotes, List.dropLast_append_getLast? _ hlast]
      · cases h
  · cases h

theorem tight_inQuotes (cs : List Char) : Tight (inQuotes cs) :=
  Tight.between cs (by decide) (by decide)

namespace Bound

/-- Both words have an `n`. -/
theorem word?_of_not_mem {cs : List Char} (h : 'n' ∉ cs) (inclusive : Bool) :
    word? inclusive cs = none := by
  unfold word?
  rw [if_neg, if_neg]
  · rintro rfl
    exact h (by decide)
  · rintro rfl
    exact h (by decide)

/-- Blanks around a bound make no difference. -/
theorem parse_padded {u v : List Char} (hu : Blanks u) (hv : Blanks v) (inclusive : Bool)
    (cs : List Char) : Bound.parse inclusive (u ++ cs ++ v) = Bound.parse inclusive cs := by
  unfold Bound.parse
  rw [trim_padded hu hv]

/-- A text with the characters of a number is read as a number or not at all. -/
theorem parse_numeral {cs : List Char} (h : IsNumeral cs) (inclusive : Bool) :
    Bound.parse inclusive cs =
      match Scalar.readNumber? cs with
      | some x => .ok (.literal x inclusive)
      | none => .error (.badNumber (String.ofList cs)) := by
  have hunquote : unquote? cs = none := by
    unfold unquote?
    split
    · exact absurd rfl (h.2 '\'' List.mem_cons_self).plain.2.2.1
    · rfl
  have hword : word? inclusive cs = none :=
    word?_of_not_mem (fun hmem => (h.2 'n' hmem).plain.2.2.2 rfl) inclusive
  unfold Bound.parse
  dsimp only
  rw [trim_of_tight h.tight, hunquote]
  dsimp only
  rewrite [hword, if_neg (by simpa using h.1)]
  rfl

/-- A quoted text is read as a word, as an instant, or not at all. -/
theorem parse_inQuotes (cs : List Char) (inclusive : Bool) :
    Bound.parse inclusive (inQuotes cs) =
      match word? inclusive (trim cs) with
      | some b => .ok b
      | none =>
        match readLiteral? (trim cs) with
        | some t => .ok (.literal (.time t) inclusive)
        | none => .error (.badTimestamp (String.ofList (trim cs))) := by
  unfold Bound.parse
  dsimp only
  rw [trim_of_tight (tight_inQuotes cs), unquote?_inQuotes]
  rfl

end Bound

namespace Interval

/-! ## The two parts -/

/-- The bracket that a lower part begins with, and what follows it. -/
def lowerBracket? (cs : List Char) : Option (Bool × List Char) :=
  match trimStart cs with
  | [] => none
  | opening :: lo => (opening? opening).map fun inclusive => (inclusive, lo)

/-- The bracket that an upper part ends with, and what precedes it. -/
def upperBracket? (cs : List Char) : Option (Bool × List Char) :=
  match (trimEnd cs).getLast? with
  | none => none
  | some closing => (closing? closing).map fun inclusive => (inclusive, (trimEnd cs).dropLast)

/-- The opening bracket of a lower bound that is itself inside or not. -/
def openingOf (inclusive : Bool) : Char :=
  if inclusive then '[' else '('

/-- The closing bracket of an upper bound that is itself inside or not. -/
def closingOf (inclusive : Bool) : Char :=
  if inclusive then ']' else ')'

@[simp]
theorem opening?_openingOf (p : Bool) : opening? (openingOf p) = some p := by
  cases p <;> rfl

@[simp]
theorem closing?_closingOf (q : Bool) : closing? (closingOf q) = some q := by
  cases q <;> rfl

theorem isBlank_openingOf (p : Bool) : isBlank (openingOf p) = false := by
  cases p <;> decide

theorem isBlank_closingOf (q : Bool) : isBlank (closingOf q) = false := by
  cases q <;> decide

theorem eq_openingOf {c : Char} {p : Bool} (h : opening? c = some p) : c = openingOf p := by
  unfold opening? at h
  split at h
  · next hc =>
      cases h
      exact hc
  · split at h
    · next hc =>
        cases h
        exact hc
    · cases h

theorem eq_closingOf {c : Char} {q : Bool} (h : closing? c = some q) : c = closingOf q := by
  unfold closing? at h
  split at h
  · next hc =>
      cases h
      exact hc
  · split at h
    · next hc =>
        cases h
        exact hc
    · cases h

theorem lowerBracket?_of_blanks {u : List Char} (hu : Blanks u) : lowerBracket? u = none := by
  have htrim := dropWhile_blanks (t := []) hu (by simp)
  rw [List.append_nil] at htrim
  unfold lowerBracket? trimStart
  rw [htrim]

theorem upperBracket?_of_blanks {v : List Char} (hv : Blanks v) : upperBracket? v = none := by
  have htrim := dropWhile_blanks (t := []) hv.reverse (by simp)
  rw [List.append_nil] at htrim
  unfold upperBracket? trimEnd
  rw [htrim]
  rfl

/-- What stands first is a bracket or not. -/
theorem lowerBracket?_first {u : List Char} (hu : Blanks u) {c : Char} (hc : isBlank c = false)
    (lo : List Char) :
    lowerBracket? (u ++ c :: lo) = (opening? c).map fun inclusive => (inclusive, lo) := by
  have htrim : trimStart (u ++ c :: lo) = c :: lo := by
    refine dropWhile_blanks hu ?_
    rintro d hd
    cases hd
    exact hc
  unfold lowerBracket?
  rw [htrim]

/-- What stands last is a bracket or not. -/
theorem upperBracket?_last {v : List Char} (hv : Blanks v) {c : Char} (hc : isBlank c = false)
    (hi : List Char) :
    upperBracket? (hi ++ c :: v) = (closing? c).map fun inclusive => (inclusive, hi) := by
  have htrim : trimEnd (hi ++ c :: v) = hi ++ [c] := by
    have hdrop : (v.reverse ++ c :: hi.reverse).dropWhile isBlank = c :: hi.reverse := by
      refine dropWhile_blanks hv.reverse ?_
      rintro d hd
      cases hd
      exact hc
    unfold trimEnd
    rw [List.reverse_append, List.reverse_cons, List.append_assoc, List.singleton_append, hdrop,
      List.reverse_cons, List.reverse_reverse]
  unfold upperBracket?
  simp only [htrim, List.getLast?_append, List.getLast?_singleton, Option.some_or,
    List.dropLast_concat]

theorem lowerBracket?_blanks_append {u : List Char} (hu : Blanks u) (cs : List Char) :
    lowerBracket? (u ++ cs) = lowerBracket? cs := by
  rcases blanks_or_first cs with hblank | ⟨w, c, rest, hw, hc, rfl⟩
  · rw [lowerBracket?_of_blanks hblank, lowerBracket?_of_blanks (hu.append hblank)]
  · rw [← List.append_assoc, lowerBracket?_first hw hc, lowerBracket?_first (hu.append hw) hc]

theorem upperBracket?_append_blanks {v : List Char} (hv : Blanks v) (cs : List Char) :
    upperBracket? (cs ++ v) = upperBracket? cs := by
  rcases blanks_or_last cs with hblank | ⟨rest, c, w, hw, hc, rfl⟩
  · rw [upperBracket?_of_blanks hblank, upperBracket?_of_blanks (hblank.append hv)]
  · rw [List.append_assoc, List.cons_append, upperBracket?_last hw hc,
      upperBracket?_last (hw.append hv) hc]

/-- A lower part with a bracket begins with it, but for blanks. -/
theorem lowerBracket?_eq_some_iff {cs lo : List Char} {p : Bool} :
    lowerBracket? cs = some (p, lo) ↔ ∃ u, Blanks u ∧ cs = u ++ openingOf p :: lo := by
  constructor
  · intro h
    rcases blanks_or_first cs with hblank | ⟨u, c, rest, hu, hc, rfl⟩
    · rw [lowerBracket?_of_blanks hblank] at h
      cases h
    · rw [lowerBracket?_first hu hc] at h
      obtain ⟨inclusive, hopening, heq⟩ := Option.map_eq_some_iff.mp h
      cases heq
      exact ⟨u, hu, by rw [eq_openingOf hopening]⟩
  · rintro ⟨u, hu, rfl⟩
    rw [lowerBracket?_first hu (isBlank_openingOf p), opening?_openingOf]
    rfl

/-- An upper part with a bracket ends with it, but for blanks. -/
theorem upperBracket?_eq_some_iff {cs hi : List Char} {q : Bool} :
    upperBracket? cs = some (q, hi) ↔ ∃ v, Blanks v ∧ cs = hi ++ closingOf q :: v := by
  constructor
  · intro h
    rcases blanks_or_last cs with hblank | ⟨rest, c, v, hv, hc, rfl⟩
    · rw [upperBracket?_of_blanks hblank] at h
      cases h
    · rw [upperBracket?_last hv hc] at h
      obtain ⟨inclusive, hclosing, heq⟩ := Option.map_eq_some_iff.mp h
      cases heq
      exact ⟨v, hv, by rw [eq_closingOf hclosing]⟩
  · rintro ⟨v, hv, rfl⟩
    rw [upperBracket?_last hv (isBlank_closingOf q), closing?_closingOf]
    rfl

/-! ## Reading an expression -/

/-- The reading of an expression, which only an error repeats. -/
theorem parse_eq (expression : String) :
    parse expression =
      (parseTrimmed (trim expression.toList)).mapError (SyntaxError.mk expression) := by
  unfold parse
  cases parseTrimmed (trim expression.toList) <;> rfl

/-- Neither word has a comma. -/
theorem not_word_of_comma {cs : List Char} (h : ',' ∈ cs) :
    cs ≠ ['p', 'a', 's', 't'] ∧ cs ≠ ['f', 'u', 't', 'u', 'r', 'e'] := by
  constructor <;>
    · rintro rfl
      revert h
      decide

/-- What stands between two characters is read if both are brackets. -/
theorem parseTrimmed_enclosed {first last : Char} {body : List Char}
    (hword : first :: (body ++ [last]) ≠ ['p', 'a', 's', 't'] ∧
      first :: (body ++ [last]) ≠ ['f', 'u', 't', 'u', 'r', 'e']) :
    parseTrimmed (first :: (body ++ [last])) =
      match opening? first, closing? last with
      | none, _ => .error .noOpening
      | some _, none => .error .noClosing
      | some p, some q => parseBody p q body := by
  have hlast : (first :: (body ++ [last])).getLast? = some last := by
    rw [← List.cons_append, List.getLast?_concat]
  unfold parseTrimmed
  rw [if_neg hword.1, if_neg hword.2, hlast]
  dsimp only
  rewrite [List.dropLast_concat]
  rfl

/-- What is enclosed by two characters that are not blank is left when blanks are trimmed. -/
theorem trim_enclosed {u v : List Char} (hu : Blanks u) (hv : Blanks v) {first last : Char}
    (hfirst : isBlank first = false) (hlast : isBlank last = false) (body : List Char) :
    trim (u ++ first :: (body ++ last :: v)) = first :: (body ++ [last]) := by
  have htrim := trim_around hu (Tight.between body hfirst hlast) hv
  simpa using htrim

/-- **An expression with a comma** is read part by part. -/
theorem parseTrimmed_split (a b : List Char) :
    parseTrimmed (trim (a ++ ',' :: b)) =
      match lowerBracket? a, upperBracket? b with
      | none, _ => .error .noOpening
      | some _, none => .error .noClosing
      | some (p, lo), some (q, hi) => parseBody p q (lo ++ ',' :: hi) := by
  have hcomma : isBlank ',' = false := by decide
  rcases blanks_or_first a with ha | ⟨u, first, lo, hu, hfirst, rfl⟩
  · -- the comma stands first, and it is no bracket
    rw [lowerBracket?_of_blanks ha]
    rcases blanks_or_last b with hb | ⟨hi, last, v, hv, hlast, rfl⟩
    · have hsingle := trim_around ha (Tight.single hcomma) hb
      rw [List.append_assoc, List.singleton_append] at hsingle
      rw [hsingle]
      rfl
    · rw [trim_enclosed ha hv hcomma hlast, parseTrimmed_enclosed (not_word_of_comma (by simp))]
      rfl
  · rw [lowerBracket?_first hu hfirst, List.append_assoc, List.cons_append]
    rcases blanks_or_last b with hb | ⟨hi, last, v, hv, hlast, rfl⟩
    · -- the comma stands last, and it is no bracket
      rw [trim_enclosed hu hb hfirst hcomma,
        parseTrimmed_enclosed (not_word_of_comma (by simp)), upperBracket?_of_blanks hb]
      cases opening? first <;> rfl
    · have hassoc : lo ++ ',' :: (hi ++ last :: v) = (lo ++ ',' :: hi) ++ last :: v := by simp
      rw [hassoc, trim_enclosed hu hv hfirst hlast,
        parseTrimmed_enclosed (not_word_of_comma (by simp)), upperBracket?_last hv hlast]
      cases opening? first with
      | none => rfl
      | some p => cases closing? last <;> rfl

/-- A body without a comma is a single bound. -/
theorem parseBody_single (p q : Bool) {body : List Char} (h : ',' ∉ body) :
    parseBody p q body = .error .oneBound := by
  have hbody : body.dropWhile (· != ',') = [] := by
    refine List.dropWhile_eq_nil_iff.mpr fun c hc => ?_
    simpa using ne_of_mem_of_not_mem hc h
  unfold parseBody
  rw [hbody]

/-- **An expression without a comma** is a word or malformed. -/
theorem parseTrimmed_single {cs : List Char} (h : ',' ∉ cs) :
    parseTrimmed (trim cs) =
      if trim cs = ['p', 'a', 's', 't'] then .ok .past
      else if trim cs = ['f', 'u', 't', 'u', 'r', 'e'] then .ok .future
      else if trim cs = [] then .error .empty
      else if (lowerBracket? cs).isNone then .error .noOpening
      else if (upperBracket? cs).isNone then .error .noClosing
      else .error .oneBound := by
  by_cases hpast : trim cs = ['p', 'a', 's', 't']
  · rw [if_pos hpast, hpast]
    rfl
  by_cases hfuture : trim cs = ['f', 'u', 't', 'u', 'r', 'e']
  · rw [if_neg hpast, if_pos hfuture, hfuture]
    rfl
  rw [if_neg hpast, if_neg hfuture]
  obtain ⟨u, v, hu, htight, hv, hcs⟩ := exists_around_trim cs
  generalize trim cs = t at hpast hfuture htight hcs
  subst hcs
  cases t with
  | nil => rfl
  | cons first rest =>
      have hfirst : isBlank first = false := htight.1 first rfl
      rw [if_neg (List.cons_ne_nil _ _), List.append_assoc, List.cons_append,
        lowerBracket?_first hu hfirst]
      rcases rest.eq_nil_or_concat' with rfl | ⟨body, last, rfl⟩
      · -- the same character stands first and last
        have hread : parseTrimmed [first] =
            match opening? first, closing? first with
            | none, _ => .error .noOpening
            | some _, none => .error .noClosing
            | some p, some q => parseBody p q [] := by
          unfold parseTrimmed
          rw [if_neg hpast, if_neg hfuture]
          rfl
        rw [hread, List.nil_append, upperBracket?_last hv hfirst]
        cases opening? first with
        | none => rfl
        | some p => cases closing? first <;> rfl
      · have hlast : isBlank last = false := by
          refine htight.2 last ?_
          rw [← List.cons_append, List.getLast?_concat]
          rfl
        have hassoc : u ++ first :: (body ++ [last] ++ v) = (u ++ first :: body) ++ last :: v := by
          simp
        rw [parseTrimmed_enclosed ⟨hpast, hfuture⟩, hassoc, upperBracket?_last hv hlast]
        cases opening? first with
        | none => rfl
        | some p =>
            cases closing? last with
            | none => rfl
            | some q => exact parseBody_single p q fun hmem => h (by simp [hmem])

/-- With a bracket at one of its ends, an expression without a comma is no word. -/
theorem parseTrimmed_of_bracket {cs : List Char} (h : ',' ∉ cs)
    (hbracket : (lowerBracket? cs).isNone = false ∨ (upperBracket? cs).isNone = false) :
    parseTrimmed (trim cs) =
      if (lowerBracket? cs).isNone then .error .noOpening
      else if (upperBracket? cs).isNone then .error .noClosing
      else .error .oneBound := by
  obtain ⟨u, v, hu, -, hv, hcs⟩ := exists_around_trim cs
  have hbare {t : List Char} (hlower : lowerBracket? (u ++ t ++ v) = none)
      (hupper : upperBracket? (u ++ t ++ v) = none) : trim cs ≠ t := by
    intro heq
    rw [heq] at hcs
    rw [hcs, hlower, hupper] at hbracket
    revert hbracket
    decide
  have hwords (first last : Char) (body : List Char) (hfirst : isBlank first = false)
      (hlast : isBlank last = false) (hopening : opening? first = none)
      (hclosing : closing? last = none) : trim cs ≠ first :: (body ++ [last]) := by
    have hassoc : u ++ first :: (body ++ [last]) ++ v = (u ++ first :: body) ++ last :: v := by
      simp
    refine hbare ?_ ?_
    · rw [List.append_assoc, List.cons_append, lowerBracket?_first hu hfirst, hopening]
      rfl
    · rw [hassoc, upperBracket?_last hv hlast, hclosing]
      rfl
  have hblank : Blanks (u ++ [] ++ v) := (hu.append Blanks.nil).append hv
  rw [parseTrimmed_single h, if_neg, if_neg, if_neg]
  · exact hbare (lowerBracket?_of_blanks hblank) (upperBracket?_of_blanks hblank)
  · exact hwords 'f' 'e' ['u', 't', 'u', 'r'] (by decide) (by decide) rfl rfl
  · exact hwords 'p' 't' ['a', 's'] (by decide) (by decide) rfl rfl

theorem takeWhile_comma {lo : List Char} (h : ',' ∉ lo) (hi : List Char) :
    (lo ++ ',' :: hi).takeWhile (· != ',') = lo := by
  have hlo : ∀ c ∈ lo, (c != ',') = true := fun c hc => by
    simpa using ne_of_mem_of_not_mem hc h
  rw [List.takeWhile_append_of_pos hlo]
  simp

theorem dropWhile_comma {lo : List Char} (h : ',' ∉ lo) (hi : List Char) :
    (lo ++ ',' :: hi).dropWhile (· != ',') = ',' :: hi := by
  have hlo : ∀ c ∈ lo, (c != ',') = true := fun c hc => by
    simpa using ne_of_mem_of_not_mem hc h
  rw [List.dropWhile_append_of_pos hlo]
  simp

/-- The two sides of a comma are bounds, unless there is one more comma. -/
theorem parseBody_split (p q : Bool) (lo hi : List Char) :
    parseBody p q (lo ++ ',' :: hi) =
      (if ',' ∈ lo ∨ ',' ∈ hi then .error .manyBounds
      else do
        let lower ← Bound.parse p lo
        let upper ← Bound.parse q hi
        join lower upper) := by
  unfold parseBody
  by_cases hlo : ',' ∈ lo
  · -- the reader has stopped at the first comma of all
    obtain ⟨x, y, rfl, hx⟩ := List.eq_append_cons_of_mem hlo
    rw [List.append_assoc, List.cons_append, dropWhile_comma hx, if_pos (.inl hlo)]
    simp
  · rw [takeWhile_comma hlo, dropWhile_comma hlo]
    by_cases hhi : ',' ∈ hi
    · rw [if_pos (.inr hhi)]
      simp [hhi]
    · rw [if_neg (not_or.mpr ⟨hlo, hhi⟩)]
      simp [hhi]

/-- **A range** is read bound by bound, and the bounds are joined. -/
theorem parseTrimmed_range {u v lo hi : List Char} (hu : Blanks u) (hv : Blanks v) (p q : Bool)
    (hlo : ',' ∉ lo) (hhi : ',' ∉ hi) :
    parseTrimmed (trim (u ++ openingOf p :: lo ++ ',' :: (hi ++ closingOf q :: v))) =
      (do
        let lower ← Bound.parse p lo
        let upper ← Bound.parse q hi
        join lower upper) := by
  have hlower := lowerBracket?_eq_some_iff.mpr ⟨u, hu, (rfl : u ++ openingOf p :: lo = _)⟩
  have hupper := upperBracket?_eq_some_iff.mpr ⟨v, hv, (rfl : hi ++ closingOf q :: v = _)⟩
  rw [parseTrimmed_split, hlower, hupper]
  show parseBody p q (lo ++ ',' :: hi) = _
  rw [parseBody_split, if_neg (not_or.mpr ⟨hlo, hhi⟩)]

end Interval

end FieldRules
