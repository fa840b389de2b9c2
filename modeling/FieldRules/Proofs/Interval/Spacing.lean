import FieldRules.Proofs.Interval.Layout

/-!
# `Proofs.Interval.Spacing` — blanks and quotes that make no difference

The brackets at the two ends and the commas take an expression apart, whether it is well-formed or
not. Each part may have blanks around it, quotes may have blanks inside, and `null` and `now` may
stand in quotes. None of this changes what an expression is read as, or what is wrong with it.

The proof keeps to one part at a time. `Bound.Alike` is all that the reader can find out about a
part: what it is read as, whether it has a comma, and whether it begins or ends with a bracket.

## Contents
- **`Bound.Respaced`** and **`Interval.Respaced`**, texts that differ in blanks and quotes only.
- **`Bound.Respaced.alike`**, and **`Interval.Respaced.parseTrimmed_eq`** for whole expressions.
-/

namespace FieldRules

open Text

theorem comma_not_mem_blanks {u : List Char} (hu : Blanks u) : ',' ∉ u := by
  intro hmem
  cases hu ',' hmem

/-! ## Texts that differ in blanks and quotes -/

/-- Two texts of a bound differ in blanks around it, in blanks inside of quotes, and in quotes around
a word. -/
inductive Bound.Respaced : List Char → List Char → Prop
  | around {u v : List Char} (cs : List Char) (hu : Blanks u) (hv : Blanks v) :
      Respaced cs (u ++ cs ++ v)
  | inside {u v : List Char} (cs : List Char) (hu : Blanks u) (hv : Blanks v) :
      Respaced (inQuotes cs) (inQuotes (u ++ cs ++ v))
  | quoted {word : List Char} (hword : word = ['n', 'u', 'l', 'l'] ∨ word = ['n', 'o', 'w']) :
      Respaced word (inQuotes word)
  | symm {cs cs' : List Char} (h : Respaced cs cs') : Respaced cs' cs
  | trans {cs cs' cs'' : List Char} (h : Respaced cs cs') (h' : Respaced cs' cs'') :
      Respaced cs cs''

namespace Interval

/-- What stands before a part: nothing, a comma, or the opening bracket. -/
inductive LeftEdge : List Char → Prop
  | start : LeftEdge []
  | comma (before : List Char) : LeftEdge (before ++ [','])
  | opening {u : List Char} (hu : Blanks u) (p : Bool) : LeftEdge (u ++ [openingOf p])

/-- What stands after a part: nothing, a comma, or the closing bracket. -/
inductive RightEdge : List Char → Prop
  | stop : RightEdge []
  | comma (after : List Char) : RightEdge (',' :: after)
  | closing {v : List Char} (q : Bool) (hv : Blanks v) : RightEdge (closingOf q :: v)

theorem LeftEdge.comma_or {l : List Char} (h : LeftEdge l) :
    (∃ before, l = before ++ [',']) ∨ ',' ∉ l := by
  cases h with
  | start => exact .inr (by simp)
  | comma before => exact .inl ⟨before, rfl⟩
  | opening hu p =>
      refine .inr ?_
      cases p <;> simp [openingOf, comma_not_mem_blanks hu]

theorem RightEdge.comma_or {r : List Char} (h : RightEdge r) :
    (∃ after, r = ',' :: after) ∨ ',' ∉ r := by
  cases h with
  | stop => exact .inr (by simp)
  | comma after => exact .inl ⟨after, rfl⟩
  | closing q hv =>
      refine .inr ?_
      cases q <;> simp [closingOf, comma_not_mem_blanks hv]

/-- Two expressions, well-formed or not, differ in blanks and quotes of their parts. -/
inductive Respaced : List Char → List Char → Prop
  | part {l r cs cs' : List Char} (hl : LeftEdge l) (hr : RightEdge r) (hcomma : ',' ∉ cs)
      (h : Bound.Respaced cs cs') : Respaced (l ++ cs ++ r) (l ++ cs' ++ r)
  | symm {cs cs' : List Char} (h : Respaced cs cs') : Respaced cs' cs
  | trans {cs cs' cs'' : List Char} (h : Respaced cs cs') (h' : Respaced cs' cs'') :
      Respaced cs cs''

/-! ## What the reader finds out about a part -/

/-- The same bracket or none, around texts that are the same to the reader: both have a comma, or
both are read as the same bound. -/
inductive Same : Option (Bool × List Char) → Option (Bool × List Char) → Prop
  | none : Same none none
  | some (p : Bool) {cs cs' : List Char} (comma : ',' ∈ cs ↔ ',' ∈ cs')
      (parse : ',' ∉ cs → Bound.parse p cs = Bound.parse p cs') : Same (some (p, cs)) (some (p, cs'))

namespace Same

theorem refl (o : Option (Bool × List Char)) : Same o o := by
  cases o with
  | none => exact .none
  | some part => exact .some part.1 Iff.rfl fun _ => rfl

theorem symm {o o' : Option (Bool × List Char)} (h : Same o o') : Same o' o := by
  cases h with
  | none => exact .none
  | some p comma parse => exact .some p comma.symm fun hcs => (parse (mt comma.mp hcs)).symm

theorem trans {o o' o'' : Option (Bool × List Char)} (h : Same o o') (h' : Same o' o'') :
    Same o o'' := by
  cases h with
  | none => exact h'
  | some p comma parse =>
      cases h' with
      | some _ comma' parse' =>
          exact .some p (comma.trans comma') fun hcs =>
            (parse hcs).trans (parse' (mt comma.mpr hcs))

theorem isNone_eq {o o' : Option (Bool × List Char)} (h : Same o o') : o.isNone = o'.isNone := by
  cases h <;> rfl

end Same

end Interval

/-- The same to the reader, whatever stands around. -/
structure Bound.Alike (cs cs' : List Char) : Prop where
  blanks : Blanks cs ↔ Blanks cs'
  comma : ',' ∈ cs ↔ ',' ∈ cs'
  parse : ∀ inclusive, Bound.parse inclusive cs = Bound.parse inclusive cs'
  alone : Interval.parseTrimmed (trim cs) = Interval.parseTrimmed (trim cs')
  lower : Interval.Same (Interval.lowerBracket? cs) (Interval.lowerBracket? cs')
  upper : Interval.Same (Interval.upperBracket? cs) (Interval.upperBracket? cs')

namespace Bound

theorem Alike.symm {cs cs' : List Char} (h : Alike cs cs') : Alike cs' cs where
  blanks := h.blanks.symm
  comma := h.comma.symm
  parse inclusive := (h.parse inclusive).symm
  alone := h.alone.symm
  lower := h.lower.symm
  upper := h.upper.symm

theorem Alike.trans {cs cs' cs'' : List Char} (h : Alike cs cs') (h' : Alike cs' cs'') :
    Alike cs cs'' where
  blanks := h.blanks.trans h'.blanks
  comma := h.comma.trans h'.comma
  parse inclusive := (h.parse inclusive).trans (h'.parse inclusive)
  alone := h.alone.trans h'.alone
  lower := h.lower.trans h'.lower
  upper := h.upper.trans h'.upper

theorem Alike.around {u v : List Char} (cs : List Char) (hu : Blanks u) (hv : Blanks v) :
    Alike cs (u ++ cs ++ v) where
  blanks := by
    refine ⟨fun h => (hu.append h).append hv, fun h c hc => h c ?_⟩
    exact List.mem_append_left v (List.mem_append_right u hc)
  comma := by
    simp [comma_not_mem_blanks hu, comma_not_mem_blanks hv]
  parse inclusive := (Bound.parse_padded hu hv inclusive cs).symm
  alone := by rw [trim_padded hu hv]
  lower := by
    rcases blanks_or_first cs with hblank | ⟨w, c, rest, hw, hc, rfl⟩
    · rw [Interval.lowerBracket?_of_blanks hblank, Interval.lowerBracket?_of_blanks ((hu.append hblank).append hv)]
      exact .none
    · have hassoc : u ++ (w ++ c :: rest) ++ v = (u ++ w) ++ c :: (rest ++ v) := by simp
      rw [hassoc, Interval.lowerBracket?_first hw hc, Interval.lowerBracket?_first (hu.append hw) hc]
      cases Interval.opening? c with
      | none => exact .none
      | some p =>
          refine .some p (by simp [comma_not_mem_blanks hv]) fun _ => ?_
          exact (Bound.parse_padded Blanks.nil hv p rest).symm
  upper := by
    rcases blanks_or_last cs with hblank | ⟨rest, c, w, hw, hc, rfl⟩
    · rw [Interval.upperBracket?_of_blanks hblank, Interval.upperBracket?_of_blanks ((hu.append hblank).append hv)]
      exact .none
    · have hassoc : u ++ (rest ++ c :: w) ++ v = (u ++ rest) ++ c :: (w ++ v) := by simp
      rw [hassoc, Interval.upperBracket?_last hw hc, Interval.upperBracket?_last (hw.append hv) hc]
      cases Interval.closing? c with
      | none => exact .none
      | some q =>
          refine .some q (by simp [comma_not_mem_blanks hu]) fun _ => ?_
          have hpadded := Bound.parse_padded hu Blanks.nil q rest
          rw [List.append_nil] at hpadded
          exact hpadded.symm

/-- A text without brackets at its ends, which is no expression by itself. -/
structure Plain (cs : List Char) : Prop where
  not_blanks : ¬Blanks cs
  alone : Interval.parseTrimmed (trim cs) = .error .noOpening
  lower : Interval.lowerBracket? cs = none
  upper : Interval.upperBracket? cs = none

theorem plain_inQuotes (cs : List Char) : Plain (inQuotes cs) where
  not_blanks h := by
    have hquote := h '\'' List.mem_cons_self
    cases hquote
  alone := by
    rw [trim_of_tight (tight_inQuotes cs), inQuotes,
      Interval.parseTrimmed_enclosed ⟨by simp, by simp⟩]
    rfl
  lower := Interval.lowerBracket?_first Blanks.nil (by decide) (cs ++ ['\''])
  upper := Interval.upperBracket?_last Blanks.nil (by decide) ('\'' :: cs)

theorem plain_word {word : List Char}
    (h : word = ['n', 'u', 'l', 'l'] ∨ word = ['n', 'o', 'w']) : Plain word := by
  rcases h with rfl | rfl
  · exact ⟨fun h => absurd (h 'n' (by simp)) (by decide), by decide, by decide, by decide⟩
  · exact ⟨fun h => absurd (h 'n' (by simp)) (by decide), by decide, by decide, by decide⟩

theorem Alike.of_plain {cs cs' : List Char} (h : Plain cs) (h' : Plain cs')
    (comma : ',' ∈ cs ↔ ',' ∈ cs')
    (parse : ∀ inclusive, Bound.parse inclusive cs = Bound.parse inclusive cs') : Alike cs cs' where
  blanks := iff_of_false h.not_blanks h'.not_blanks
  comma := comma
  parse := parse
  alone := h.alone.trans h'.alone.symm
  lower := by
    rw [h.lower, h'.lower]
    exact .none
  upper := by
    rw [h.upper, h'.upper]
    exact .none

/-- **Respaced texts of a bound are the same to the reader.** -/
theorem Respaced.alike {cs cs' : List Char} (h : Respaced cs cs') : Alike cs cs' := by
  induction h with
  | around cs hu hv => exact Alike.around cs hu hv
  | inside cs hu hv =>
      refine Alike.of_plain (plain_inQuotes _) (plain_inQuotes _) ?_ fun inclusive => ?_
      · simp [inQuotes, comma_not_mem_blanks hu, comma_not_mem_blanks hv]
      · rw [parse_inQuotes, parse_inQuotes, trim_padded hu hv]
  | quoted hword =>
      refine Alike.of_plain (plain_word hword) (plain_inQuotes _) ?_ fun inclusive => ?_
      · simp [inQuotes]
      · rcases hword with rfl | rfl <;> cases inclusive <;> decide
  | symm _ ih => exact ih.symm
  | trans _ _ ih ih' => exact ih.trans ih'

end Bound

/-! ## Parts of an expression -/

namespace Interval

section Parts

variable {cs cs' : List Char}

/-- A part may be changed behind its left edge. -/
theorem lowerBracket?_append {l : List Char} (hl : LeftEdge l) (h : Bound.Alike cs cs') :
    Same (lowerBracket? (l ++ cs)) (lowerBracket? (l ++ cs')) := by
  cases hl with
  | start => exact h.lower
  | comma before =>
      have hassoc (t : List Char) : before ++ [','] ++ t = before ++ ',' :: t := by simp
      rw [hassoc, hassoc]
      rcases blanks_or_first before with hblank | ⟨u, c, rest, hu, hc, rfl⟩
      · rw [lowerBracket?_first hblank (by decide), lowerBracket?_first hblank (by decide)]
        exact .none
      · rw [List.append_assoc, List.append_assoc, List.cons_append, List.cons_append,
          lowerBracket?_first hu hc, lowerBracket?_first hu hc]
        cases opening? c with
        | none => exact .none
        | some p => exact .some p (by simp) fun hcomma => absurd (by simp) hcomma
  | @opening u hu p =>
      have hassoc (t : List Char) : u ++ [openingOf p] ++ t = u ++ openingOf p :: t := by simp
      rw [hassoc, hassoc, lowerBracket?_first hu (isBlank_openingOf p),
        lowerBracket?_first hu (isBlank_openingOf p), opening?_openingOf]
      exact .some p h.comma fun _ => h.parse p

/-- A part may be changed before its right edge. -/
theorem upperBracket?_append {r : List Char} (hr : RightEdge r) (h : Bound.Alike cs cs') :
    Same (upperBracket? (cs ++ r)) (upperBracket? (cs' ++ r)) := by
  cases hr with
  | stop =>
      rw [List.append_nil, List.append_nil]
      exact h.upper
  | comma after =>
      rcases blanks_or_last after with hblank | ⟨rest, c, v, hv, hc, rfl⟩
      · rw [upperBracket?_last hblank (by decide), upperBracket?_last hblank (by decide)]
        exact .none
      · have hassoc (t : List Char) :
            t ++ ',' :: (rest ++ c :: v) = (t ++ ',' :: rest) ++ c :: v := by simp
        rw [hassoc, hassoc, upperBracket?_last hv hc, upperBracket?_last hv hc]
        cases closing? c with
        | none => exact .none
        | some q => exact .some q (by simp) fun hcomma => absurd (by simp) hcomma
  | closing q hv =>
      rw [upperBracket?_last hv (isBlank_closingOf q), upperBracket?_last hv (isBlank_closingOf q),
        closing?_closingOf]
      exact .some q h.comma fun _ => h.parse q

theorem isNone_lowerBracket?_append {a : List Char} (ha : ¬Blanks a) (b : List Char) :
    (lowerBracket? (a ++ b)).isNone = (lowerBracket? a).isNone := by
  obtain ⟨u, c, rest, hu, hc, rfl⟩ := (blanks_or_first a).resolve_left ha
  rw [List.append_assoc, List.cons_append, lowerBracket?_first hu hc, lowerBracket?_first hu hc,
    Option.isNone_map, Option.isNone_map]

theorem isNone_upperBracket?_append {b : List Char} (hb : ¬Blanks b) (a : List Char) :
    (upperBracket? (a ++ b)).isNone = (upperBracket? b).isNone := by
  obtain ⟨rest, c, v, hv, hc, rfl⟩ := (blanks_or_last b).resolve_left hb
  rw [← List.append_assoc, upperBracket?_last hv hc, upperBracket?_last hv hc, Option.isNone_map,
    Option.isNone_map]

/-- Whether a bracket stands first is up to the first text that is not blank. -/
theorem isNone_lowerBracket?_congr (h : Bound.Alike cs cs') (l r : List Char) :
    (lowerBracket? (l ++ cs ++ r)).isNone = (lowerBracket? (l ++ cs' ++ r)).isNone := by
  rw [List.append_assoc, List.append_assoc]
  by_cases hl : Blanks l
  · rw [lowerBracket?_blanks_append hl, lowerBracket?_blanks_append hl]
    by_cases hcs : Blanks cs
    · rw [lowerBracket?_blanks_append hcs, lowerBracket?_blanks_append (h.blanks.mp hcs)]
    · rw [isNone_lowerBracket?_append hcs, isNone_lowerBracket?_append (mt h.blanks.mpr hcs)]
      exact h.lower.isNone_eq
  · rw [isNone_lowerBracket?_append hl, isNone_lowerBracket?_append hl]

/-- Whether a bracket stands last is up to the last text that is not blank. -/
theorem isNone_upperBracket?_congr (h : Bound.Alike cs cs') (l r : List Char) :
    (upperBracket? (l ++ cs ++ r)).isNone = (upperBracket? (l ++ cs' ++ r)).isNone := by
  by_cases hr : Blanks r
  · rw [upperBracket?_append_blanks hr, upperBracket?_append_blanks hr]
    by_cases hcs : Blanks cs
    · rw [upperBracket?_append_blanks hcs, upperBracket?_append_blanks (h.blanks.mp hcs)]
    · rw [isNone_upperBracket?_append hcs, isNone_upperBracket?_append (mt h.blanks.mpr hcs)]
      exact h.upper.isNone_eq
  · rw [isNone_upperBracket?_append hr, isNone_upperBracket?_append hr]

end Parts

/-- Expressions with a comma whose two sides are the same to the reader. -/
theorem parseTrimmed_split_congr {a a' b b' : List Char}
    (hlower : Same (lowerBracket? a) (lowerBracket? a'))
    (hupper : Same (upperBracket? b) (upperBracket? b')) :
    parseTrimmed (trim (a ++ ',' :: b)) = parseTrimmed (trim (a' ++ ',' :: b')) := by
  rw [parseTrimmed_split, parseTrimmed_split]
  generalize lowerBracket? a = lower, lowerBracket? a' = lower' at hlower
  generalize upperBracket? b = upper, upperBracket? b' = upper' at hupper
  cases hlower with
  | none => rfl
  | some p comma parse =>
      cases hupper with
      | none => rfl
      | some q comma' parse' =>
          show parseBody p q _ = parseBody p q _
          rw [parseBody_split, parseBody_split]
          split
          · next hcomma => rw [if_pos ((or_congr comma comma').mp hcomma)]
          · next hcomma =>
              rw [if_neg (mt (or_congr comma comma').mpr hcomma)]
              rw [not_or] at hcomma
              rw [parse hcomma.1, parse' hcomma.2]

/-- Expressions with no comma, but with a bracket at the same end or at both. -/
theorem parseTrimmed_single_congr {cs cs' : List Char} (h : ',' ∉ cs) (h' : ',' ∉ cs')
    (hlower : (lowerBracket? cs).isNone = (lowerBracket? cs').isNone)
    (hupper : (upperBracket? cs).isNone = (upperBracket? cs').isNone)
    (hbracket : (lowerBracket? cs).isNone = false ∨ (upperBracket? cs).isNone = false) :
    parseTrimmed (trim cs) = parseTrimmed (trim cs') := by
  rw [parseTrimmed_of_bracket h hbracket, hlower, hupper]
  rw [hlower, hupper] at hbracket
  rw [parseTrimmed_of_bracket h' hbracket]

/-- **Blanks and quotes make no difference** to what an expression is read as, and none to what is
wrong with it. -/
theorem Respaced.parseTrimmed_eq {cs cs' : List Char} (h : Respaced cs cs') :
    parseTrimmed (trim cs) = parseTrimmed (trim cs') := by
  induction h with
  | @part l r cs cs' hl hr hcomma h =>
      have h := h.alike
      rcases hl.comma_or with ⟨before, rfl⟩ | hl'
      · have hassoc (t : List Char) : before ++ [','] ++ t ++ r = before ++ ',' :: (t ++ r) := by
          simp
        rw [hassoc, hassoc]
        exact parseTrimmed_split_congr (.refl _) (upperBracket?_append hr h)
      rcases hr.comma_or with ⟨after, rfl⟩ | hr'
      · exact parseTrimmed_split_congr (lowerBracket?_append hl h) (.refl _)
      -- no comma stands next to the part, so there is none at all
      have hfree {t : List Char} (ht : ',' ∉ t) : ',' ∉ l ++ t ++ r := by
        simp [hl', ht, hr']
      by_cases hbracket : (lowerBracket? (l ++ cs ++ r)).isNone = false ∨
          (upperBracket? (l ++ cs ++ r)).isNone = false
      · exact parseTrimmed_single_congr (hfree hcomma) (hfree (mt h.comma.mpr hcomma))
          (isNone_lowerBracket?_congr h l r) (isNone_upperBracket?_congr h l r) hbracket
      · rw [not_or] at hbracket
        -- without a bracket the part is the expression
        cases hl with
        | comma before => exact absurd (by simp) hl'
        | opening hu p =>
            refine absurd ?_ hbracket.1
            rw [List.append_assoc, List.append_assoc, List.singleton_append,
              lowerBracket?_first hu (isBlank_openingOf p), opening?_openingOf]
            rfl
        | start =>
            cases hr with
            | comma after => exact absurd (by simp) hr'
            | closing q hv =>
                refine absurd ?_ hbracket.2
                rw [upperBracket?_last hv (isBlank_closingOf q), closing?_closingOf]
                rfl
            | stop =>
                rw [List.nil_append, List.nil_append, List.append_nil, List.append_nil]
                exact h.alone
  | symm _ ih => exact ih.symm
  | trans _ _ ih ih' => exact ih.trans ih'

end Interval

end FieldRules
