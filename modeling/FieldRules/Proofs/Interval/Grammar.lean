import FieldRules.Proofs.Interval.Exact
import FieldRules.Proofs.Interval.Spacing

/-!
# `Proofs.Interval.Grammar` — the expressions that are intervals

The grammar says which texts are expressions and what they denote, without a word about how to read
them: where blanks may stand, which words and numbers are bounds, and when two bounds make a range.
Order is that of the extended reals and of milliseconds. The reader accepts just these texts, and
reads each of them as what it denotes.

## Contents
- **`Bound.Denotes`** and **`Interval.Denotes`**, the grammar.
- **`Bound.parse_eq_ok_iff`**, and **`joined_iff`** for two bounds.
- **`grammar_read_exactly`**, and **`quoted_words_read_alike`**, two texts of one range.
-/

namespace FieldRules

open Calendar Number Text

/-! ## The grammar -/

/-- A word with blanks around it, or in quotes with blanks inside and around them. -/
def Bound.IsWord (word cs : List Char) : Prop :=
  Padded word cs ∨ ∃ inner, Padded (inQuotes inner) cs ∧ Padded word inner

/-- The texts of bounds and what they denote, where the bracket includes the bound or not. -/
inductive Bound.Denotes (inclusive : Bool) (cs : List Char) : Bound → Prop
  | null (word : IsWord ['n', 'u', 'l', 'l'] cs) : Denotes inclusive cs .unbounded
  | now (word : IsWord ['n', 'o', 'w'] cs) : Denotes inclusive cs (.now inclusive)
  /-- A whole number of at most 128 bits. -/
  | whole {t : List Char} {n : Int} (padded : Padded t cs) (read : readInt? t = some n)
      (fits : leastSigned128 ≤ n ∧ n ≤ greatestSigned128) :
      Denotes inclusive cs (.literal (.int n) inclusive)
  /-- Any other finite number of the double format. -/
  | decimal {t : List Char} {x : Finite64} (padded : Padded t cs)
      (read : Binary64.read? t = some (.finite x))
      (other : ∀ n, readInt? t = some n → ¬(leastSigned128 ≤ n ∧ n ≤ greatestSigned128)) :
      Denotes inclusive cs (.literal (.float (.finite x)) inclusive)
  /-- A date with or without a time of day, in quotes. -/
  | instant {inner t : List Char} {moment : Instant} (padded : Padded (inQuotes inner) cs)
      (inside : Padded t inner) (tight : Tight t) (read : readLiteral? t = some moment) :
      Denotes inclusive cs (.literal (.time moment) inclusive)

/-- The first literal is not above the second one: no greater number and no later instant. -/
def Scalar.NotAbove (s t : Scalar) : Prop :=
  (∀ x y, s.number? = some x → t.number? = some y → x ≤ y) ∧
    ∀ m m', s = .time m → t = .time m' → m.millis ≤ m'.millis

/-- Two literal bounds stand in order. -/
def Bound.NotAbove : Bound → Bound → Prop
  | .literal s _, .literal t _ => s.NotAbove t
  | _, _ => True

namespace Interval

/-- The expressions and what they denote. -/
inductive Denotes (cs : List Char) : Interval → Prop
  | past (word : Padded ['p', 'a', 's', 't'] cs) : Denotes cs .past
  | future (word : Padded ['f', 'u', 't', 'u', 'r', 'e'] cs) : Denotes cs .future
  | range {lo hi : List Char} {p q : Bool} {lower upper : Bound}
      (padded : Padded (openingOf p :: (lo ++ ',' :: hi ++ [closingOf q])) cs)
      (oneComma : ',' ∉ lo ∧ ',' ∉ hi)
      (lowerText : Bound.Denotes p lo lower) (upperText : Bound.Denotes q hi upper)
      (sameKind : ∀ d d', lower.domain? = some d → upper.domain? = some d' → d = d')
      (inOrder : lower.NotAbove upper) :
      Denotes cs (.range lower upper (domainOf? lower upper))

end Interval

/-! ## Bounds -/

namespace Bound

theorem parse_of_padded {t cs : List Char} (h : Padded t cs) (inclusive : Bool) :
    Bound.parse inclusive cs = Bound.parse inclusive t := by
  obtain ⟨u, v, hu, hv, rfl⟩ := h
  exact parse_padded hu hv inclusive t

/-- A word is read alike wherever it stands. -/
theorem parse_isWord {word cs : List Char} (h : IsWord word cs)
    (hword : word = ['n', 'u', 'l', 'l'] ∨ word = ['n', 'o', 'w']) (inclusive : Bool) :
    Bound.parse inclusive cs = Bound.parse inclusive word := by
  rcases h with padded | ⟨inner, padded, ⟨u, v, hu, hv, rfl⟩⟩
  · exact parse_of_padded padded inclusive
  · rw [parse_of_padded padded, ← (Respaced.inside word hu hv).alike.parse,
      ← (Respaced.quoted hword).alike.parse]

/-- No word is an instant. -/
theorem word?_of_readLiteral? {cs : List Char} {t : Instant} (h : readLiteral? cs = some t)
    (inclusive : Bool) : word? inclusive cs = none := by
  unfold word?
  rw [if_neg, if_neg]
  · rintro rfl
    have hnone : readLiteral? ['n', 'o', 'w'] = none := by decide
    rw [hnone] at h
    cases h
  · rintro rfl
    have hnone : readLiteral? ['n', 'u', 'l', 'l'] = none := by decide
    rw [hnone] at h
    cases h

/-- **What denotes a bound is read as the bound.** -/
theorem Denotes.parse {inclusive : Bool} {cs : List Char} {b : Bound}
    (h : Denotes inclusive cs b) : Bound.parse inclusive cs = .ok b := by
  cases h with
  | null word =>
      rw [parse_isWord word (.inl rfl)]
      cases inclusive <;> decide
  | now word =>
      rw [parse_isWord word (.inr rfl)]
      cases inclusive <;> decide
  | whole padded read fits =>
      have hread := Scalar.readNumber?_eq_int_iff.mpr ⟨read, fits⟩
      rw [parse_of_padded padded, parse_numeral (isNumeral_of_readInt? read), hread]
  | decimal padded read other =>
      have hread := Scalar.readNumber?_eq_float_iff.mpr ⟨other, read, rfl⟩
      rw [parse_of_padded padded, parse_numeral (isNumeral_of_read? read), hread]
  | instant padded inside tight read =>
      rw [parse_of_padded padded, parse_inQuotes, inside.trim_eq, trim_of_tight tight,
        word?_of_readLiteral? read, read]

/-- The word that a text is. -/
theorem Denotes.of_word? {inclusive : Bool} {word cs : List Char} {b : Bound}
    (h : word? inclusive word = some b) (hcs : IsWord word cs) : Denotes inclusive cs b := by
  unfold word? at h
  split at h
  · next hnull =>
      cases h
      exact .null (hnull ▸ hcs)
  · split at h
    · next hnow =>
        cases h
        exact .now (hnow ▸ hcs)
    · cases h

/-- The number that a text is. -/
theorem Denotes.of_readNumber? {inclusive : Bool} {t cs : List Char} {s : Scalar}
    (h : Scalar.readNumber? t = some s) (hcs : Padded t cs) :
    Denotes inclusive cs (.literal s inclusive) := by
  cases s with
  | int n =>
      obtain ⟨read, fits⟩ := Scalar.readNumber?_eq_int_iff.mp h
      exact .whole hcs read fits
  | float y =>
      obtain ⟨other, read, finite⟩ := Scalar.readNumber?_eq_float_iff.mp h
      cases y with
      | finite x => exact .decimal hcs read other
      | infinity negative => cases finite
      | nan => cases finite
  | time moment => exact absurd h (Scalar.readNumber?_ne_time t moment)

/-- **What is read as a bound denotes the bound.** -/
theorem denotes_of_parse {inclusive : Bool} {cs : List Char} {b : Bound}
    (h : Bound.parse inclusive cs = .ok b) : Denotes inclusive cs b := by
  have hcs := padded_trim cs
  unfold Bound.parse at h
  dsimp only at h
  split at h
  · cases h
  · split at h
    · next inner hquoted =>
        rw [eq_inQuotes_of_unquote? hquoted] at hcs
        have hinner := padded_trim inner
        split at h
        · next hword =>
            cases h
            exact .of_word? hword (.inr ⟨inner, hcs, hinner⟩)
        · split at h
          · next hread =>
              cases h
              exact .instant hcs hinner (tight_trim inner) hread
          · cases h
    · split at h
      · next hword =>
          cases h
          exact .of_word? hword (.inl hcs)
      · split at h
        · next hread =>
            cases h
            exact .of_readNumber? hread hcs
        · cases h

/-- **The texts of bounds are read exactly.** -/
theorem parse_eq_ok_iff {inclusive : Bool} {cs : List Char} {b : Bound} :
    Bound.parse inclusive cs = .ok b ↔ Denotes inclusive cs b :=
  ⟨denotes_of_parse, Denotes.parse⟩

end Bound

/-! ## Two bounds -/

namespace Scalar

/-- A literal is a number or an instant. -/
theorem Readable.number_or_time {s : Scalar} (h : s.Readable) :
    (∃ x, s.number? = some x) ∨ ∃ t, s = .time t := by
  cases s with
  | int n => exact .inl ⟨_, rfl⟩
  | time t => exact .inr ⟨t, rfl⟩
  | float y =>
      cases y with
      | finite y => exact .inl ⟨_, rfl⟩
      | infinity negative => cases h
      | nan => cases h

/-- **The order of literals is the one that the reader checks.** -/
theorem notAbove_iff {s t : Scalar} (hs : s.Readable) (ht : t.Readable) :
    s.NotAbove t ↔ s.compare? t ≠ some .gt := by
  have hinstant {m : Instant} {r : Scalar} {x : EReal} (hr : r.number? = some x) :
      r ≠ .time m := by
    rintro rfl
    cases hr
  rcases hs.number_or_time with ⟨a, ha⟩ | ⟨m, rfl⟩
  · rcases ht.number_or_time with ⟨b, hb⟩ | ⟨m', rfl⟩
    · rw [compare?_of_number? ha hb hs.fits ht.fits]
      have hle : s.NotAbove t ↔ a ≤ b := by
        refine ⟨fun h => h.1 a b ha hb, fun h => ⟨fun x y hx hy => ?_, fun m m' hm => ?_⟩⟩
        · rw [ha] at hx
          rw [hb] at hy
          cases hx
          cases hy
          exact h
        · exact absurd hm (hinstant ha)
      rw [hle, ← not_lt, ← cmp_eq_gt_iff]
      simp
    · -- a number and an instant have no order
      have hnone : s.compare? (.time m') = none := by
        cases s with
        | time m => cases ha
        | int n => rfl
        | float y => rfl
      refine iff_of_true ⟨fun x y _ hy => ?_, fun m _ hm => absurd hm (hinstant ha)⟩ ?_
      · cases hy
      · rw [hnone]
        simp
  · rcases ht.number_or_time with ⟨b, hb⟩ | ⟨m', rfl⟩
    · refine iff_of_true ⟨fun x y hx => ?_, fun _ m' _ hm => absurd hm (hinstant hb)⟩ ?_
      · cases hx
      · rw [compare?_of_number?_none rfl hb]
        simp
    · have hle : (time m).NotAbove (.time m') ↔ m.millis ≤ m'.millis := by
        refine ⟨fun h => h.2 m m' rfl rfl, fun h => ⟨fun x y hx => ?_, ?_⟩⟩
        · cases hx
        · rintro _ _ ⟨⟩ ⟨⟩
          exact h
      rw [hle, ← not_lt, ← compare_gt_iff_gt]
      simp [compare?]

end Scalar

namespace Interval

/-- Two bounds make a range if they are of one kind and stand in order. -/
theorem joined_iff {lower upper : Bound} (hlower : lower.Readable) (hupper : upper.Readable) :
    Joined lower upper ↔
      (∀ d d', lower.domain? = some d → upper.domain? = some d' → d = d') ∧
        lower.NotAbove upper := by
  have hordered : reversed? lower upper = none ↔ lower.NotAbove upper := by
    cases lower with
    | unbounded => exact iff_of_true rfl trivial
    | now p => exact iff_of_true rfl trivial
    | literal s p =>
        cases upper with
        | unbounded => exact iff_of_true rfl trivial
        | now q => exact iff_of_true rfl trivial
        | literal t q => exact reversed?_literal_iff.trans (Scalar.notAbove_iff hlower hupper).symm
  constructor
  · rintro ⟨domains, ordered⟩
    exact ⟨domains, hordered.mp ordered⟩
  · rintro ⟨domains, ordered⟩
    exact ⟨domains, hordered.mpr ordered⟩

/-! ## Expressions -/

/-- **What denotes an interval is read as the interval.** -/
theorem Denotes.parseTrimmed {cs : List Char} {i : Interval} (h : Denotes cs i) :
    Interval.parseTrimmed (trim cs) = .ok i := by
  cases h with
  | past word =>
      rw [word.trim_eq]
      decide
  | future word =>
      rw [word.trim_eq]
      decide
  | @range lo hi p q lower upper padded oneComma lowerText upperText sameKind inOrder =>
      obtain ⟨u, v, hu, hv, rfl⟩ := padded
      have hlower := Bound.parse_eq_ok_iff.mpr lowerText
      have hupper := Bound.parse_eq_ok_iff.mpr upperText
      have joined : Joined lower upper :=
        (joined_iff (Bound.readable_of_parse hlower) (Bound.readable_of_parse hupper)).mpr
          ⟨sameKind, inOrder⟩
      have hassoc : u ++ openingOf p :: (lo ++ ',' :: hi ++ [closingOf q]) ++ v =
          u ++ openingOf p :: lo ++ ',' :: (hi ++ closingOf q :: v) := by simp
      rw [hassoc, parseTrimmed_range hu hv p q oneComma.1 oneComma.2, hlower, hupper]
      exact join_eq_ok_iff.mpr ⟨joined, rfl⟩

/-- **What is read as an interval denotes the interval.** -/
theorem denotes_of_parseTrimmed {cs : List Char} {i : Interval}
    (h : Interval.parseTrimmed (trim cs) = .ok i) : Denotes cs i := by
  by_cases hcomma : ',' ∈ cs
  · obtain ⟨a, b, rfl⟩ := List.append_of_mem hcomma
    rw [parseTrimmed_split] at h
    split at h
    · cases h
    · cases h
    · next p lo q hi hlower hupper =>
        obtain ⟨u, hu, rfl⟩ := lowerBracket?_eq_some_iff.mp hlower
        obtain ⟨v, hv, rfl⟩ := upperBracket?_eq_some_iff.mp hupper
        rw [parseBody_split] at h
        split at h
        · cases h
        · next hfree =>
            obtain ⟨lower, hlower, hrest⟩ := bind_eq_ok h
            obtain ⟨upper, hupper, hjoin⟩ := bind_eq_ok hrest
            obtain ⟨joined, rfl⟩ := join_eq_ok_iff.mp hjoin
            obtain ⟨sameKind, inOrder⟩ := (joined_iff (Bound.readable_of_parse hlower)
              (Bound.readable_of_parse hupper)).mp joined
            exact .range ⟨u, v, hu, hv, by simp⟩ (not_or.mp hfree)
              (Bound.parse_eq_ok_iff.mp hlower) (Bound.parse_eq_ok_iff.mp hupper) sameKind inOrder
  · have hpadded := padded_trim cs
    rw [parseTrimmed_single hcomma] at h
    split at h
    · next hword =>
        cases h
        exact .past (hword ▸ hpadded)
    · split at h
      · next hword =>
          cases h
          exact .future (hword ▸ hpadded)
      · split at h
        · cases h
        · split at h
          · cases h
          · split at h
            · cases h
            · cases h

end Interval

/-- **The grammar is read exactly.** An expression is read as an interval if and only if it denotes
the interval. Blanks and quotes that make no difference to the grammar make none to what is read,
nor to what is wrong with an expression. -/
theorem grammar_read_exactly :
    (∀ (expression : String) (i : Interval),
      Interval.parse expression = .ok i ↔ Interval.Denotes expression.toList i) ∧
    ∀ expression expression' : String,
      Interval.Respaced expression.toList expression'.toList →
        (Interval.parse expression).mapError SyntaxError.fault =
          (Interval.parse expression').mapError SyntaxError.fault := by
  have hfault (expression : String) :
      (Interval.parse expression).mapError SyntaxError.fault =
        Interval.parseTrimmed (trim expression.toList) := by
    rw [Interval.parse_eq]
    cases Interval.parseTrimmed (trim expression.toList) <;> rfl
  have hok (expression : String) (i : Interval) :
      Interval.parse expression = .ok i ↔
        Interval.parseTrimmed (trim expression.toList) = .ok i := by
    rw [← hfault]
    cases Interval.parse expression with
    | ok j => simp [Except.mapError]
    | error e => simp [Except.mapError]
  refine ⟨fun expression i => (hok expression i).trans ⟨Interval.denotes_of_parseTrimmed,
    Interval.Denotes.parseTrimmed⟩, fun expression expression' respaced => ?_⟩
  rw [hfault, hfault]
  exact respaced.parseTrimmed_eq

/-- A range of all that has been, written twice. -/
theorem quoted_words_read_alike :
    Interval.Respaced "(null,now]".toList "( 'null ', now]".toList ∧
      Interval.parse "( 'null ', now]" = .ok (.range .unbounded (.now true) (some .temporal)) ∧
      (Interval.parse "(null,now]").mapError SyntaxError.fault =
        (Interval.parse "( 'null ', now]").mapError SyntaxError.fault := by
  have hnull : Bound.Respaced ['n', 'u', 'l', 'l'] ([' '] ++ inQuotes "null ".toList ++ []) :=
    ((Bound.Respaced.quoted (.inl rfl)).trans (.inside _ Blanks.nil Blanks.space)).trans
      (.around _ Blanks.space Blanks.nil)
  have hlower : Interval.Respaced "(null,now]".toList "( 'null ',now]".toList :=
    .part (.opening Blanks.nil false) (.comma "now]".toList) (by decide) hnull
  have hupper : Interval.Respaced "( 'null ',now]".toList "( 'null ', now]".toList :=
    .part (.comma "( 'null '".toList) (.closing true Blanks.nil) (by decide)
      (.around ['n', 'o', 'w'] Blanks.space Blanks.nil)
  have respaced := hlower.trans hupper
  have lowerText : Bound.Denotes false " 'null '".toList .unbounded :=
    .null (.inr ⟨"null ".toList, ⟨[' '], [], Blanks.space, Blanks.nil, by decide⟩,
      ⟨[], [' '], Blanks.nil, Blanks.space, by decide⟩⟩)
  have upperText : Bound.Denotes true " now".toList (.now true) :=
    .now (.inl ⟨[' '], [], Blanks.space, Blanks.nil, by decide⟩)
  have denotes : Interval.Denotes "( 'null ', now]".toList
      (.range .unbounded (.now true) (some .temporal)) :=
    .range ⟨[], [], Blanks.nil, Blanks.nil, by decide⟩ ⟨by decide, by decide⟩ lowerText upperText
      (fun d d' hd => by cases hd) trivial
  exact ⟨respaced, (grammar_read_exactly.1 _ _).mpr denotes, grammar_read_exactly.2 _ _ respaced⟩

end FieldRules
