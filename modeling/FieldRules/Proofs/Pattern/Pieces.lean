import FieldRules.Proofs.Pattern.Closing

/-!
# `Proofs.Pattern.Pieces` — the pieces of a pattern before a closing anchor

The reader of patterns takes a text piece by piece, and each piece has a reader of its own. None of
them sees whether the closing characters stand behind the text or not, unless it fails without them.
The proofs follow the readers branch by branch.

## Contents
- Escapes, up to **`takeEscape_alike`**.
- Bracketed classes, up to **`takeClass_alike`**, with **`FindAlike`** for what need not be there.
- Repetitions: **`takeCounts_alike`** and **`takeGreed_alike`**.
- **`takeOpening_alike`**, what comes after an opening parenthesis.
-/

namespace FieldRules.Pattern

open FieldRules.Number FieldRules.Text FieldRules.Unicode

variable {cs cs' : List Char} (verbose : Bool)

/-! ## Escapes -/

theorem takeHexDigits_alike (count : Nat) (hb : Behind cs cs') :
    ReadAlike cs.length (takeHexDigits verbose count cs) (takeHexDigits verbose count cs') := by
  induction count generalizing cs cs' with
  | zero => exact .ok hb (Nat.le_refl _) _
  | succ count ih =>
      rcases hb.nil_or_cons with ⟨rfl, -⟩ | ⟨c, tl, tl', rfl, rfl, htl⟩
      · exact .error
      · have hskip := length_skip_le verbose tl
        rw [takeHexDigits, takeHexDigits, List.length_cons]
        split
        · apply (ih (htl.skip verbose)).bind
          intro ds rest rest' hle hrest
          exact .ok hrest (by omega) _
        · exact .error

theorem takeBraced_alike {n n' : Nat} (hn : n ≤ n') (hb : Behind cs cs') :
    ReadAlike cs.length (takeBraced verbose n cs) (takeBraced verbose n' cs') := by
  induction n generalizing n' cs cs' with
  | zero => exact .error
  | succ n ih =>
      obtain ⟨n', rfl⟩ : ∃ m, n' = m + 1 := ⟨n' - 1, by omega⟩
      rcases hb.nil_or_cons with ⟨rfl, -⟩ | ⟨c, tl, tl', rfl, rfl, htl⟩
      · exact .error
      · have hskip := length_skip_le verbose tl
        rw [takeBraced, takeBraced, List.length_cons]
        split
        · exact .ok htl (Nat.le_succ _) _
        · apply (ih (Nat.le_of_succ_le_succ hn) (htl.skip verbose)).bind
          intro inner rest rest' hle hrest
          exact .ok hrest (by omega) _

theorem takeHex_alike (width : Nat) (hb : Behind cs cs') :
    ReadAlike cs.length (takeHex verbose width cs) (takeHex verbose width cs') := by
  have hskip := length_skip_le verbose cs
  have hb₁ := hb.skip verbose
  unfold takeHex
  split
  · next tl heq =>
    rw [heq] at hb₁ hskip
    obtain ⟨tl', heq', htl⟩ := hb₁.cons_left
    have hle := htl.length_le
    have htlskip := length_skip_le verbose tl
    rw [List.length_cons] at hskip
    rw [heq']
    apply (takeBraced_alike verbose (by omega) (htl.skip verbose)).bind
    intro ds rest rest' hrest hb
    have hrestskip := length_skip_le verbose rest
    dsimp only
    split
    · exact .error
    · split
      · exact .ok (hb.skip verbose) (by omega) _
      · exact .error
  · next hbrace =>
    split
    · next tl' heq' =>
      rw [heq'] at hb₁
      obtain ⟨tl, heq, -⟩ := hb₁.cons_right (by decide)
      exact absurd heq (hbrace tl)
    · apply (takeHexDigits_alike verbose width hb₁).bind
      intro ds rest rest' hrest hb
      dsimp only
      split
      · exact .ok hb (by omega) _
      · exact .error

theorem takeProperty_alike (negated : Bool) (hb : Behind cs cs') :
    ReadAlike cs.length (takeProperty verbose negated cs) (takeProperty verbose negated cs') := by
  have hskip := length_skip_le verbose cs
  have hb₁ := hb.skip verbose
  unfold takeProperty
  rcases hb₁.nil_or_cons with ⟨heq, -⟩ | ⟨c, tl, tl', heq, heq', htl⟩
  · rw [heq]
    exact .error
  · rw [heq, List.length_cons] at hskip
    have htlskip := length_skip_le verbose tl
    rw [heq, heq']
    split
    · next hnil => cases hnil
    · next hbrace =>
      injection hbrace with hc htail
      subst hc htail
      have hle := htl.length_le
      apply (takeBraced_alike verbose (by omega) (htl.skip verbose)).bind
      intro text rest rest' hrest hb
      dsimp only
      split
      · exact .ok hb (by omega) _
      · exact .error
    · next hbrace heq'' =>
      injection heq'' with hc htail
      subst hc htail
      split
      · exact .error
      · next hbackslash =>
        split
        · next p hname =>
          split
          · next hnil => cases hnil
          · next heq'' =>
            injection heq'' with hc _
            exact absurd hc hbrace
          · next heq'' =>
            injection heq'' with hc htail
            subst hc htail
            rw [if_neg hbackslash, hname]
            exact .ok (htl.skip verbose) (by omega) _
        · exact .error

theorem takeWordEdge_alike (hb : Behind cs cs') :
    ReadAlike cs.length (takeWordEdge verbose cs) (takeWordEdge verbose cs') := by
  unfold takeWordEdge
  split
  · next tl =>
    obtain ⟨tl', rfl, htl⟩ := hb.cons_left
    have hskip := length_skip_le verbose tl
    rw [List.length_cons]
    simp only
    rcases (htl.skip verbose).nil_or_cons with ⟨heq, -⟩ | ⟨c, us, us', heq, heq', hus⟩
    · rw [heq]
      exact .error
    · have hname := @takeRun_alike _ _ verbose takeEdgeName.isEdgeChar _ _ (by decide) (Nat.le_refl _)
        (Nat.le_refl _) (htl.skip verbose)
      rw [← takeEdgeName_eq, ← takeEdgeName_eq] at hname
      rw [heq, List.length_cons] at hskip
      rw [heq, heq'] at hname ⊢
      simp only
      split
      · exact .ok hb (Nat.le_refl _) _
      · rw [List.length_cons, List.length_cons] at hname
        generalize takeEdgeName verbose (us.length + 1) (c :: us) = p at hname
        generalize takeEdgeName verbose (us'.length + 1) (c :: us') = p' at hname
        obtain ⟨name, rest⟩ := p
        obtain ⟨name', rest'⟩ := p'
        obtain ⟨rfl, hrest, hle⟩ := hname
        split
        · next name after heq₁ =>
          injection heq₁ with hname hafter
          subst hname hafter
          obtain ⟨after', rfl, hafter⟩ := hrest.cons_left
          rw [List.length_cons] at hle
          simp only
          split
          · exact .ok hafter (by omega) _
          · exact .error
        · exact .error
  · next hbrace =>
    split
    · next tl' =>
      obtain ⟨tl, heq, -⟩ := hb.cons_right (by decide)
      exact absurd heq (hbrace tl)
    · exact .ok hb (Nat.le_refl _) _

theorem takeEscape_alike (hb : Behind cs cs') :
    ReadAlike cs.length (takeEscape verbose cs) (takeEscape verbose cs') := by
  rcases hb.nil_or_cons with ⟨rfl, -⟩ | ⟨c, tl, tl', rfl, rfl, htl⟩
  · exact .error
  · rw [List.length_cons]
    unfold takeEscape
    simp only
    split
    case h_1 => exact ((takeHex_alike verbose 2 htl).map Escape.literal fun _ _ => rfl).mono (by omega)
    case h_2 => exact ((takeHex_alike verbose 4 htl).map Escape.literal fun _ _ => rfl).mono (by omega)
    case h_3 => exact ((takeHex_alike verbose 8 htl).map Escape.literal fun _ _ => rfl).mono (by omega)
    case h_4 =>
      exact ((takeProperty_alike verbose false htl).map (fun q => Escape.property q.1 q.2)
        fun _ _ => rfl).mono (by omega)
    case h_5 =>
      exact ((takeProperty_alike verbose true htl).map (fun q => Escape.property q.1 q.2)
        fun _ _ => rfl).mono (by omega)
    case h_14 =>
      exact ((takeWordEdge_alike verbose htl).map (fun edge => Escape.anchor (.word edge))
        fun _ _ => rfl).mono (by omega)
    case h_18 =>
      split
      · exact .ok htl (Nat.le_succ _) _
      · split
        · exact .ok htl (Nat.le_succ _) _
        · exact .error
    -- a shorthand or an anchor is a single letter
    all_goals exact .ok htl (Nat.le_succ _) _

/-! ## Bracketed classes -/

theorem takeClassHead_alike {n n' : Nat} (hn : n ≤ n') (items : List ClassItem)
    (hb : Behind cs cs') :
    ReadAlike cs.length (takeClassHead verbose n items cs) (takeClassHead verbose n' items cs') := by
  induction n generalizing n' items cs cs' with
  | zero => exact .error
  | succ n ih =>
      obtain ⟨n', rfl⟩ : ∃ m, n' = m + 1 := ⟨n' - 1, by omega⟩
      rcases hb.nil_or_cons with ⟨rfl, -⟩ | ⟨c, tl, tl', rfl, rfl, htl⟩
      · exact .error
      · have hskip := length_skip_le verbose tl
        rw [takeClassHead, takeClassHead, List.length_cons]
        split
        · exact (ih (Nat.le_of_succ_le_succ hn) _ (htl.skip verbose)).mono (by omega)
        · split
          · rcases (htl.skip verbose).nil_or_cons with ⟨heq, -⟩ | ⟨d, us, us', heq, heq', hus⟩
            · rw [heq]
              exact .error
            · rw [heq, List.length_cons] at hskip
              have hrest := htl.skip verbose
              rw [heq, heq'] at hrest ⊢
              exact .ok hrest (by rw [List.length_cons]; omega) _
          · exact .ok hb (Nat.le_refl _) _

theorem openClass_alike (hb : Behind cs cs') :
    ReadAlike cs.length (openClass verbose cs) (openClass verbose cs') := by
  have hskip := length_skip_le verbose cs
  have hb₁ := hb.skip verbose
  unfold openClass
  split
  · exact .error
  · next tl heq =>
    rw [heq] at hb₁ hskip
    obtain ⟨tl', heq', htl⟩ := hb₁.cons_left
    have hle := htl.length_le
    have htlskip := length_skip_le verbose tl
    rw [List.length_cons] at hskip
    rw [heq']
    apply (takeClassHead_alike verbose (by omega) [] (htl.skip verbose)).bind
    intro items rest rest' hrest hb
    exact .ok hb (by omega) _
  · next hnil hcaret =>
    split
    · next heq' =>
      rw [heq'] at hb₁
      exact absurd hb₁.nil_right hnil
    · next tl' heq' =>
      rw [heq'] at hb₁
      obtain ⟨tl, heq, -⟩ := hb₁.cons_right (by decide)
      exact absurd heq (hcaret tl)
    · have hle := hb₁.length_le
      apply (takeClassHead_alike verbose (by omega) [] hb₁).bind
      intro items rest rest' hrest hb
      exact .ok hb (by omega) _

/-- What ends with a mark that is none of the closing characters ends at the same place in both
texts, or in neither of them. -/
theorem dropWhile_mark {mark : Char} (hmark : mark ∉ closing) (cs : List Char) :
    (cs.dropWhile (· != mark) = [] ∧ (cs ++ closing).dropWhile (· != mark) = []) ∨
      ∃ tl, cs.dropWhile (· != mark) = mark :: tl ∧
        (cs ++ closing).dropWhile (· != mark) = mark :: (tl ++ closing) ∧
        (cs ++ closing).takeWhile (· != mark) = cs.takeWhile (· != mark) := by
  induction cs with
  | nil =>
      left
      refine ⟨rfl, ?_⟩
      simp only [closing, List.mem_cons, List.not_mem_nil, or_false, not_or] at hmark
      simp [closing, Ne.symm hmark.1, Ne.symm hmark.2]
  | cons c cs ih =>
      rw [List.cons_append]
      by_cases hc : c = mark
      · subst hc
        right
        exact ⟨cs, by simp, by simp, by simp⟩
      · have hpos : (c != mark) = true := by simpa using hc
        simp only [List.dropWhile_cons, List.takeWhile_cons, hpos, if_true]
        rcases ih with hnone | ⟨tl, hdrop, hdrop', htake⟩
        · exact .inl hnone
        · exact .inr ⟨tl, hdrop, hdrop', congrArg (c :: ·) htake⟩

/-- The second search finds what the first one finds, and nothing where that finds nothing. -/
def FindAlike {α : Type} (bound : Nat) (p p' : Option (α × List Char)) : Prop :=
  (p = none → p' = none) ∧
    ∀ x rest, p = some (x, rest) →
      rest.length ≤ bound ∧ ∃ rest', p' = some (x, rest') ∧ Behind rest rest'

theorem FindAlike.none {α : Type} {bound : Nat} :
    FindAlike bound (Option.none : Option (α × List Char)) Option.none :=
  ⟨fun _ => rfl, fun _ _ h => nomatch h⟩

theorem FindAlike.some {α : Type} {bound : Nat} {rest rest' : List Char} (h : Behind rest rest')
    (hle : rest.length ≤ bound) (x : α) :
    FindAlike bound (Option.some (x, rest)) (Option.some (x, rest')) := by
  constructor
  · intro hnone
    cases hnone
  · rintro _ _ ⟨⟩
    exact ⟨hle, rest', rfl, h⟩

/-- The name of an ASCII class, after the colon and the caret. -/
theorem takeAsciiName_alike {p p' : Bool × List Char} {bound : Nat} (hsign : p'.1 = p.1)
    (htext : p'.2 = p.2 ++ closing) (hbound : p.2.length ≤ bound) :
    FindAlike bound
      (match p.2.dropWhile (· != ':') with
        | ':' :: ']' :: rest =>
          (AsciiClass.ofName? (p.2.takeWhile (· != ':'))).map fun cls => ((p.1, cls), rest)
        | _ => none)
      (match p'.2.dropWhile (· != ':') with
        | ':' :: ']' :: rest =>
          (AsciiClass.ofName? (p'.2.takeWhile (· != ':'))).map fun cls => ((p'.1, cls), rest)
        | _ => none) := by
  rw [hsign, htext]
  rcases @dropWhile_mark ':' (by decide) p.2 with ⟨hdrop, hdrop'⟩ | ⟨tl, hdrop, hdrop', htake⟩
  · rw [hdrop, hdrop']
    exact .none
  · have hle : (p.2.dropWhile (· != ':')).length ≤ p.2.length :=
      (List.dropWhile_sublist _).length_le
    rw [hdrop] at hle
    rw [hdrop, hdrop', htake]
    cases tl with
    | nil => exact .none
    | cons c tl =>
        rw [List.length_cons, List.length_cons] at hle
        by_cases hc : c = ']'
        · subst hc
          simp only [List.cons_append]
          cases AsciiClass.ofName? (p.2.takeWhile (· != ':')) with
          | none => exact .none
          | some cls => exact .some (.closed tl) (by omega) _
        · simp [hc, FindAlike.none]

theorem takeAsciiClass?_alike (hb : Behind cs cs') :
    FindAlike cs.length (takeAsciiClass? cs) (takeAsciiClass? cs') := by
  cases hb with
  | swallowed => exact .none
  | closed =>
      unfold takeAsciiClass?
      cases cs with
      | nil => exact .none
      | cons c tl =>
          rw [List.cons_append]
          by_cases hc : c = ':'
          · subst hc
            cases tl with
            | nil =>
                exact @takeAsciiName_alike (false, []) (false, closing) _ rfl rfl (Nat.zero_le _)
            | cons d us =>
                by_cases hd : d = '^'
                · subst hd
                  exact @takeAsciiName_alike (true, us) (true, us ++ closing) _ rfl rfl
                    (by simp; omega)
                · refine takeAsciiName_alike ?_ ?_ ?_
                  · simp [hd]
                  · simp [hd]
                  · simp [hd]
          · simp [hc, FindAlike.none]

theorem takeClassAtom_alike (hb : Behind cs cs') :
    ReadAlike cs.length (takeClassAtom verbose cs) (takeClassAtom verbose cs') ∧
      (cs = [] → ∃ fault, takeClassAtom verbose cs = .error fault) := by
  refine ⟨?_, ?_⟩
  · unfold takeClassAtom
    split
    · next tl =>
      obtain ⟨tl', rfl, htl⟩ := hb.cons_left
      exact (takeEscape_alike verbose htl).mono (Nat.le_succ _)
    · next c tl hc =>
      obtain ⟨tl', rfl, htl⟩ := hb.cons_left
      split
      · next heq =>
        injection heq with hbackslash _
        exact absurd hbackslash hc
      · next heq =>
        injection heq with hsame htail
        subst hsame htail
        exact .ok htl (Nat.le_succ _) _
      · next heq => cases heq
    · exact .error
  · rintro rfl
    exact ⟨_, rfl⟩

/-- A text of blanks only is passed over, also as a comment. -/
theorem skip_of_dropWhile_isBlank {ds : List Char} (h : ds.dropWhile isBlank = []) :
    skipBlanks ds = [] ∧ skipComment ds = [] := by
  induction ds with
  | nil => exact ⟨rfl, rfl⟩
  | cons c ds ih =>
      by_cases hc : isBlank c = true
      · rw [List.dropWhile_cons_of_pos hc] at h
        rw [skipBlanks, skipComment, if_pos hc, (ih h).1, (ih h).2, ite_self]
        exact ⟨rfl, rfl⟩
      · rw [List.dropWhile_cons_of_neg hc] at h
        cases h

theorem skipBlanks_dropWhile (ds : List Char) : skipBlanks (ds.dropWhile isBlank) = skipBlanks ds := by
  induction ds with
  | nil => rfl
  | cons c ds ih =>
      by_cases hc : isBlank c = true
      · rw [List.dropWhile_cons_of_pos hc, ih, skipBlanks, if_pos hc]
      · rw [List.dropWhile_cons_of_neg hc]

/-- The character that decides about a hyphen is the same in both texts, or nothing but blanks and a
comment is left and it decides for a range. -/
theorem afterHyphen?_alike (hb : Behind cs cs') :
    afterHyphen? verbose cs' = afterHyphen? verbose cs ∨
      skip verbose cs = [] ∧ afterHyphen? verbose cs ≠ some ']' ∧
        afterHyphen? verbose cs ≠ some '-' := by
  cases verbose with
  | false =>
      rcases hb.nil_or_cons with ⟨rfl, -⟩ | ⟨c, tl, tl', rfl, rfl, -⟩
      · exact .inr ⟨rfl, by decide, by decide⟩
      · exact .inl rfl
  | true =>
      -- a text that begins with neither a blank nor a comment decides by its first character
      have blankHead (ds : List Char) (h : ds.dropWhile isBlank = [] ∨
          ∃ comment, ds.dropWhile isBlank = '#' :: comment) :
          ds.head? ≠ some ']' ∧ ds.head? ≠ some '-' := by
        cases ds with
        | nil => exact ⟨by simp, by simp⟩
        | cons c ds =>
            by_cases hc : isBlank c = true
            · rw [List.head?_cons, Ne, Ne, Option.some.injEq, Option.some.injEq]
              refine ⟨?_, ?_⟩
              · rintro rfl
                exact absurd hc (by decide)
              · rintro rfl
                exact absurd hc (by decide)
            · rw [List.dropWhile_cons_of_neg hc] at h
              rcases h with h | ⟨comment, h⟩
              · cases h
              · injection h with hhash _
                subst hhash
                exact ⟨by simp, by simp⟩
      have hskip : skip true cs = skipBlanks (cs.dropWhile isBlank) := (skipBlanks_dropWhile cs).symm
      rw [hskip]
      simp only [afterHyphen?, Bool.not_true, Bool.false_eq_true, if_false]
      rcases (hb.dropWhile (p := isBlank) (by decide)).nil_or_cons with
        ⟨heq, -⟩ | ⟨c, tl, tl', heq, heq', htl⟩
      · rw [heq]
        exact .inr ⟨rfl, blankHead cs (.inl heq)⟩
      · rw [heq, heq']
        by_cases hc : c = '#'
        · subst hc
          rcases (htl.dropWhile (p := isBlank) (by decide)).nil_or_cons with
            ⟨hblank, -⟩ | ⟨d, us, us', hus, hus', -⟩
          · simp only [hblank]
            exact .inr ⟨(skip_of_dropWhile_isBlank hblank).2, blankHead cs (.inr ⟨tl, heq⟩)⟩
          · simp only [hus, hus']
            exact .inl rfl
        · simp [hc]

theorem takeClassItem_alike (hb : Behind cs cs') :
    ReadAlike cs.length (takeClassItem verbose cs) (takeClassItem verbose cs') := by
  apply (takeClassAtom_alike verbose hb).1.bind
  intro first rest rest' hle hrest
  have hskip := length_skip_le verbose rest
  simp only
  rcases (hrest.skip verbose).nil_or_cons with ⟨heq, -⟩ | ⟨c, tl, tl', heq, heq', htl⟩
  · rw [heq]
    exact .error
  · have hrest' := hrest.skip verbose
    rw [heq, List.length_cons] at hskip
    rw [heq, heq'] at hrest' ⊢
    by_cases hc : c = '-'
    · subst hc
      simp only
      have htlskip := length_skip_le verbose tl
      have range : ReadAlike cs.length
          (do
            let last ← takeClassAtom verbose (skip verbose tl)
            let lo ← first.toLiteral
            let hi ← last.1.toLiteral
            if lo.char ≤ hi.char then return (ClassItem.range lo hi, last.2)
            else .error .classRange)
          (do
            let last ← takeClassAtom verbose (skip verbose tl')
            let lo ← first.toLiteral
            let hi ← last.1.toLiteral
            if lo.char ≤ hi.char then return (ClassItem.range lo hi, last.2)
            else .error .classRange) := by
        apply (takeClassAtom_alike verbose (htl.skip verbose)).1.bind
        intro last after after' hafter hb
        apply ReadAlike.bind_result
        intro lo _
        apply ReadAlike.bind_result
        intro hi _
        split
        · exact .ok hb (by omega) _
        · exact .error
      rcases afterHyphen?_alike verbose htl with hsame | ⟨hnil, hbracket, hhyphen⟩
      · rw [hsame]
        split
        · exact .bind_result fun item _ => .ok hrest' (by rw [List.length_cons]; omega) _
        · exact range
      · rw [if_neg (by simp [hbracket, hhyphen])]
        obtain ⟨fault, hfault⟩ := (takeClassAtom_alike verbose (htl.skip verbose)).2 hnil
        rw [hfault]
        exact .error
    · split
      · next hnil => cases hnil
      · next hhyphen =>
        injection hhyphen with hc' _
        exact absurd hc' hc
      · split
        · next hnil => cases hnil
        · next hhyphen =>
          injection hhyphen with hc' _
          exact absurd hc' hc
        · exact .bind_result fun item _ => .ok hrest' (by rw [List.length_cons]; omega) _

theorem setOperator?_alike (hb : Behind cs cs') :
    FindAlike cs.length (setOperator? cs) (setOperator? cs') := by
  -- the second character of an operator is none of the closing ones either
  have back {d : Char} {us' : List Char} (h : Behind cs (d :: d :: us')) (hd : d ≠ ')') :
      ∃ us, cs = d :: d :: us := by
    obtain ⟨tl, rfl, htl⟩ := h.cons_right hd
    obtain ⟨us, rfl, -⟩ := htl.cons_right hd
    exact ⟨us, rfl⟩
  have forth {d : Char} {us : List Char} (h : Behind (d :: d :: us) cs') (op : SetOperator) :
      ∃ us', cs' = d :: d :: us' ∧
        FindAlike (d :: d :: us).length (Option.some (op, us)) (Option.some (op, us')) := by
    obtain ⟨tl', rfl, htl⟩ := h.cons_left
    obtain ⟨us', rfl, hus⟩ := htl.cons_left
    exact ⟨us', rfl, .some hus (by simp; omega) op⟩
  unfold setOperator?
  split
  · obtain ⟨us', rfl, h⟩ := forth hb .intersection
    exact h
  · obtain ⟨us', rfl, h⟩ := forth hb .difference
    exact h
  · obtain ⟨us', rfl, h⟩ := forth hb .symmetricDifference
    exact h
  · next hand hminus htilde =>
    split
    · obtain ⟨us, heq⟩ := back hb (by decide)
      exact absurd heq (hand us)
    · obtain ⟨us, heq⟩ := back hb (by decide)
      exact absurd heq (hminus us)
    · obtain ⟨us, heq⟩ := back hb (by decide)
      exact absurd heq (htilde us)
    · exact .none

/-- Where no bracket stands, a class goes on with a set operator or with an item. -/
theorem takeClassRest_of_no_bracket {ds : List Char} (n : Nat) (stack : List ClassFrame)
    (items : List ClassItem) (hnil : skip verbose ds ≠ [])
    (hopen : ∀ tl, skip verbose ds ≠ '[' :: tl) (hclose : ∀ tl, skip verbose ds ≠ ']' :: tl) :
    takeClassRest verbose (n + 1) stack items ds =
      (match setOperator? (skip verbose ds) with
      | some (op, cs) =>
        let (lhs, stack) := closeOperator items stack
        takeClassRest verbose n (.operator op lhs :: stack) [] cs
      | none => do
        let (item, cs) ← takeClassItem verbose (skip verbose ds)
        takeClassRest verbose n stack (item :: items) cs) := by
  rw [takeClassRest]
  split
  · exact absurd ‹_› hnil
  · exact absurd ‹_› (hopen _)
  · exact absurd ‹_› (hclose _)
  · rfl

theorem takeClassRest_alike {n n' : Nat} (hn : n ≤ n') (stack : List ClassFrame)
    (items : List ClassItem) (hb : Behind cs cs') :
    ReadAlike cs.length (takeClassRest verbose n stack items cs)
      (takeClassRest verbose n' stack items cs') := by
  induction n generalizing n' stack items cs cs' with
  | zero => exact .error
  | succ n ih =>
      obtain ⟨n', rfl⟩ : ∃ m, n' = m + 1 := ⟨n' - 1, by omega⟩
      have hle : n ≤ n' := Nat.le_of_succ_le_succ hn
      have hskip := length_skip_le verbose cs
      have hb₁ := hb.skip verbose
      rcases hb₁.nil_or_cons with ⟨heq, -⟩ | ⟨c, tl, tl', heq, heq', htl⟩
      · rw [takeClassRest, heq]
        exact .error
      · have htail : tl.length + 1 ≤ cs.length := by rwa [heq] at hskip
        by_cases hopen : c = '['
        · subst hopen
          rw [takeClassRest, takeClassRest, heq, heq']
          simp only
          obtain ⟨hnone, hsome⟩ := takeAsciiClass?_alike htl
          split
          · next negated cls rest hfound =>
            obtain ⟨hrest, rest', hfound', hbrest⟩ := hsome _ _ hfound
            rw [hfound']
            exact (ih hle _ _ hbrest).mono (by omega)
          · next hfound =>
            rw [hnone hfound]
            apply (openClass_alike verbose htl).bind
            intro opened rest rest' hrest hbrest
            exact (ih hle _ _ hbrest).mono (by omega)
        · by_cases hclose : c = ']'
          · subst hclose
            rw [takeClassRest, takeClassRest, heq, heq']
            simp only
            split
            · exact .ok htl (by omega) _
            · exact (ih hle _ _ htl).mono (by omega)
            · exact .error
          · rw [takeClassRest_of_no_bracket verbose n stack items (by simp [heq]) (by simp [heq, hopen])
                (by simp [heq, hclose]),
              takeClassRest_of_no_bracket verbose n' stack items (by simp [heq'])
                (by simp [heq', hopen]) (by simp [heq', hclose])]
            obtain ⟨hnone, hsome⟩ := setOperator?_alike hb₁
            split
            · next op rest hfound =>
              obtain ⟨hrest, rest', hfound', hbrest⟩ := hsome _ _ hfound
              rw [hfound']
              exact (ih hle _ _ hbrest).mono (by omega)
            · next hfound =>
              rw [hnone hfound]
              apply (takeClassItem_alike verbose hb₁).bind
              intro item rest rest' hrest hbrest
              exact (ih hle _ _ hbrest).mono (by omega)

theorem takeClass_alike (hb : Behind cs cs') :
    ReadAlike cs.length (takeClass verbose cs) (takeClass verbose cs') := by
  apply (openClass_alike verbose hb).bind
  intro opened rest rest' hle hrest
  have hlength := hrest.length_le
  exact (takeClassRest_alike verbose (by omega) _ _ hrest).mono hle

/-! ## Repetitions -/

theorem takeCount_alike (hb : Behind cs cs') :
    ReadAlike cs.length (takeCount verbose cs) (takeCount verbose cs') := by
  have hdrop : (cs.dropWhile isBlank).length ≤ cs.length := (List.dropWhile_sublist _).length_le
  have hdrop' : (cs'.dropWhile isBlank).length ≤ cs'.length := (List.dropWhile_sublist _).length_le
  obtain ⟨hdigits, hrest, hle⟩ := @takeRun_alike _ _ verbose Char.isDigit _ _ (by decide)
    (Nat.le_succ_of_le hdrop) (Nat.le_succ_of_le hdrop') (hb.dropWhile (p := isBlank) (by decide))
  rw [← takeCountDigits_eq, ← takeCountDigits_eq] at hdigits hrest
  rw [← takeCountDigits_eq] at hle
  unfold takeCount
  simp only
  rw [hdigits]
  have hafter := (hrest.dropWhile (p := isBlank) (by decide)).skip verbose
  have hbound : (skip verbose ((takeCountDigits verbose (cs.length + 1)
      (cs.dropWhile isBlank)).2.dropWhile isBlank)).length ≤ cs.length :=
    calc
      _ ≤ ((takeCountDigits verbose (cs.length + 1)
          (cs.dropWhile isBlank)).2.dropWhile isBlank).length := length_skip_le verbose _
      _ ≤ (takeCountDigits verbose (cs.length + 1) (cs.dropWhile isBlank)).2.length :=
        (List.dropWhile_sublist _).length_le
      _ ≤ (cs.dropWhile isBlank).length := hle
      _ ≤ cs.length := hdrop
  split
  · exact .ok hafter hbound _
  · split
    · exact .ok hafter hbound _
    · exact .error

theorem takeCounts_alike (hb : Behind cs cs') :
    ReadAlike cs.length (takeCounts verbose cs) (takeCounts verbose cs') := by
  have hskip := length_skip_le verbose cs
  have hb₁ := hb.skip verbose
  unfold takeCounts
  split
  · exact .error
  · next hnil =>
    split
    · next heq' =>
      rw [heq'] at hb₁
      exact absurd hb₁.nil_right hnil
    · apply (takeCount_alike verbose hb₁).bind
      intro least rest rest' hle hrest
      simp only
      split
      · next least tl =>
        obtain ⟨tl', rfl, htl⟩ := hrest.cons_left
        rw [List.length_cons] at hle
        exact .ok htl (by omega) _
      · next least tl =>
        obtain ⟨tl', rfl, htl⟩ := hrest.cons_left
        rw [List.length_cons] at hle
        have htlskip := length_skip_le verbose tl
        have hb₂ := htl.skip verbose
        simp only
        split
        · next after heq =>
          rw [heq] at hb₂ htlskip
          obtain ⟨after', heq', hafter⟩ := hb₂.cons_left
          rw [List.length_cons] at htlskip
          rw [heq']
          exact .ok hafter (by omega) _
        · next hbrace =>
          split
          · next after' heq' =>
            rw [heq'] at hb₂
            obtain ⟨after, heq, -⟩ := hb₂.cons_right (by decide)
            exact absurd heq (hbrace after)
          · apply (takeCount_alike verbose hb₂).bind
            intro most after after' hle' hafter
            simp only
            split
            · next most us =>
              obtain ⟨us', rfl, hus⟩ := hafter.cons_left
              rw [List.length_cons] at hle'
              simp only
              split
              · exact .ok hus (by omega) _
              · exact .error
            · exact .error
      · exact .error

theorem takeGreed_alike (hb : Behind cs cs') :
    (takeGreed cs).1 = (takeGreed cs').1 ∧ Behind (takeGreed cs).2 (takeGreed cs').2 ∧
      (takeGreed cs).2.length ≤ cs.length := by
  rcases hb.nil_or_cons with ⟨rfl, rfl | rfl⟩ | ⟨c, tl, tl', rfl, rfl, htl⟩
  · exact ⟨rfl, .closed [], Nat.le_refl 0⟩
  · exact ⟨rfl, .swallowed, Nat.le_refl 0⟩
  · by_cases hc : c = '?'
    · subst hc
      exact ⟨rfl, htl, Nat.le_succ _⟩
    · have plain (ds : List Char) : takeGreed (c :: ds) = (true, c :: ds) := by
        unfold takeGreed
        split
        · next heq =>
          injection heq with hmark _
          exact absurd hmark hc
        · rfl
      rw [plain, plain]
      exact ⟨rfl, hb, Nat.le_refl _⟩

/-! ## Groups -/

theorem takeFlags_alike (on dangling : Bool) (flags : FlagSet) (hb : Behind cs cs') :
    ReadAlike cs.length (takeFlags on dangling flags cs) (takeFlags on dangling flags cs') := by
  induction cs generalizing on dangling flags cs' with
  | nil => exact .error
  | cons c tl ih =>
      obtain ⟨tl', rfl, htl⟩ := hb.cons_left
      rw [takeFlags, takeFlags]
      split
      · split
        · exact .error
        · exact .ok hb (Nat.le_refl _) _
      · split
        · split
          · exact (ih _ _ _ htl).mono (Nat.le_succ _)
          · exact .error
        · split
          · exact .error
          · split
            · exact .error
            · exact (ih _ _ _ htl).mono (Nat.le_succ _)

/-- Flags end before a character, which is left. -/
theorem takeFlags_ne_nil {on dangling : Bool} {flags set : FlagSet} {cs rest : List Char}
    (h : takeFlags on dangling flags cs = .ok (set, rest)) : rest ≠ [] := by
  induction cs generalizing on dangling flags with
  | nil => cases h
  | cons c tl ih =>
      rw [takeFlags] at h
      split at h
      · split at h
        · cases h
        · cases h
          exact List.cons_ne_nil _ _
      · split at h
        · split at h
          · exact ih h
          · cases h
        · split at h
          · cases h
          · split at h
            · cases h
            · exact ih h

theorem takeName_alike (hb : Behind cs cs') :
    ReadAlike cs.length (takeName cs) (takeName cs') := by
  cases hb with
  | swallowed => exact .error
  | closed =>
      unfold takeName
      have hle : (cs.dropWhile (· != '>')).length ≤ cs.length := (List.dropWhile_sublist _).length_le
      rcases @dropWhile_mark '>' (by decide) cs with
        ⟨hdrop, -⟩ | ⟨tl, hdrop, hdrop', htake⟩
      · simp only [hdrop]
        exact .error
      · rw [hdrop, List.length_cons] at hle
        simp only [hdrop, hdrop', htake]
        split
        · exact .error
        · split
          · exact .ok (.closed tl) (by omega) _
          · exact .error

/-- Flags of a group or for the rest of one. -/
theorem takeOpening_flags_alike {bound : Nat} (hb : Behind cs cs') (hbound : cs.length ≤ bound) :
    ReadAlike bound
      (do
        let (flags, cs) ← takeFlags true false [] cs
        match cs with
        | ')' :: cs =>
          if flags.isEmpty then Except.error Fault.nothingToRepeat
          else return (Opening.flags flags, cs)
        | cs => return (Opening.plain flags, cs.drop 1))
      (do
        let (flags, cs) ← takeFlags true false [] cs'
        match cs with
        | ')' :: cs =>
          if flags.isEmpty then Except.error Fault.nothingToRepeat
          else return (Opening.flags flags, cs)
        | cs => return (Opening.plain flags, cs.drop 1)) := by
  intro opening rest hread
  obtain ⟨⟨flags, after⟩, hflags, hread⟩ := bind_eq_ok hread
  obtain ⟨hle, after', hflags', hafter⟩ := takeFlags_alike true false [] hb _ _ hflags
  rw [hflags']
  obtain ⟨c, tl, rfl⟩ := List.exists_cons_of_ne_nil (takeFlags_ne_nil hflags)
  obtain ⟨tl', rfl, htl⟩ := hafter.cons_left
  rw [List.length_cons] at hle
  by_cases hc : c = ')'
  · subst hc
    have halike : ReadAlike bound
        (if flags.isEmpty then .error .nothingToRepeat else .ok (Opening.flags flags, tl))
        (if flags.isEmpty then .error .nothingToRepeat else .ok (Opening.flags flags, tl')) := by
      split
      · exact .error
      · exact .ok htl (by omega) _
    exact halike opening rest hread
  · have plain (us : List Char) :
        (match c :: us with
          | ')' :: cs =>
            if flags.isEmpty then Except.error Fault.nothingToRepeat
            else return (Opening.flags flags, cs)
          | cs => return (Opening.plain flags, cs.drop 1)) = .ok (Opening.plain flags, us) := by
      split
      · next heq => exact absurd (List.cons.inj heq).1 hc
      · rfl
    have hread' := (plain tl).symm.trans hread
    cases hread'
    exact ⟨by omega, tl', plain tl', htl⟩

/-- After a question mark that begins neither a look-around nor a name, flags are read. -/
theorem takeOpening_of_flags {ds tl : List Char} (heq : skip verbose ds = '?' :: tl)
    (hequals : ∀ us, tl ≠ '=' :: us) (hnot : ∀ us, tl ≠ '!' :: us) (hangle : ∀ us, tl ≠ '<' :: us)
    (hname : ∀ us, tl ≠ 'P' :: '<' :: us) :
    takeOpening verbose ds = do
      let (flags, cs) ← takeFlags true false [] tl
      match cs with
      | ')' :: cs => if flags.isEmpty then .error .nothingToRepeat else return (.flags flags, cs)
      | cs => return (.plain flags, cs.drop 1) := by
  unfold takeOpening
  rw [heq]
  split
  · next h => exact absurd (List.cons.inj h).2 (hequals _)
  · next h => exact absurd (List.cons.inj h).2 (hnot _)
  · next h => exact absurd (List.cons.inj h).2 (hangle _)
  · next h => exact absurd (List.cons.inj h).2 (hangle _)
  · next h => exact absurd (List.cons.inj h).2 (hname _)
  · next h => exact absurd (List.cons.inj h).2 (hangle _)
  · next h =>
    obtain ⟨-, rfl⟩ := List.cons.inj h
    rfl
  · next h => exact absurd rfl (h tl)

theorem takeOpening_alike (hb : Behind cs cs') :
    ReadAlike cs.length (takeOpening verbose cs) (takeOpening verbose cs') := by
  have hskip := length_skip_le verbose cs
  have named {tl tl' : List Char} (htl : Behind tl tl') (hle : tl.length ≤ cs.length) :
      ReadAlike cs.length
        ((takeName tl).map fun name => (Opening.capture (some name.1), name.2))
        ((takeName tl').map fun name => (Opening.capture (some name.1), name.2)) :=
    ((takeName_alike htl).map (fun name => Opening.capture (some name)) fun _ _ => rfl).mono hle
  rcases (hb.skip verbose).nil_or_cons with ⟨heq, heq'⟩ | ⟨c, tl, tl', heq, heq', htl⟩
  · unfold takeOpening
    rw [heq]
    rcases heq' with heq' | heq'
    · rw [heq']
      exact .ok (.closed []) (Nat.zero_le _) _
    · rw [heq']
      exact .ok .swallowed (Nat.zero_le _) _
  · rw [heq, List.length_cons] at hskip
    by_cases hmark : c = '?'
    · subst hmark
      rcases htl.nil_or_cons with ⟨rfl, -⟩ | ⟨d, us, us', rfl, rfl, hus⟩
      · unfold takeOpening
        rw [heq]
        exact .error
      · rw [List.length_cons] at hskip
        by_cases hangle : d = '<'
        · subst hangle
          unfold takeOpening
          rw [heq, heq']
          rcases hus.nil_or_cons with ⟨rfl, -⟩ | ⟨e, vs, vs', rfl, rfl, -⟩
          · exact .error
          · by_cases hequals : e = '='
            · subst hequals
              exact .error
            · by_cases hnot : e = '!'
              · subst hnot
                exact .error
              · simpa [hequals, hnot] using named hus (by omega)
        · by_cases hequals : d = '='
          · subst hequals
            unfold takeOpening
            rw [heq]
            exact .error
          · by_cases hnot : d = '!'
            · subst hnot
              unfold takeOpening
              rw [heq]
              exact .error
            · by_cases hname : ∃ vs, d = 'P' ∧ us = '<' :: vs
              · obtain ⟨vs, rfl, rfl⟩ := hname
                obtain ⟨vs', rfl, hvs⟩ := hus.cons_left
                rw [List.length_cons] at hskip
                unfold takeOpening
                rw [heq, heq']
                exact named hvs (by omega)
              · have hname' : ¬∃ vs, d = 'P' ∧ us' = '<' :: vs := by
                  rintro ⟨vs', rfl, rfl⟩
                  obtain ⟨vs, rfl, -⟩ := hus.cons_right (by decide)
                  exact hname ⟨vs, rfl, rfl⟩
                have headNe {e : Char} (h : ¬d = e) (ds vs : List Char) : d :: ds ≠ e :: vs :=
                  fun heq => h (List.cons.inj heq).1
                have nameNe {ds : List Char} (h : ¬∃ vs, d = 'P' ∧ ds = '<' :: vs)
                    (vs : List Char) : d :: ds ≠ 'P' :: '<' :: vs :=
                  fun heq => h ⟨vs, List.cons.inj heq⟩
                rw [takeOpening_of_flags verbose heq (headNe hequals us) (headNe hnot us)
                    (headNe hangle us) (nameNe hname),
                  takeOpening_of_flags verbose heq' (headNe hequals us') (headNe hnot us')
                    (headNe hangle us') (nameNe hname')]
                exact takeOpening_flags_alike htl (by rw [List.length_cons]; omega)
    · have hwhole := hb.skip verbose
      unfold takeOpening
      rw [heq, heq'] at hwhole ⊢
      simpa [hmark] using ReadAlike.ok hwhole (by simp; omega) (Opening.capture none)

end FieldRules.Pattern
