import FieldRules.Proofs.Pattern.Pieces

/-!
# `Proofs.Pattern.Between` — a pattern between anchors

The reader of an anchored text begins a group after the opening anchor. From there on its state is
that of the reader of the source, with the group below all other frames. Each step keeps the two
states and what is left of the two texts together, so the source is read to its end in both. There
the group is closed, or a comment has taken its end away and it stays open.

## Contents
- **`State.inGroup`**, a state inside of the group.
- **`State.step_alike`**, one part or operator, and **`State.run_alike`**, all of them.
- **`parse_anchored`**, a source and its anchored text.
-/

namespace FieldRules.Pattern

variable {cs cs' : List Char}

/-! ## The whole pattern -/

/-- The pattern of an anchored text. -/
def Ast.anchored (a : Ast) : Ast :=
  .concat [.anchor .lineStart, .group [] none a, .anchor .lineEnd]

namespace State

/-- The same state inside of the group that stands between the anchors. -/
def inGroup (s : State) : State :=
  { s with stack := s.stack ++ [.group [.anchor .lineStart] [] none false] }

theorem closeRow_inGroup (s : State) :
    s.inGroup.closeRow =
      (s.closeRow.1, s.closeRow.2 ++ [.group [.anchor .lineStart] [] none false]) := by
  obtain ⟨stack, parts, verbose, captures, names⟩ := s
  cases stack with
  | nil => rfl
  | cons frame stack =>
      cases frame with
      | group before flags capture verbose => rfl
      | alternation branches => rfl

theorem branch_inGroup (s : State) : s.inGroup.branch = s.branch.inGroup := by
  obtain ⟨stack, parts, verbose, captures, names⟩ := s
  cases stack with
  | nil => rfl
  | cons frame stack =>
      cases frame with
      | group before flags capture verbose => rfl
      | alternation branches => rfl

theorem openGroup_inGroup (s : State) (opening : Opening) :
    s.inGroup.openGroup opening = (s.openGroup opening).map inGroup := by
  cases opening with
  | flags set => rfl
  | plain set => rfl
  | capture name =>
      cases name with
      | none => rfl
      | some name =>
          show (if s.names.contains name then _ else _) =
            Except.map inGroup (if s.names.contains name then _ else _)
          split
          · rfl
          · rfl

/-- A group that is closed in the source is closed inside of the group as well. -/
theorem closeGroup_inGroup {s s' : State} (h : s.closeGroup = .ok s') :
    s.inGroup.closeGroup = .ok s'.inGroup := by
  unfold closeGroup at h ⊢
  rw [closeRow_inGroup]
  split at h
  · next heq =>
    rw [heq]
    cases h
    rfl
  · cases h

/-- **One part or one operator,** read inside of the group. -/
theorem step_alike (s : State) (c : Char) (hb : Behind cs cs') :
    ReadAlike cs.length ((s.step c cs).map fun p => (p.1.inGroup, p.2)) (s.inGroup.step c cs') := by
  have hrepeat (least : Nat) (most : Option Nat) {ds ds' : List Char} (hds : Behind ds ds')
      (hle : ds.length ≤ cs.length) :
      ReadAlike cs.length
        (Except.map (fun p => (p.1.inGroup, p.2)) (do
          return ({ s with parts := ← repeatLast least most (takeGreed ds).1 s.parts },
            (takeGreed ds).2)))
        (do
          return ({ s.inGroup with parts := ← repeatLast least most (takeGreed ds').1 s.parts },
            (takeGreed ds').2)) := by
    obtain ⟨hgreedy, hrest, hbound⟩ := takeGreed_alike hds
    rw [hgreedy, map_bind]
    exact .bind_result fun parts _ => .ok hrest (Nat.le_trans hbound hle) _
  unfold State.step
  split
  · rw [map_bind]
    apply (takeOpening_alike s.verbose hb).bind
    intro opening rest rest' hle hrest
    simp only
    rw [openGroup_inGroup]
    cases s.openGroup opening with
    | error fault => exact .error
    | ok s' => exact .ok hrest hle _
  · cases hclose : s.closeGroup with
    | error fault => exact .error
    | ok s' =>
        rw [closeGroup_inGroup hclose]
        exact .ok hb (Nat.le_refl _) _
  · rw [branch_inGroup]
    exact .ok hb (Nat.le_refl _) _
  · rw [map_bind]
    apply (takeClass_alike s.verbose hb).bind
    intro cls rest rest' hle hrest
    exact .ok hrest hle _
  · exact hrepeat 0 (some 1) hb (Nat.le_refl _)
  · exact hrepeat 0 none hb (Nat.le_refl _)
  · exact hrepeat 1 none hb (Nat.le_refl _)
  · simp only
    rw [map_bind]
    apply ReadAlike.bind_result
    intro _ _
    rw [map_bind]
    apply (takeCounts_alike s.verbose hb).bind
    intro counts rest rest' hle hrest
    have hskip := length_skip_le s.verbose rest
    exact hrepeat counts.1 counts.2 (hrest.skip s.verbose) (Nat.le_trans hskip hle)
  · rw [map_bind]
    apply (takeEscape_alike s.verbose hb).bind
    intro e rest rest' hle hrest
    exact .ok hrest hle _
  all_goals exact .ok hb (Nat.le_refl _) _

theorem closeRow_of_finish {s : State} {a : Ast} (h : s.finish = .ok a) : s.closeRow = (a, []) := by
  unfold finish at h
  split at h
  · next heq =>
    cases h
    exact heq
  · cases h

/-- Where a comment has taken the end of the group, the group stays open. -/
theorem finish_inGroup {s : State} {a : Ast} (h : s.finish = .ok a) :
    s.inGroup.finish = .error .unclosedGroup := by
  rw [finish, closeRow_inGroup, closeRow_of_finish h]
  rfl

/-- Where nothing is left but the end of the group and its anchor, both are read. -/
theorem run_closing {s : State} {a : Ast} (h : s.finish = .ok a) (n : Nat) {cs' : List Char}
    (hcs : skip s.verbose cs' = closing) :
    run (n + 2) s.inGroup cs' = .ok a.anchored := by
  have hclose : s.inGroup.closeGroup = .ok
      { s.inGroup with
        stack := [], parts := [.group [] none a, .anchor .lineStart], verbose := false } := by
    rw [closeGroup, closeRow_inGroup, closeRow_of_finish h]
    rfl
  have hparenthesis : s.inGroup.step ')' ['$'] = .ok
      ({ s.inGroup with
        stack := [], parts := [.group [] none a, .anchor .lineStart], verbose := false }, ['$']) := by
    show (do return (← s.inGroup.closeGroup, ['$'])) = _
    rw [hclose]
    rfl
  rw [run, show skip s.inGroup.verbose cs' = [')', '$'] from hcs]
  dsimp only
  rw [hparenthesis]
  cases n with
  | zero => rfl
  | succ n => rfl

/-- **A pattern that can be read on its own** is read in the same way inside of the group, up to a
comment that takes the end of the group with it. -/
theorem run_alike {n n' : Nat} (hn : cs.length < n) (hn' : cs.length + 2 < n') {s : State} {a : Ast}
    (hb : Behind cs cs') (h : run n s cs = .ok a) :
    run n' s.inGroup cs' = .ok a.anchored ∨
      run n' s.inGroup cs' = .error .unclosedGroup := by
  induction n generalizing n' s cs cs' with
  | zero => exact absurd hn (Nat.not_lt_zero _)
  | succ n ih =>
      obtain ⟨n', rfl⟩ : ∃ m, n' = m + 2 := ⟨n' - 2, by omega⟩
      have hskip := length_skip_le s.verbose cs
      rw [run] at h
      rcases (hb.skip s.verbose).nil_or_cons with ⟨heq, hend⟩ | ⟨c, ds, ds', heq, heq', hds⟩
      · rw [heq] at h
        rcases hend with heq' | heq'
        · exact .inl (run_closing h n' heq')
        · rw [run, show skip s.inGroup.verbose cs' = [] from heq']
          exact .inr (finish_inGroup h)
      · rw [heq] at h
        obtain ⟨⟨s₁, rest⟩, hstep, h⟩ := bind_eq_ok h
        obtain ⟨hle, rest', hstep', hrest⟩ :=
          step_alike s c hds s₁.inGroup rest (by rw [hstep]; rfl)
        rw [heq, List.length_cons] at hskip
        rw [run, show skip s.inGroup.verbose cs' = c :: ds' from heq']
        dsimp only
        rw [hstep']
        exact ih (by omega) (by omega) hrest h

end State

/-- **The anchored pattern.** If the source is a pattern by itself, then it is the one that stands
between the anchors, or else the anchored text is no pattern at all. -/
theorem parse_anchored {source : List Char} {a : Ast} (h : parse source = .ok a) :
    parse (anchored source) = .ok a.anchored ∨
      parse (anchored source) = .error .unclosedGroup := by
  have hfuel : (anchored source).length + 1 = source.length + 5 + 2 := by
    simp [anchored]
  have hopen : parse (anchored source) =
      State.run (source.length + 5) State.initial.inGroup (source ++ closing) := by
    rw [parse, hfuel]
    rfl
  rw [hopen]
  exact State.run_alike (Nat.lt_succ_self _) (by omega) (.closed source) h

end FieldRules.Pattern
