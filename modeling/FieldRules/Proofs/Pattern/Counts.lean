import FieldRules.Pattern.Compile
import FieldRules.Proofs.Pattern.Search
import FieldRules.Proofs.Text.Reading

/-!
# `Proofs.Pattern.Counts` — the counts of repetitions

A repetition asks for a least number of matches and may allow a greatest one. The reader of patterns
turns down counts in the wrong order, and nothing that happens to a pattern on its way to an
expression brings them out of order again. So the search, which needs this, finds exactly the
matches of every compiled pattern.

## Contents
- **`Ast.Ordered`** and **`parse_ordered`**, patterns as they are written.
- **`Form.Ordered`** and **`resolve_ordered`**, patterns in normal form.
- **`compile_ordered`**, compiled patterns.
-/

namespace FieldRules.Pattern

open FieldRules.Unicode

/-- Counts that can be met: the greatest one, if there is one, is not below the least one. -/
def CountsOrdered (least : Nat) (most : Option Nat) : Prop :=
  ∀ m ∈ most, least ≤ m

/-! ## As it is written -/

mutual

/-- The counts of all repetitions can be met. -/
def Ast.Ordered : Ast → Prop
  | .repetition least most _ sub => CountsOrdered least most ∧ sub.Ordered
  | .group _ _ sub => sub.Ordered
  | .alternation branches => Ast.AllOrdered branches
  | .concat parts => Ast.AllOrdered parts
  | _ => True

/-- The counts of all repetitions in a list can be met. -/
def Ast.AllOrdered : List Ast → Prop
  | [] => True
  | a :: as => a.Ordered ∧ Ast.AllOrdered as

end

theorem Ast.allOrdered_iff {as : List Ast} : AllOrdered as ↔ ∀ a ∈ as, a.Ordered := by
  induction as with
  | nil => simp [AllOrdered]
  | cons a as ih => rw [AllOrdered, ih, List.forall_mem_cons]

theorem Ast.ordered_ofParts {as : List Ast} (h : ∀ a ∈ as, a.Ordered) : (ofParts as).Ordered := by
  unfold ofParts
  split
  · trivial
  · exact h _ List.mem_cons_self
  · exact allOrdered_iff.mpr h

/-- The counts in an open frame can be met. -/
def Frame.Ordered : Frame → Prop
  | .group before _ _ _ => ∀ a ∈ before, a.Ordered
  | .alternation branches => ∀ a ∈ branches, a.Ordered

/-- The counts of everything read so far can be met. -/
structure State.Ordered (s : State) : Prop where
  parts : ∀ a ∈ s.parts, a.Ordered
  stack : ∀ f ∈ s.stack, f.Ordered

theorem repeatLast_ordered {least : Nat} {most : Option Nat} {greedy : Bool} {parts parts' : List Ast}
    (hcounts : CountsOrdered least most) (hparts : ∀ a ∈ parts, a.Ordered)
    (h : repeatLast least most greedy parts = .ok parts') : ∀ a ∈ parts', a.Ordered := by
  unfold repeatLast at h
  split at h
  · cases h
  · cases h
  · cases h
  · cases h
    rw [List.forall_mem_cons] at hparts ⊢
    exact ⟨⟨hcounts, hparts.1⟩, hparts.2⟩

/-- **Counts in the wrong order are turned down.** -/
theorem takeCounts_ordered {verbose : Bool} {cs rest : List Char} {least : Nat} {most : Option Nat}
    (h : takeCounts verbose cs = .ok ((least, most), rest)) : CountsOrdered least most := by
  unfold takeCounts at h
  split at h
  · cases h
  · obtain ⟨⟨first, cs₁⟩, -, h⟩ := bind_eq_ok h
    dsimp only at h
    split at h
    · cases h
      rintro m ⟨⟩
      exact Nat.le_refl _
    · split at h
      · cases h
        rintro m ⟨⟩
      · obtain ⟨⟨second, cs₂⟩, -, h⟩ := bind_eq_ok h
        dsimp only at h
        split at h
        · split at h
          · next hle =>
            cases h
            rintro m ⟨⟩
            exact hle
          · cases h
        · cases h
    · cases h

namespace State

variable {s s' : State}

theorem Ordered.row (h : s.Ordered) : s.row.Ordered :=
  Ast.ordered_ofParts fun a ha => h.parts a (List.mem_reverse.mp ha)

theorem Ordered.add (h : s.Ordered) {a : Ast} (ha : a.Ordered) : (s.add a).Ordered where
  parts := List.forall_mem_cons.mpr ⟨ha, h.parts⟩
  stack := h.stack

theorem Ordered.branch (h : s.Ordered) : s.branch.Ordered := by
  have hstack := h.stack
  unfold State.branch
  split
  · next branches stack heq =>
    rw [heq, List.forall_mem_cons] at hstack
    refine ⟨by simp, List.forall_mem_cons.mpr ⟨?_, hstack.2⟩⟩
    exact List.forall_mem_cons.mpr ⟨h.row, hstack.1⟩
  · refine ⟨by simp, List.forall_mem_cons.mpr ⟨?_, hstack⟩⟩
    exact List.forall_mem_cons.mpr ⟨h.row, by simp⟩

/-- A row that is closed, and the frames that stay open. -/
theorem Ordered.closeRow (h : s.Ordered) :
    s.closeRow.1.Ordered ∧ ∀ f ∈ s.closeRow.2, f.Ordered := by
  have hstack := h.stack
  unfold State.closeRow
  split
  · next branches stack heq =>
    rw [heq, List.forall_mem_cons] at hstack
    refine ⟨Ast.allOrdered_iff.mpr fun a ha => ?_, hstack.2⟩
    rcases List.mem_cons.mp (List.mem_reverse.mp ha) with rfl | ha
    · exact h.row
    · exact hstack.1 a ha
  · exact ⟨h.row, hstack⟩

theorem Ordered.enter (h : s.Ordered) (set : FlagSet) (capture : Option Nat) :
    (s.enter set capture).Ordered where
  parts := by simp [State.enter]
  stack := List.forall_mem_cons.mpr ⟨h.parts, h.stack⟩

theorem Ordered.openGroup (h : s.Ordered) {opening : Opening} (hs : s.openGroup opening = .ok s') :
    s'.Ordered := by
  unfold State.openGroup at hs
  split at hs
  · cases hs
    exact ⟨List.forall_mem_cons.mpr ⟨trivial, h.parts⟩, h.stack⟩
  · cases hs
    exact h.enter _ _
  · have hopened (n : Nat) (names : List (List Char)) :
        Ordered { s.enter [] (some n) with captures := n, names := names } :=
      ⟨(h.enter [] (some n)).parts, (h.enter [] (some n)).stack⟩
    split at hs
    · cases hs
      exact hopened _ _
    · split at hs
      · cases hs
      · cases hs
        exact hopened _ _

theorem Ordered.closeGroup (h : s.Ordered) (hs : s.closeGroup = .ok s') : s'.Ordered := by
  have hrow := h.closeRow
  unfold State.closeGroup at hs
  split at hs
  · next sub before set capture verbose stack heq =>
    cases hs
    rw [heq, List.forall_mem_cons] at hrow
    obtain ⟨hsub, hbefore, hstack⟩ := hrow
    exact ⟨List.forall_mem_cons.mpr ⟨hsub, hbefore⟩, hstack⟩
  · cases hs

theorem Ordered.finish {a : Ast} (h : s.Ordered) (ha : s.finish = .ok a) : a.Ordered := by
  have hrow := h.closeRow
  unfold State.finish at ha
  split at ha
  · next heq =>
    cases ha
    rw [heq] at hrow
    exact hrow.1
  · cases ha

/-- **Every part and every operator** leaves counts that can be met. -/
theorem Ordered.step (h : s.Ordered) {c : Char} {cs rest : List Char}
    (hs : s.step c cs = .ok (s', rest)) : s'.Ordered := by
  have hrepeat {least : Nat} {most : Option Nat} (hcounts : CountsOrdered least most)
      {greedy : Bool} {rest' : List Char}
      (hr : (do return ({ s with parts := ← repeatLast least most greedy s.parts }, rest') :
        Except Fault (State × List Char)) = .ok (s', rest)) : s'.Ordered := by
    obtain ⟨parts, hparts, hr⟩ := bind_eq_ok hr
    cases hr
    exact ⟨repeatLast_ordered hcounts h.parts hparts, h.stack⟩
  unfold State.step at hs
  split at hs
  · obtain ⟨⟨opening, cs₁⟩, -, hs⟩ := bind_eq_ok hs
    obtain ⟨s₁, hopen, hs⟩ := bind_eq_ok hs
    cases hs
    exact h.openGroup hopen
  · obtain ⟨s₁, hclose, hs⟩ := bind_eq_ok hs
    cases hs
    exact h.closeGroup hclose
  · cases hs
    exact h.branch
  · obtain ⟨⟨⟨negated, set⟩, cs₁⟩, -, hs⟩ := bind_eq_ok hs
    cases hs
    exact h.add trivial
  · exact hrepeat (by rintro m ⟨⟩; exact Nat.zero_le 1) hs
  · exact hrepeat (by rintro m ⟨⟩) hs
  · exact hrepeat (by rintro m ⟨⟩) hs
  · obtain ⟨_, -, hs⟩ := bind_eq_ok hs
    obtain ⟨⟨⟨least, most⟩, cs₁⟩, hcounts, hs⟩ := bind_eq_ok hs
    exact hrepeat (takeCounts_ordered hcounts) hs
  · obtain ⟨⟨e, cs₁⟩, -, hs⟩ := bind_eq_ok hs
    cases hs
    refine h.add ?_
    cases e <;> trivial
  all_goals
    cases hs
    exact h.add trivial

theorem Ordered.run {a : Ast} (fuel : Nat) (h : s.Ordered) {cs : List Char}
    (ha : run fuel s cs = .ok a) : a.Ordered := by
  induction fuel generalizing s cs with
  | zero => exact h.finish ha
  | succ fuel ih =>
      unfold State.run at ha
      split at ha
      · exact h.finish ha
      · obtain ⟨⟨s₁, cs₁⟩, hstep, ha⟩ := bind_eq_ok ha
        exact ih (h.step hstep) ha

end State

/-- **Patterns are read with counts that can be met.** -/
theorem parse_ordered {cs : List Char} {a : Ast} (h : parse cs = .ok a) : a.Ordered :=
  State.Ordered.run _ ⟨by simp [State.initial], by simp [State.initial]⟩ h

/-! ## In normal form -/

mutual

/-- The counts of all repetitions can be met. -/
def Form.Ordered : Form → Prop
  | .repetition least most _ a => CountsOrdered least most ∧ a.Ordered
  | .capture _ a => a.Ordered
  | .row parts => Form.AllOrdered parts
  | .branches forms => Form.AllOrdered forms
  | _ => True

/-- The counts of all repetitions in a list can be met. -/
def Form.AllOrdered : List Form → Prop
  | [] => True
  | a :: as => a.Ordered ∧ Form.AllOrdered as

end

namespace Form

theorem allOrdered_iff {as : List Form} : AllOrdered as ↔ ∀ a ∈ as, a.Ordered := by
  induction as with
  | nil => simp [AllOrdered]
  | cons a as ih => rw [AllOrdered, ih, List.forall_mem_cons]

theorem ordered_ofSet (bytes : Bool) (s : Spans) : (ofSet bytes s).Ordered := by
  unfold ofSet
  split
  · trivial
  · split
    · trivial
    · trivial
  · trivial

theorem ordered_joinLiterals {a : Form} {parts : List Form} (ha : a.Ordered)
    (hparts : ∀ b ∈ parts, b.Ordered) : ∀ b ∈ joinLiterals a parts, b.Ordered := by
  unfold joinLiterals
  split
  · exact List.forall_mem_cons.mpr ⟨trivial, (List.forall_mem_cons.mp hparts).2⟩
  · exact List.forall_mem_cons.mpr ⟨ha, hparts⟩

/-- A row in normal form consists of the parts that it is made of, with literals joined. -/
theorem ordered_ofRow {forms : List Form} (h : ∀ a ∈ forms, a.Ordered) : (ofRow forms).Ordered := by
  have hflat : ∀ a ∈ forms.flatMap toRow, a.Ordered := by
    intro a ha
    obtain ⟨b, hb, ha⟩ := List.mem_flatMap.mp ha
    have hordered := h b hb
    unfold toRow at ha
    split at ha
    · cases ha
    · exact allOrdered_iff.mp hordered a ha
    · rw [List.mem_singleton.mp ha]
      exact hordered
  have hjoined : ∀ a ∈ (forms.flatMap toRow).foldr joinLiterals [], a.Ordered := by
    generalize forms.flatMap toRow = parts at hflat
    induction parts with
    | nil => simp
    | cons a parts ih =>
        obtain ⟨ha, hparts⟩ := List.forall_mem_cons.mp hflat
        exact ordered_joinLiterals ha (ih hparts)
  unfold ofRow ofParts
  split
  · trivial
  · next heq =>
    rw [heq] at hjoined
    exact hjoined _ List.mem_cons_self
  · exact allOrdered_iff.mpr hjoined

theorem ordered_of_row? {a : Form} {parts : List Form} (h : a.Ordered) (hrow : row? a = some parts) :
    ∀ b ∈ parts, b.Ordered := by
  unfold row? at hrow
  split at hrow
  · cases hrow
    exact allOrdered_iff.mp h
  · cases hrow

/-- The parts of rows. -/
theorem ordered_of_rows {forms : List Form} {rows : List (List Form)}
    (h : ∀ a ∈ forms, a.Ordered) (hrows : forms.mapM row? = some rows) :
    ∀ parts ∈ rows, ∀ b ∈ parts, b.Ordered := by
  induction forms generalizing rows with
  | nil =>
      cases hrows
      simp
  | cons a forms ih =>
      obtain ⟨ha, hforms⟩ := List.forall_mem_cons.mp h
      rw [List.mapM_cons] at hrows
      obtain ⟨parts, hparts, hrows⟩ := Option.bind_eq_some_iff.mp hrows
      obtain ⟨more, hmore, hrows⟩ := Option.bind_eq_some_iff.mp hrows
      cases hrows
      exact List.forall_mem_cons.mpr ⟨ordered_of_row? ha hparts, ih hforms hmore⟩

/-- The parts that rows share are parts of the first one. -/
theorem mem_of_mem_shared {rows : List (List Form)} {parts : List Form} {a : Form}
    (h : a ∈ rows.foldl sharedParts parts) : a ∈ parts := by
  have one (as bs : List Form) : a ∈ sharedParts as bs → a ∈ as := by
    intro h
    induction as generalizing bs with
    | nil => cases h
    | cons x as ih =>
        cases bs with
        | nil => cases h
        | cons y bs =>
            rw [sharedParts] at h
            split at h
            · rcases List.mem_cons.mp h with rfl | h
              · exact List.mem_cons_self
              · exact List.mem_cons_of_mem _ (ih bs h)
            · cases h
  induction rows generalizing parts with
  | nil => exact h
  | cons row rows ih => exact one _ _ (ih h)

theorem ordered_toBranches {forms : List Form} (h : ∀ a ∈ forms, a.Ordered) :
    ∀ a ∈ forms.flatMap toBranches, a.Ordered := by
  intro a ha
  obtain ⟨b, hb, ha⟩ := List.mem_flatMap.mp ha
  have hordered := h b hb
  unfold toBranches at ha
  split at ha
  · exact allOrdered_iff.mp hordered a ha
  · rw [List.mem_singleton.mp ha]
    exact hordered

theorem ordered_ofBranchesIn (fuel : Nat) {forms : List Form} (h : ∀ a ∈ forms, a.Ordered) :
    (ofBranchesIn fuel forms).Ordered := by
  fun_induction ofBranchesIn fuel forms with
  | case1 => trivial
  | case2 fuel forms a hflat => exact ordered_toBranches h a (hflat ▸ List.mem_cons_self)
  | case3 => exact ordered_ofSet _ _
  | case4 => exact ordered_ofSet _ _
  | case5 forms first others _ hflat _ _ fuel parts rows hrows hparts =>
      exact allOrdered_iff.mpr (hflat ▸ ordered_toBranches h)
  | case6 forms first others _ hflat _ _ fuel parts rows hrows hparts _ rests ih =>
      have hall := ordered_toBranches h
      rw [hflat, List.forall_mem_cons] at hall
      have hfirst := ordered_of_row? hall.1 hparts
      have hrests : ∀ a ∈ rests, a.Ordered := by
        intro a ha
        obtain ⟨row, hrow, rfl⟩ := List.mem_map.mp ha
        refine ordered_ofRow fun b hb => ?_
        have hpart : b ∈ row := List.mem_of_mem_drop hb
        rcases List.mem_cons.mp hrow with rfl | hrow
        · exact hfirst b hpart
        · exact ordered_of_rows hall.2 hrows row hrow b hpart
      refine ordered_ofRow fun a ha => ?_
      rcases List.mem_append.mp ha with hshared | hrest
      · exact hfirst a (mem_of_mem_shared hshared)
      · rw [List.mem_singleton.mp hrest]
        exact ih hrests
  | case7 fuel forms first others _ hflat =>
      exact allOrdered_iff.mpr (hflat ▸ ordered_toBranches h)

theorem ordered_ofBranches {forms : List Form} (h : ∀ a ∈ forms, a.Ordered) :
    (ofBranches forms).Ordered :=
  ordered_ofBranchesIn _ h

theorem ordered_times {least : Nat} {most : Option Nat} (greedy : Bool) {a : Form}
    (hcounts : CountsOrdered least most) (ha : a.Ordered) : (times least most greedy a).Ordered := by
  unfold times
  have hlimited : CountsOrdered (min least 1) (some (min (most.getD 1) 1)) := by
    rintro m ⟨⟩
    cases most with
    | none => exact Nat.min_le_right least 1
    | some most =>
        have hle := hcounts most rfl
        exact le_min (le_trans (min_le_left _ _) hle) (min_le_right _ _)
  cases a.most? == some 0 with
  | true =>
      simp only [if_true]
      split
      · trivial
      · split
        · exact ha
        · exact ⟨hlimited, ha⟩
  | false =>
      simp only [Bool.false_eq_true, if_false]
      split
      · trivial
      · split
        · exact ha
        · exact ⟨hcounts, ha⟩

theorem ordered_literalExpr (cs : List Char) : (literalExpr cs).Ordered := by
  fun_induction literalExpr cs with
  | case1 => trivial
  | case2 c => trivial
  | case3 c cs _ ih => exact ⟨trivial, ih⟩

mutual

/-- The expression of a form has the counts of the form. -/
theorem Ordered.toExpr (a : Form) (h : a.Ordered) : a.toExpr.Ordered := by
  cases a with
  | empty => trivial
  | literal cs => exact ordered_literalExpr cs
  | set bytes s => trivial
  | look l => trivial
  | repetition least most greedy a => exact ⟨h.1, Ordered.toExpr a h.2⟩
  | capture number a => exact Ordered.toExpr a h
  | row parts => exact Ordered.rowExpr parts h
  | branches forms => exact Ordered.branchExpr forms h

theorem Ordered.rowExpr (parts : List Form) (h : AllOrdered parts) :
    (Form.rowExpr parts).Ordered := by
  unfold Form.rowExpr
  split
  · trivial
  · exact Ordered.toExpr _ h.1
  · exact ⟨Ordered.toExpr _ h.1, Ordered.rowExpr _ h.2⟩

theorem Ordered.branchExpr (forms : List Form) (h : AllOrdered forms) :
    (Form.branchExpr forms).Ordered := by
  unfold Form.branchExpr
  split
  · trivial
  · exact Ordered.toExpr _ h.1
  · exact ⟨Ordered.toExpr _ h.1, Ordered.branchExpr _ h.2⟩

end

end Form

mutual

/-- **Applying the flags of a pattern** keeps its counts. -/
theorem Ast.Ordered.resolve (a : Ast) (h : a.Ordered) {m m' : Modes} {form : Form}
    (hr : a.resolve m = .ok (form, m')) : form.Ordered := by
  unfold Ast.resolve at hr
  split at hr
  · cases hr
    trivial
  · cases hr
    trivial
  · obtain ⟨_, -, hr⟩ := bind_eq_ok hr
    cases hr
    exact Form.ordered_ofSet _ _
  · obtain ⟨_, -, hr⟩ := bind_eq_ok hr
    cases hr
    exact Form.ordered_ofSet _ _
  · cases hr
    trivial
  · obtain ⟨_, -, hr⟩ := bind_eq_ok hr
    cases hr
    exact Form.ordered_ofSet _ _
  · obtain ⟨_, -, hr⟩ := bind_eq_ok hr
    cases hr
    exact Form.ordered_ofSet _ _
  · obtain ⟨_, -, hr⟩ := bind_eq_ok hr
    obtain ⟨_, -, hr⟩ := bind_eq_ok hr
    cases hr
    exact Form.ordered_ofSet _ _
  · obtain ⟨⟨b, m₁⟩, hsub, hr⟩ := bind_eq_ok hr
    cases hr
    exact Form.ordered_times _ h.1 (Ast.Ordered.resolve _ h.2 hsub)
  · next capture sub =>
    obtain ⟨⟨b, m₁⟩, hsub, hr⟩ := bind_eq_ok hr
    have hb := Ast.Ordered.resolve sub h hsub
    cases capture with
    | none =>
        cases hr
        exact hb
    | some number =>
        cases hr
        exact hb
  · obtain ⟨⟨bs, m₁⟩, hall, hr⟩ := bind_eq_ok hr
    cases hr
    exact Form.ordered_ofBranches (Ast.Ordered.resolveAll _ h hall)
  · obtain ⟨⟨bs, m₁⟩, hall, hr⟩ := bind_eq_ok hr
    cases hr
    exact Form.ordered_ofRow (Ast.Ordered.resolveAll _ h hall)

theorem Ast.Ordered.resolveAll (as : List Ast) (h : AllOrdered as) {m m' : Modes}
    {forms : List Form} (hr : Ast.resolveAll m as = .ok (forms, m')) : ∀ a ∈ forms, a.Ordered := by
  unfold Ast.resolveAll at hr
  split at hr
  · cases hr
    simp
  · obtain ⟨⟨b, m₁⟩, hone, hr⟩ := bind_eq_ok hr
    obtain ⟨⟨bs, m₂⟩, hall, hr⟩ := bind_eq_ok hr
    cases hr
    exact List.forall_mem_cons.mpr
      ⟨Ast.Ordered.resolve _ h.1 hone, Ast.Ordered.resolveAll _ h.2 hall⟩

end

/-! ## Compiled patterns -/

/-- What a text is compiled to. -/
theorem compileText_ok {text : List Char} {e : Expr} (h : compileText text = .ok e) :
    ∃ ast form m, parse text = .ok ast ∧ ast.resolve .initial = .ok (form, m) ∧
      e = form.toExpr := by
  obtain ⟨ast, hparse, h⟩ := bind_eq_ok h
  split at h
  · cases h
  · obtain ⟨⟨form, m⟩, hresolve, h⟩ := bind_eq_ok h
    dsimp only at h
    split at h
    · cases h
      exact ⟨ast, form, m, hparse, hresolve, rfl⟩
    · cases h

/-- **The counts of compiled patterns can be met.** -/
theorem compileText_ordered {text : List Char} {e : Expr} (h : compileText text = .ok e) :
    e.Ordered := by
  obtain ⟨ast, form, m, hparse, hresolve, rfl⟩ := compileText_ok h
  exact (Ast.Ordered.resolve ast (parse_ordered hparse) hresolve).toExpr

end FieldRules.Pattern
