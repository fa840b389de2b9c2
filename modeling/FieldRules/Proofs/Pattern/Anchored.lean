import FieldRules.Proofs.Pattern.Between
import FieldRules.Proofs.Pattern.Counts
import FieldRules.Rule.Matcher

/-!
# `Proofs.Pattern.Anchored` — what rules on patterns hit

A rule on a pattern is meant to judge whole texts. Its source is put between anchors as a text, and
the search looks for the expression anywhere. If the source is a pattern by itself, then the anchors
stand before and after all of it, and every match spans the text. If it is not, its parentheses may
pair with those of the anchors, which then hold for one branch each.

## Contents
- **Rows.** Rows in normal form match what their parts match one after another.
- **`matches_anchored_iff`** and **`compileText_anchored`**, the expression of an anchored pattern.
- **`pattern_rule_hits_iff`**, with **`either_branch_spans`**, and **`prefix_hits`**, the source that
  is no pattern by itself.
-/

namespace FieldRules

namespace Pattern

variable {text : List Char}

/-! ## Rows -/

namespace Form

theorem rowExpr_cons_cons (a b : Form) (as : List Form) :
    rowExpr (a :: b :: as) = .seq a.toExpr (rowExpr (b :: as)) := by
  rw [rowExpr]
  exact List.cons_ne_nil b as

/-- A row matches its first part and then the rest. -/
theorem matches_rowExpr_cons_iff {a : Form} {as : List Form} {i k : Nat} :
    (rowExpr (a :: as)).Matches text i k ↔
      ∃ j, a.toExpr.Matches text i j ∧ (rowExpr as).Matches text j k := by
  cases as with
  | nil =>
      rw [rowExpr, rowExpr]
      constructor
      · intro h
        exact ⟨k, h, .empty h.forward.2⟩
      · rintro ⟨j, h, ⟨⟩⟩
        exact h
  | cons b as =>
      rw [rowExpr_cons_cons]
      exact Expr.matches_seq_iff

theorem matches_rowExpr_append_iff {as bs : List Form} {i k : Nat} (hi : i ≤ text.length) :
    (rowExpr (as ++ bs)).Matches text i k ↔
      ∃ j, (rowExpr as).Matches text i j ∧ (rowExpr bs).Matches text j k := by
  induction as generalizing i with
  | nil =>
      rw [List.nil_append, rowExpr]
      constructor
      · intro h
        exact ⟨i, .empty hi, h⟩
      · rintro ⟨j, ⟨⟩, h⟩
        exact h
  | cons a as ih =>
      rw [List.cons_append, matches_rowExpr_cons_iff]
      constructor
      · rintro ⟨j, ha, hrest⟩
        obtain ⟨l, has, hbs⟩ := (ih ha.forward.2).mp hrest
        exact ⟨l, matches_rowExpr_cons_iff.mpr ⟨j, ha, has⟩, hbs⟩
      · rintro ⟨l, haas, hbs⟩
        obtain ⟨j, ha, has⟩ := matches_rowExpr_cons_iff.mp haas
        exact ⟨j, ha, (ih ha.forward.2).mpr ⟨l, has, hbs⟩⟩

theorem matches_toRow_iff {a : Form} {i k : Nat} :
    (rowExpr a.toRow).Matches text i k ↔ a.toExpr.Matches text i k := by
  cases a <;> simp only [toRow, toExpr, rowExpr]

/-- A literal is a row of its characters. -/
theorem literalExpr_eq_rowExpr (cs : List Char) :
    literalExpr cs = rowExpr (cs.map fun c => .set true (.single c)) := by
  fun_induction literalExpr cs with
  | case1 => rw [List.map_nil, rowExpr]
  | case2 c => rw [List.map_cons, List.map_nil, rowExpr, toExpr]
  | case3 c cs hcs ih =>
      obtain ⟨d, cs, rfl⟩ := List.exists_cons_of_ne_nil hcs
      rw [ih]
      simp only [List.map_cons, rowExpr_cons_cons, toExpr]

/-- Literals that are joined match as they do one after another. -/
theorem matches_joinLiterals_iff {a : Form} {parts : List Form} {i k : Nat}
    (hi : i ≤ text.length) :
    (rowExpr (joinLiterals a parts)).Matches text i k ↔ (rowExpr (a :: parts)).Matches text i k := by
  unfold joinLiterals
  split
  · next cs ds parts =>
    simp only [matches_rowExpr_cons_iff, toExpr, literalExpr_eq_rowExpr, List.map_append,
      matches_rowExpr_append_iff hi]
    constructor
    · rintro ⟨j, ⟨l, hcs, hds⟩, hparts⟩
      exact ⟨l, hcs, j, hds, hparts⟩
    · rintro ⟨l, hcs, j, hds, hparts⟩
      exact ⟨j, ⟨l, hcs, hds⟩, hparts⟩
  · exact Iff.rfl

theorem matches_joined_iff {parts : List Form} {i k : Nat} (hi : i ≤ text.length) :
    (rowExpr (parts.foldr joinLiterals [])).Matches text i k ↔
      (rowExpr parts).Matches text i k := by
  induction parts generalizing i with
  | nil => exact Iff.rfl
  | cons a parts ih =>
      rw [List.foldr_cons, matches_joinLiterals_iff hi, matches_rowExpr_cons_iff,
        matches_rowExpr_cons_iff]
      exact exists_congr fun j => and_congr_right fun ha => ih ha.forward.2

theorem toExpr_ofParts (parts : List Form) : (ofParts parts).toExpr = rowExpr parts := by
  unfold ofParts
  split
  · rw [toExpr, rowExpr]
  · rw [rowExpr]
  · rw [toExpr]

/-- **A row in normal form** matches what its forms match one after another. -/
theorem matches_ofRow_iff {forms : List Form} {i k : Nat} (hi : i ≤ text.length) :
    (ofRow forms).toExpr.Matches text i k ↔ (rowExpr forms).Matches text i k := by
  rw [ofRow, toExpr_ofParts, matches_joined_iff hi]
  induction forms generalizing i with
  | nil => exact Iff.rfl
  | cons a forms ih =>
      rw [List.flatMap_cons, matches_rowExpr_append_iff hi, matches_rowExpr_cons_iff]
      simp only [matches_toRow_iff]
      exact exists_congr fun j => and_congr_right fun ha => ih ha.forward.2

end Form

/-! ## Anchors -/

theorem matches_textStart_iff {i j : Nat} :
    (Expr.look .textStart).Matches text i j ↔ i = 0 ∧ j = 0 := by
  constructor
  · rintro ⟨⟩
    next inside holds =>
      suffices hi : i = 0 from ⟨hi, hi⟩
      by_contra hi
      have hlt : i - 1 < text.length := by omega
      rw [Look.holds, Expr.before?, if_neg hi, List.getElem?_eq_getElem hlt] at holds
      cases holds
  · rintro ⟨rfl, rfl⟩
    exact .look (Nat.zero_le _) rfl

theorem matches_textEnd_iff {i j : Nat} :
    (Expr.look .textEnd).Matches text i j ↔ i = text.length ∧ j = text.length := by
  constructor
  · rintro ⟨⟩
    next inside holds =>
      suffices hi : i = text.length from ⟨hi, hi⟩
      by_contra hi
      have hlt : i < text.length := by omega
      rw [Look.holds, List.getElem?_eq_getElem hlt] at holds
      cases holds
  · rintro ⟨rfl, rfl⟩
    refine .look (Nat.le_refl _) ?_
    rw [Look.holds, List.getElem?_eq_none (Nat.le_refl _)]
    rfl

/-- The form of an anchored pattern has the form of the pattern between the anchors, which hold at
the ends of the text. -/
theorem resolve_anchored {a : Ast} {whole : Form} {m : Modes}
    (h : a.anchored.resolve .initial = .ok (whole, m)) :
    ∃ form modes, a.resolve .initial = .ok (form, modes) ∧
      whole = .ofRow [.look .textStart, form, .look .textEnd] := by
  rw [Ast.anchored, Ast.resolve] at h
  obtain ⟨⟨forms, m₁⟩, hforms, h⟩ := bind_eq_ok h
  cases h
  rw [Ast.resolveAll] at hforms
  obtain ⟨⟨first, m₂⟩, hfirst, hforms⟩ := bind_eq_ok hforms
  rw [Ast.resolve] at hfirst
  cases hfirst
  obtain ⟨⟨rest, m₃⟩, hrest, hforms⟩ := bind_eq_ok hforms
  cases hforms
  rw [Ast.resolveAll] at hrest
  obtain ⟨⟨middle, m₄⟩, hmiddle, hrest⟩ := bind_eq_ok hrest
  rw [Ast.resolve] at hmiddle
  obtain ⟨⟨form, modes⟩, hform, hmiddle⟩ := bind_eq_ok hmiddle
  cases hmiddle
  obtain ⟨⟨last, m₅⟩, hlast, hrest⟩ := bind_eq_ok hrest
  cases hrest
  cases hlast
  exact ⟨middle, modes, hform, rfl⟩

/-- **Between the anchors** a form matches whole texts only. -/
theorem matches_anchored_iff {form : Form} {i j : Nat} :
    (Form.ofRow [.look .textStart, form, .look .textEnd]).toExpr.Matches text i j ↔
      i = 0 ∧ j = text.length ∧ form.toExpr.Matches text 0 text.length := by
  constructor
  · intro h
    have hi : i ≤ text.length := Nat.le_trans h.forward.1 h.forward.2
    obtain ⟨k, hstart, hrest⟩ := Form.matches_rowExpr_cons_iff.mp ((Form.matches_ofRow_iff hi).mp h)
    obtain ⟨l, hform, hend⟩ := Form.matches_rowExpr_cons_iff.mp hrest
    rw [Form.toExpr, matches_textStart_iff] at hstart
    rw [Form.rowExpr, Form.toExpr, matches_textEnd_iff] at hend
    obtain ⟨rfl, rfl⟩ := hstart
    obtain ⟨rfl, rfl⟩ := hend
    exact ⟨rfl, rfl, hform⟩
  · rintro ⟨rfl, rfl, hform⟩
    rw [Form.matches_ofRow_iff (Nat.zero_le _)]
    have hend : (Form.rowExpr [.look .textEnd]).Matches text text.length text.length := by
      rw [Form.rowExpr, Form.toExpr, matches_textEnd_iff]
      exact ⟨rfl, rfl⟩
    have hstart : (Form.look .textStart).toExpr.Matches text 0 0 := by
      rw [Form.toExpr, matches_textStart_iff]
      exact ⟨rfl, rfl⟩
    exact Form.matches_rowExpr_cons_iff.mpr
      ⟨0, hstart, Form.matches_rowExpr_cons_iff.mpr ⟨text.length, hform, hend⟩⟩

end Pattern

/-! ## Rules -/

open Calendar Pattern

/-- If the source is a pattern by itself, then the expression of its anchored text matches whole
texts only, those that the pattern of the source matches. -/
theorem compileText_anchored {source : List Char} {ast : Ast} {e : Expr}
    (parsed : parse source = .ok ast) (compiled : compileText (anchored source) = .ok e) :
    ∃ form modes, ast.resolve .initial = .ok (form, modes) ∧
      ∀ text i j, e.Matches text i j ↔
        i = 0 ∧ j = text.length ∧ form.toExpr.Matches text 0 text.length := by
  obtain ⟨whole, wholeForm, modes, hwhole, hresolve, rfl⟩ := compileText_ok compiled
  have hanchored : whole = ast.anchored := by
    rcases parse_anchored parsed with hread | hread
    · rw [hread] at hwhole
      cases hwhole
      rfl
    · rw [hread] at hwhole
      cases hwhole
  subst hanchored
  obtain ⟨form, formModes, hform, rfl⟩ := resolve_anchored hresolve
  exact ⟨form, formModes, hform, fun text i j => matches_anchored_iff⟩

/-- A rule on a pattern is compiled to the expression of the anchored text. -/
theorem Matcher.eq_pattern_of_compile {r : Rule} {source : String} {m : Matcher}
    (pattern : r.condition = .pattern source) (compiled : Matcher.compile r = .ok m) :
    ∃ e, compileText (anchored source.toList) = .ok e ∧ m = .pattern ⟨source, e⟩ (polarityOf r) := by
  unfold compile at compiled
  rw [pattern] at compiled
  dsimp only at compiled
  split at compiled
  · cases compiled
  · split at compiled
    · next p hp =>
      obtain ⟨e, he, hp⟩ := bind_eq_ok hp
      cases hp
      cases compiled
      exact ⟨e, he, rfl⟩
    · cases compiled

/-- **What a rule on a pattern hits.** It hits the texts that the expression of the anchored source
matches a part of. If the source is a pattern by itself, then this part is all of the text: the
expression matches just the texts that the source, with no anchors around it, matches from end to
end. -/
theorem pattern_rule_hits_iff {r : Rule} {source : String} {m : Matcher}
    (pattern : r.condition = .pattern source) (compiled : Matcher.compile r = .ok m) :
    ∃ e, compileText (anchored source.toList) = .ok e ∧
      (∀ v now, m.hits v now = true ↔
        ∃ s, v.literalText? = some s ∧ ∃ i j, e.Matches s.toList i j) ∧
      ∀ ast, parse source.toList = .ok ast →
        (∃ form modes, ast.resolve .initial = .ok (form, modes) ∧
          ∀ text i j, e.Matches text i j ↔
            i = 0 ∧ j = text.length ∧ form.toExpr.Matches text 0 text.length) ∧
        ∀ v now, m.hits v now = true ↔
          ∃ s, v.literalText? = some s ∧ e.Matches s.toList 0 s.toList.length := by
  obtain ⟨e, he, rfl⟩ := Matcher.eq_pattern_of_compile pattern compiled
  have hits (v : Value) (now : Instant) :
      (Matcher.pattern ⟨source, e⟩ (Matcher.polarityOf r)).hits v now = true ↔
        ∃ s, v.literalText? = some s ∧ ∃ i j, e.Matches s.toList i j := by
    rw [Matcher.hits, Option.any_eq_true]
    apply exists_congr
    intro s
    apply and_congr_right
    intro _
    exact Expr.occursIn_iff (compileText_ordered he) s.toList
  refine ⟨e, he, hits, ?_⟩
  intro ast hast
  obtain ⟨form, modes, hform, spans⟩ := compileText_anchored hast he
  refine ⟨⟨form, modes, hform, spans⟩, ?_⟩
  intro v now
  rw [hits]
  apply exists_congr
  intro s
  apply and_congr_right
  intro _
  constructor
  · rintro ⟨i, j, hmatch⟩
    obtain ⟨rfl, rfl, -⟩ := (spans s.toList i j).mp hmatch
    exact hmatch
  · intro hmatch
    exact ⟨0, s.toList.length, hmatch⟩

/-- A rule that admits what a pattern matches. -/
def matching (source : String) : Rule where
  condition := .pattern source
  groups := []
  accept := true
  disabled := false

/-- Both branches of an alternation stand between the anchors. -/
theorem either_branch_spans :
    ∃ e m, compileText (anchored "ab|c".toList) = .ok e ∧
      Matcher.compile (matching "ab|c") = .ok m ∧ (∀ now, m.hits (.str "ab") now = true) ∧
      ∀ v now, m.hits v now = true ↔
        ∃ s, v.literalText? = some s ∧ e.Matches s.toList 0 s.toList.length := by
  have parsed : parse "ab|c".toList = .ok (.alternation
      [.concat [.literal ⟨'a', false⟩, .literal ⟨'b', false⟩], .literal ⟨'c', false⟩]) := by
    rfl
  have compiled : Matcher.compile (matching "ab|c") = .ok (.pattern ⟨"ab|c",
      .seq (.look .textStart) (.seq (.alt (.seq (.set (.single 'a')) (.set (.single 'b')))
        (.set (.single 'c'))) (.look .textEnd))⟩ .accept) := by
    rfl
  obtain ⟨e, he, -, whole⟩ := pattern_rule_hits_iff rfl compiled
  obtain ⟨-, hits⟩ := whole _ parsed
  exact ⟨e, _, he, compiled, fun now => rfl, hits⟩

/-- **The source that is no pattern by itself.** Its parentheses pair with those of the anchors, so
that each anchor holds for one branch. A text is hit that begins as one branch wants and is no match
from end to end. -/
theorem prefix_hits :
    ∃ e m, compileText (anchored "a)|(?:b".toList) = .ok e ∧
      Matcher.compile (matching "a)|(?:b") = .ok m ∧
      (∀ now, m.hits (.str "ax") now = true) ∧ ¬e.Matches "ax".toList 0 2 := by
  refine ⟨.alt (.seq (.look .textStart) (.set (.single 'a')))
      (.seq (.set (.single 'b')) (.look .textEnd)), _, rfl, rfl, fun now => rfl, ?_⟩
  intro h
  cases h with
  | altLeft left =>
      obtain ⟨j, first, second⟩ := Expr.matches_seq_iff.mp left
      obtain ⟨-, rfl⟩ := matches_textStart_iff.mp first
      cases second
  | altRight right =>
      obtain ⟨j, first, -⟩ := Expr.matches_seq_iff.mp right
      cases first with
      | set at_i member =>
          cases at_i
          exact absurd member (by decide)

end FieldRules
