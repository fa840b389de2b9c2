import FieldRules.Document.Rules
import FieldRules.Proofs.Document.Integer
import FieldRules.Proofs.Interval.Epoch
import FieldRules.Proofs.Rule.Distinct

/-!
# `Proofs.Rule.Integer` — whole numbers among the literals of a document

A document may list a whole number without quotes. One expects the rule to admit the number, and no
other one if nothing else is listed. The number becomes a literal first and then a text, and the
texts of field values are compared with that. As far as 64 bits with a sign reach, the text is that
of the number. Beyond, fields may still hold the number, but the literal is rounded, and its text
may be that of another number.

## Contents
- **`ListsValues`**, an entry of a document with its literals, through **`values_of_ofNode?`** and
  **`condition_of_toRule`** to **`hits_whole_iff`**, the numbers that a rule hits.
- **`KeepsText`**, the numbers that keep their text.
- **`bare_integer_admits_iff`**, with **`small_integer_admitted`**, and **`rounded_integer_missed`**,
  a number that is listed and not hit.
-/

namespace FieldRules

open Calendar Document Number

/-! ## From an entry to its matcher -/

/-- The entry lists the items as its literals. -/
def Document.Node.ListsValues (d : Dialect) (entry : Node) (items : List Node) : Prop :=
  ∃ (fields : Fields entry) (v : Within entry) (named : Bool),
    entry.fields? d RuleEntry.fieldNames = some fields ∧ fields.lookup "values" = some v ∧
      v.1 = .list named items

theorem Document.Node.list?_of_list {n : Node} {named : Bool} {items : List Node} {α : Type}
    (h : n = .list named items) (read : Node → Option α) :
    n.list? (fun item => read item.1) = items.mapM read := by
  subst h
  have hitems (ys : List { item : Node // item ∈ items })
      (f : { item : Node // item ∈ items } → Within (.list named items))
      (hf : ∀ y, (f y).1 = y.1) :
      (ys.map f).mapM (fun item => read item.1) = (ys.map Subtype.val).mapM read := by
    rw [List.mapM_map, List.mapM_map]
    exact congrArg (fun g => ys.mapM g) (funext fun y => congrArg read (hf y))
  show (items.attach.map _).mapM (fun item : Within (.list named items) => read item.1) = _
  rw [hitems items.attach _ fun _ => rfl, List.attach_map_subtype_val]

/-- What a list reads as has what each of its items reads as. -/
theorem exists_of_mapM_eq_some {α β : Type} {read : α → Option β} {xs : List α} {ys : List β}
    (h : xs.mapM read = some ys) {x : α} (hx : x ∈ xs) : ∃ y ∈ ys, read x = some y := by
  induction xs generalizing ys with
  | nil => cases hx
  | cons a xs ih =>
      rw [List.mapM_cons] at h
      obtain ⟨b, hb, h⟩ := Option.bind_eq_some_iff.mp h
      obtain ⟨bs, hbs, h⟩ := Option.bind_eq_some_iff.mp h
      cases h
      rcases List.mem_cons.mp hx with rfl | hx
      · exact ⟨b, List.mem_cons_self, hb⟩
      · obtain ⟨y, hy, hread⟩ := ih hbs hx
        exact ⟨y, List.mem_cons_of_mem b hy, hread⟩

/-- The literals of an entry are those of the items that it lists. -/
theorem RuleEntry.values_of_ofNode? {d : Dialect} {entry : Node} {items : List Node}
    {e : RuleEntry} (lists : entry.ListsValues d items) (read : ofNode? d entry = some e) :
    ∃ literals, e.values = some literals ∧
      items.mapM (fun item => item.scalar? Atom.literal?) = some literals := by
  obtain ⟨fields, v, named, hfields, hlookup, hv⟩ := lists
  unfold ofNode? at read
  obtain ⟨fields', hfields', read⟩ := Option.bind_eq_some_iff.mp read
  cases hfields.symm.trans hfields'
  obtain ⟨values, hvalues, read⟩ := Option.bind_eq_some_iff.mp read
  obtain ⟨range, -, read⟩ := Option.bind_eq_some_iff.mp read
  obtain ⟨pattern, -, read⟩ := Option.bind_eq_some_iff.mp read
  obtain ⟨groups, -, read⟩ := Option.bind_eq_some_iff.mp read
  obtain ⟨accept, -, read⟩ := Option.bind_eq_some_iff.mp read
  obtain ⟨disabled, -, read⟩ := Option.bind_eq_some_iff.mp read
  cases read
  have habsent : v.1.absent? = some false := by
    rw [hv]
    rfl
  unfold Fields.optional? Fields.getOr? at hvalues
  rw [hlookup] at hvalues
  dsimp only at hvalues
  rw [habsent] at hvalues
  change (v.1.list? fun item => item.1.scalar? Atom.literal?).bind (fun vs => some (some vs)) =
    some values at hvalues
  obtain ⟨literals, hliterals, hvalues⟩ := Option.bind_eq_some_iff.mp hvalues
  cases hvalues
  exact ⟨literals, rfl, (Node.list?_of_list hv _).symm.trans hliterals⟩

/-- The entry that states a single literal and nothing else. -/
def RuleEntry.single (l : Literal) : RuleEntry :=
  ⟨some [l], none, none, [], true, false⟩

theorem RuleEntry.ofNode?_single (d : Dialect) {item : Node} {l : Literal}
    (h : item.scalar? Atom.literal? = some l) :
    ofNode? d (.record [(some "values", .list false [item])]) = some (single l) := by
  cases item with
  | atom a =>
      obtain ⟨text?, bool?, int?, float?, literal?, word?, absent?, blank⟩ := a
      cases h
      obtain ⟨positional, words⟩ := d
      cases positional with
      | true => rfl
      | false => rfl
  | list named items => cases h
  | record entries => cases h

/-- A rule that is made of an entry with literals is a rule on their texts. -/
theorem RuleEntry.condition_of_toRule {e : RuleEntry} {literals : List Literal} {r : Rule}
    (values : e.values = some literals) (rule : e.toRule = .ok r) :
    r.condition = .values (literals.map Literal.toText) := by
  have hconditions : ∃ others, e.conditions =
      ("values", .values (literals.map Literal.toText)) :: others := by
    unfold conditions
    rw [values]
    exact ⟨_, rfl⟩
  obtain ⟨others, hconditions⟩ := hconditions
  unfold toRule at rule
  rw [hconditions] at rule
  cases others with
  | nil =>
      cases rule
      rfl
  | cons other others => cases rule

/-- **A rule on literals hits a whole number** if it lists the text of the number. -/
theorem Matcher.hits_whole_iff {r : Rule} {texts : List String} {m : Matcher}
    (values : r.condition = .values texts) (compiled : compile r = .ok m) {v : Value} {k : Int}
    (whole : v.whole? = some k) (now : Instant) :
    m.hits v now = true ↔ Value.intText k ∈ texts :=
  hits_text_iff values compiled (Value.literalText?_of_whole? whole) now

/-! ## Whole numbers of documents -/

/-- A whole number keeps its text where it becomes a literal: it fits with a sign, or what it is
rounded to happens to be written with its digits. -/
def KeepsText (n : Int) : Prop :=
  fitsSigned64 n = true ∨ (Binary64.ofInt n).text = Value.intText n

theorem keepsText_iff (n : Int) :
    KeepsText n ↔ (Literal.ofInteger n).toText = Value.intText n := by
  unfold KeepsText
  by_cases h : fitsSigned64 n = true
  · rw [Literal.toText_ofInteger_of_fits h]
    simp [h]
  · rw [Literal.toText_ofInteger_of_not_fits h]
    simp [h]

/-- A field can hold any whole number of 64 bits, with a sign or without one. -/
theorem Value.exists_whole {n : Int} (low : leastSigned64 ≤ n) (high : n ≤ 0xFFFFFFFFFFFFFFFF) :
    ∃ v : Value, v.whole? = some n := by
  by_cases h : fitsSigned64 n = true
  · exact ⟨.int (Int64.ofInt n), congrArg some (toInt_ofInt_of_fits h)⟩
  · -- what does not fit with a sign is not negative
    rw [fitsSigned64, Bool.and_eq_true, decide_eq_true_iff, decide_eq_true_iff] at h
    have hnat : n.toNat < 2 ^ 64 := by omega
    refine ⟨.uint (UInt64.ofNat n.toNat), congrArg some ?_⟩
    rw [UInt64.toNat_ofNat_of_lt' hnat]
    omega

/-- **What a whole number of a document admits.** The number is read, and on its own makes a rule
that compiles. If it keeps its text, then every rule that lists it hits the values that hold it. A
rule that lists nothing else hits it and no other number just in this case. -/
theorem bare_integer_admits_iff {n : Int} (low : leastSigned64 ≤ n)
    (high : n ≤ 0xFFFFFFFFFFFFFFFF) {item : Node} (bare : Bare n item) :
    (∀ d, ∃ e r m,
      RuleEntry.ofNode? d (.record [(some "values", .list false [item])]) = some e ∧
        e.toRule = .ok r ∧ Matcher.compile r = .ok m) ∧
    ∀ d entry items e r m, Node.ListsValues d entry items → item ∈ items →
      RuleEntry.ofNode? d entry = some e → e.toRule = .ok r → Matcher.compile r = .ok m →
        (KeepsText n → ∀ v now, v.whole? = some n → m.hits v now = true) ∧
        (items = [item] → ∀ now,
          (∀ v k, v.whole? = some k → (m.hits v now = true ↔ k = n)) ↔ KeepsText n) := by
  have hliteral := bare.literal?_eq low high
  constructor
  · intro d
    exact ⟨_, _, _, RuleEntry.ofNode?_single d hliteral, rfl, rfl⟩
  · intro d entry items e r m lists mem read rule compiled
    obtain ⟨literals, hvalues, hliterals⟩ := RuleEntry.values_of_ofNode? lists read
    have hcondition := RuleEntry.condition_of_toRule hvalues rule
    constructor
    · intro keeps v now whole
      obtain ⟨l, hl, hread⟩ := exists_of_mapM_eq_some hliterals mem
      cases hliteral.symm.trans hread
      rw [Matcher.hits_whole_iff hcondition compiled whole, ← (keepsText_iff n).mp keeps]
      exact List.mem_map_of_mem hl
    · intro alone now
      subst alone
      obtain rfl : literals = [Literal.ofInteger n] := by
        rw [List.mapM_cons, hliteral] at hliterals
        cases hliterals
        rfl
      rw [keepsText_iff]
      constructor
      · intro h
        obtain ⟨v, whole⟩ := Value.exists_whole low high
        have hit := (h v n whole).mpr rfl
        rw [Matcher.hits_whole_iff hcondition compiled whole] at hit
        exact (List.mem_singleton.mp hit).symm
      · intro keeps v k whole
        rw [Matcher.hits_whole_iff hcondition compiled whole, List.map_singleton,
          List.mem_singleton, keeps]
        constructor
        · exact Value.intText_injective
        · rintro rfl
          rfl

/-- A small number is the only one that its rule admits. -/
theorem small_integer_admitted :
    leastSigned64 ≤ 7 ∧ (7 : Int) ≤ 0xFFFFFFFFFFFFFFFF ∧ Bare 7 (Json.int 7).node ∧
      ∃ r m, (RuleEntry.single (.int 7)).toRule = .ok r ∧ Matcher.compile r = .ok m ∧
        ∀ now v k, v.whole? = some k → (m.hits v now = true ↔ k = 7) := by
  have low : leastSigned64 ≤ 7 := by decide
  have high : (7 : Int) ≤ 0xFFFFFFFFFFFFFFFF := by decide
  have ends : Json.NumberEnds [']'] := by
    rintro c ⟨⟩
    decide
  have bare : Bare 7 (Json.int 7).node :=
    @Bare.json 7 1 " 7]".toList [']'] [']'] (.int 7) rfl ends rfl
  obtain ⟨-, admits⟩ := bare_integer_admits_iff low high bare
  refine ⟨low, high, bare, _, _, rfl, rfl, ?_⟩
  intro now
  have lists : Node.ListsValues .json
      (.record [(some "values", .list false [(Json.int 7).node])]) [(Json.int 7).node] :=
    ⟨_, _, false, rfl, rfl, rfl⟩
  obtain ⟨-, only⟩ := admits .json _ _ _ _ _ lists List.mem_cons_self rfl rfl rfl
  exact (only rfl now).mpr (.inl (by decide))

/-- What the first whole number that does not fit with a sign is as a literal. -/
def twoToThe63 : Literal :=
  .float (.finite ⟨false, 4503599627370496, 11, by decide⟩)

/-- **A number that is listed and not hit.** The first number that does not fit with a sign is
rounded to itself, but the shortest decimal for what it is rounded to ends in noughts. So another
number is hit in its place. -/
theorem rounded_integer_missed :
    ∃ e r m, ((Json.read? "\x7b\"values\": [9223372036854775808]\x7d").bind fun j =>
        RuleEntry.ofNode? .json j.node) = some e ∧
      e.toRule = .ok r ∧ Matcher.compile r = .ok m ∧
      ∀ now, m.hits (.uint 9223372036854775808) now = false ∧
        m.hits (.uint 9223372036854776000) now = true := by
  have rule : ∃ r, (RuleEntry.single twoToThe63).toRule = .ok r ∧
      r.condition = .values ["9223372036854776000"] := by
    refine ⟨_, rfl, ?_⟩
    decide +kernel
  obtain ⟨r, rule, values⟩ := rule
  have compiled : Matcher.compile r = .ok (.literals (.ofList ["9223372036854776000"])
      (Matcher.polarityOf r)) := by
    rw [Matcher.compile, values]
    rfl
  refine ⟨.single twoToThe63, r, _, by decide +kernel, rule, compiled, ?_⟩
  intro now
  constructor
  · rw [Bool.eq_false_iff, Ne, Matcher.hits_whole_iff values compiled rfl]
    decide +kernel
  · rw [Matcher.hits_whole_iff values compiled rfl]
    decide +kernel

end FieldRules
