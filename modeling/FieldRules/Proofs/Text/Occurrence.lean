import FieldRules.Text.Occurrence
import Mathlib

/-!
# `Proofs.Text.Occurrence` — texts that occur one after another

Several texts are looked for in order, each behind the first occurrence of the one before. To take
the first occurrence each time is never wrong: wherever else a text could stand, it would end later,
and leave less for the texts that follow. So the search finds places for all of them whenever there
are any that do not overlap.

The search may be made on bytes as well. Where the bytes of a text that is not empty stand among
those of another one, they begin and end between characters, since no character has the first byte
of one inside of it. So the first place by bytes is the first one by characters, and what follows it
is a text again.

## Contents
- **`StandsAt`** and **`afterFirst?_cases`**, one text, with **`occursIn_iff`**.
- **`InOrder`** and **`firstMissing?_eq_none_iff`**, several texts.
- **`BytesAt`**, **`findBytes?`**, **`sliceFrom?`** and **`searchBytes?`**, the search on bytes, which
  fails at a slice that is out of range or begins inside of a character.
- **`searchBytes?_eq`**: it never does, and finds the same.
-/

namespace FieldRules.Text

/-! ## One text -/

/-- A text stands in another one from a position on. -/
def StandsAt (part whole : List Char) (i : Nat) : Prop :=
  i ≤ whole.length ∧ part <+: whole.drop i

theorem standsAt_iff {part whole : List Char} {i : Nat} :
    StandsAt part whole i ↔
      ∃ before rest, whole = before ++ (part ++ rest) ∧ before.length = i := by
  constructor
  · rintro ⟨hle, rest, hrest⟩
    refine ⟨whole.take i, rest, ?_, List.length_take_of_le hle⟩
    rw [hrest, List.take_append_drop]
  · rintro ⟨before, rest, rfl, rfl⟩
    refine ⟨by simp, rest, ?_⟩
    rw [List.drop_left]

theorem standsAt_zero {part whole : List Char} : StandsAt part whole 0 ↔ part <+: whole := by
  simp [StandsAt]

theorem standsAt_cons_succ {part whole : List Char} {c : Char} {i : Nat} :
    StandsAt part (c :: whole) (i + 1) ↔ StandsAt part whole i := by
  simp [StandsAt]

theorem standsAt_drop {part whole : List Char} {n i : Nat} (h : n ≤ whole.length) :
    StandsAt part (whole.drop n) i ↔ StandsAt part whole (n + i) := by
  rw [StandsAt, StandsAt, List.length_drop, List.drop_drop]
  have hrange : i ≤ whole.length - n ↔ n + i ≤ whole.length := by omega
  rw [hrange]

/-- A text that stands somewhere ends inside of the other one. -/
theorem StandsAt.end_le {part whole : List Char} {i : Nat} (h : StandsAt part whole i) :
    i + part.length ≤ whole.length := by
  obtain ⟨before, rest, rfl, rfl⟩ := standsAt_iff.mp h
  simp

/-- The first position from which a text stands in another one. -/
structure StandsFirstAt (part whole : List Char) (i : Nat) : Prop where
  here : StandsAt part whole i
  least : ∀ j, StandsAt part whole j → i ≤ j

/-- **The search for one text** ends behind its first occurrence, or there is none. -/
theorem afterFirst?_cases (part whole : List Char) :
    (∃ i, StandsFirstAt part whole i ∧
        afterFirst? part whole = some (whole.drop (i + part.length))) ∨
      ((∀ i, ¬StandsAt part whole i) ∧ afterFirst? part whole = none) := by
  induction whole with
  | nil =>
      cases part with
      | nil =>
          have here : StandsAt [] [] 0 := standsAt_zero.mpr List.nil_prefix
          exact .inl ⟨0, ⟨here, fun j _ => Nat.zero_le j⟩, rfl⟩
      | cons a part =>
          refine .inr ⟨fun i h => ?_, rfl⟩
          have hle := h.end_le
          simp at hle
  | cons c whole ih =>
      rw [afterFirst?]
      by_cases hprefix : part.isPrefixOf (c :: whole) = true
      · have here : StandsAt part (c :: whole) 0 :=
          standsAt_zero.mpr (List.isPrefixOf_iff_prefix.mp hprefix)
        rw [if_pos hprefix]
        exact .inl ⟨0, ⟨here, fun j _ => Nat.zero_le j⟩, by rw [Nat.zero_add]⟩
      · have nowhere : ¬StandsAt part (c :: whole) 0 := fun h =>
          hprefix (List.isPrefixOf_iff_prefix.mpr (standsAt_zero.mp h))
        rw [if_neg hprefix]
        rcases ih with ⟨i, first, heq⟩ | ⟨none, heq⟩
        · refine .inl ⟨i + 1, ⟨standsAt_cons_succ.mpr first.here, ?_⟩, ?_⟩
          · intro j hj
            cases j with
            | zero => exact absurd hj nowhere
            | succ j => exact Nat.succ_le_succ (first.least j (standsAt_cons_succ.mp hj))
          · rw [heq, Nat.add_right_comm, List.drop_succ_cons]
        · refine .inr ⟨fun j hj => ?_, heq⟩
          cases j with
          | zero => exact nowhere hj
          | succ j => exact none j (standsAt_cons_succ.mp hj)

/-- **A text occurs in another one** if it is a part of it without gaps. -/
theorem occursIn_iff (part whole : String) :
    occursIn part whole = true ↔ part.toList <:+: whole.toList := by
  rw [occursIn]
  rcases afterFirst?_cases part.toList whole.toList with ⟨i, first, heq⟩ | ⟨none, heq⟩
  · obtain ⟨before, rest, hsplit, -⟩ := standsAt_iff.mp first.here
    rw [heq, hsplit]
    exact iff_of_true rfl ⟨before, rest, List.append_assoc _ _ _⟩
  · rw [heq]
    refine iff_of_false Bool.false_ne_true ?_
    rintro ⟨before, rest, hsplit⟩
    refine none before.length (standsAt_iff.mpr ⟨before, rest, ?_, rfl⟩)
    rw [← hsplit, List.append_assoc]

/-! ## Several texts -/

/-- Texts stand in another one from these positions on, in the given order and without overlapping:
each ends at or before the beginning of all that follow. -/
structure InOrder (parts : List String) (whole : List Char) (positions : List Nat) : Prop where
  stands : List.Forall₂ (fun part i => StandsAt part.toList whole i) parts positions
  apart : (parts.zip positions).Pairwise fun x y => x.2 + x.1.length ≤ y.2

theorem InOrder.nil {whole : List Char} : InOrder [] whole [] :=
  ⟨.nil, .nil⟩

theorem inOrder_cons_iff {part : String} {parts : List String} {whole : List Char} {i : Nat}
    {positions : List Nat} :
    InOrder (part :: parts) whole (i :: positions) ↔
      StandsAt part.toList whole i ∧ InOrder parts whole positions ∧
        ∀ j ∈ positions, i + part.length ≤ j := by
  constructor
  · rintro ⟨stands, apart⟩
    obtain ⟨here, stands⟩ := List.forall₂_cons.mp stands
    rw [List.zip_cons_cons, List.pairwise_cons] at apart
    refine ⟨here, ⟨stands, apart.2⟩, fun j hj => ?_⟩
    -- every position is that of one of the texts
    rw [← List.map_snd_zip (Nat.le_of_eq stands.length_eq.symm)] at hj
    obtain ⟨x, hx, rfl⟩ := List.mem_map.mp hj
    exact apart.1 x hx
  · rintro ⟨here, ⟨stands, apart⟩, later⟩
    refine ⟨.cons here stands, ?_⟩
    rw [List.zip_cons_cons, List.pairwise_cons]
    exact ⟨fun x hx => later x.2 (List.of_mem_zip hx).2, apart⟩

/-- From a position on, the search misses nothing if there are places behind that position. -/
theorem firstMissing?_drop (parts : List String) {whole : List Char} {n : Nat}
    (h : n ≤ whole.length) :
    firstMissing? parts (whole.drop n) = none ↔
      ∃ positions, InOrder parts whole positions ∧ ∀ i ∈ positions, n ≤ i := by
  induction parts generalizing n with
  | nil => exact iff_of_true rfl ⟨[], .nil, nofun⟩
  | cons part parts ih =>
      rw [firstMissing?]
      rcases afterFirst?_cases part.toList (whole.drop n) with ⟨i, first, heq⟩ | ⟨none, heq⟩
      · have here : StandsAt part.toList whole (n + i) := (standsAt_drop h).mp first.here
        have hend : n + i + part.length ≤ whole.length := by
          rw [← String.length_toList]
          exact here.end_le
        have hrest : (whole.drop n).drop (i + part.toList.length) =
            whole.drop (n + i + part.length) := by
          rw [List.drop_drop, String.length_toList, Nat.add_assoc]
        rw [heq]
        dsimp only
        rw [hrest, ih hend]
        constructor
        · rintro ⟨positions, inOrder, later⟩
          refine ⟨(n + i) :: positions, inOrder_cons_iff.mpr ⟨here, inOrder, later⟩, ?_⟩
          intro j hj
          rcases List.mem_cons.mp hj with rfl | hj
          · exact Nat.le_add_right n i
          · have := later j hj
            omega
        · rintro ⟨positions, inOrder, later⟩
          cases positions with
          | nil => cases inOrder.stands
          | cons j positions =>
              obtain ⟨there, inOrder, behind⟩ := inOrder_cons_iff.mp inOrder
              -- wherever else the text stands, it ends no earlier
              have hnj : n ≤ j := later j List.mem_cons_self
              have hij : i ≤ j - n := by
                refine first.least (j - n) ((standsAt_drop h).mpr ?_)
                rwa [Nat.add_sub_cancel' hnj]
              refine ⟨positions, inOrder, fun k hk => ?_⟩
              have := behind k hk
              omega
      · rw [heq]
        refine iff_of_false nofun ?_
        rintro ⟨positions, inOrder, later⟩
        cases positions with
        | nil => cases inOrder.stands
        | cons j positions =>
            have hnj : n ≤ j := later j List.mem_cons_self
            refine none (j - n) ((standsAt_drop h).mpr ?_)
            rw [Nat.add_sub_cancel' hnj]
            exact (inOrder_cons_iff.mp inOrder).1

/-- **The search misses nothing if and only if there are places for all texts.** -/
theorem firstMissing?_eq_none_iff (parts : List String) (whole : List Char) :
    firstMissing? parts whole = none ↔ ∃ positions, InOrder parts whole positions := by
  have hdrop := firstMissing?_drop parts (Nat.zero_le whole.length)
  rw [List.drop_zero] at hdrop
  rw [hdrop]
  exact exists_congr fun positions => and_iff_left fun i _ => Nat.zero_le i

/-! ## The search on bytes -/

/-- The bytes of a text stand among those of another one from an offset on. -/
def BytesAt (part whole : String) (i : Nat) : Prop :=
  i + part.utf8ByteSize ≤ whole.utf8ByteSize ∧
    whole.toByteArray.extract i (i + part.utf8ByteSize) = part.toByteArray

instance (part whole : String) (i : Nat) : Decidable (BytesAt part whole i) :=
  inferInstanceAs (Decidable (_ ∧ _))

/-- The least offset from which the bytes of a text stand among those of another one. -/
def findBytes? (part whole : String) : Option Nat :=
  (List.range (whole.utf8ByteSize + 1)).find? fun i => decide (BytesAt part whole i)

/-- The text from an offset on, unless that is out of range or inside of a character. -/
def sliceFrom? (s : String) (i : Nat) : Option String :=
  if h : String.Pos.Raw.IsValid s ⟨i⟩ then
    some ⟨s.toByteArray.extract i s.utf8ByteSize, h.isValidUTF8_extract_utf8ByteSize⟩
  else none

/-- The first of several texts that is missing, if no slice fails. -/
def searchBytes? : List String → String → Option (Option String)
  | [], _ => some none
  | part :: parts, whole =>
    match findBytes? part whole with
    | some i => (sliceFrom? whole (i + part.utf8ByteSize)).bind (searchBytes? parts)
    | none => some (some part)

theorem bytesAt_append (before part rest : String) :
    BytesAt part (before ++ (part ++ rest)) before.utf8ByteSize := by
  refine ⟨by simp only [String.utf8ByteSize_append]; omega, ?_⟩
  have hbytes := @ByteArray.extract_append_size_add before.toByteArray
    (part.toByteArray ++ rest.toByteArray) 0 part.toByteArray.size
  rw [ByteArray.extract_append_eq_left rfl, Nat.add_zero, String.size_toByteArray,
    String.size_toByteArray] at hbytes
  rw [String.toByteArray_append, String.toByteArray_append]
  exact hbytes

/-- **The bytes of a text stand between characters.** -/
theorem exists_append_of_bytesAt {part whole : String} {i : Nat} (h : BytesAt part whole i)
    (hne : part ≠ "") :
    ∃ before rest, whole = before ++ (part ++ rest) ∧ before.utf8ByteSize = i := by
  obtain ⟨hrange, hbytes⟩ := h
  have hle : (⟨i⟩ : String.Pos.Raw) ≤ ⟨i + part.utf8ByteSize⟩ := Nat.le_add_right i _
  have hvalid : (whole.toByteArray.extract i (i + part.utf8ByteSize)).IsValidUTF8 :=
    hbytes ▸ part.isValidUTF8
  rcases (String.Pos.Raw.isValidUTF8_extract_iff ⟨i⟩ ⟨i + part.utf8ByteSize⟩ hle hrange).mp hvalid
    with hempty | ⟨hstart, hend⟩
  · have hsize : i = i + part.utf8ByteSize := congrArg String.Pos.Raw.byteIdx hempty
    exact absurd (String.utf8ByteSize_eq_zero_iff.mp (by omega)) hne
  · obtain ⟨before, _, hbefore, hi⟩ := String.Pos.Raw.isValid_iff_exists_append.mp hstart
    obtain ⟨upto, rest, hupto, hj⟩ := String.Pos.Raw.isValid_iff_exists_append.mp hend
    have hi : i = before.utf8ByteSize := congrArg String.Pos.Raw.byteIdx hi
    have hj : i + part.utf8ByteSize = upto.utf8ByteSize := congrArg String.Pos.Raw.byteIdx hj
    have hsplit : upto = before ++ part := by
      have hfirst : whole.toByteArray.extract 0 i = before.toByteArray := by
        rw [hbefore, String.toByteArray_append]
        exact ByteArray.extract_append_eq_left hi
      have hboth : whole.toByteArray.extract 0 (i + part.utf8ByteSize) = upto.toByteArray := by
        rw [hupto, String.toByteArray_append]
        exact ByteArray.extract_append_eq_left hj
      rw [← String.toByteArray_inj, String.toByteArray_append, ← hboth, ← hfirst, ← hbytes]
      exact ByteArray.extract_eq_extract_append_extract i (Nat.zero_le i) (Nat.le_add_right i _)
    exact ⟨before, rest, by rw [hupto, hsplit, String.append_assoc], hi.symm⟩

/-- What follows a text is a slice. -/
theorem sliceFrom?_append (before rest : String) :
    sliceFrom? (before ++ rest) before.utf8ByteSize = some rest := by
  have hvalid : String.Pos.Raw.IsValid (before ++ rest) ⟨before.utf8ByteSize⟩ :=
    String.Pos.Raw.isValid_iff_exists_append.mpr ⟨before, rest, rfl, rfl⟩
  rw [sliceFrom?, dif_pos hvalid]
  congr 1
  apply String.toByteArray_inj.mp
  show (before ++ rest).toByteArray.extract before.utf8ByteSize (before ++ rest).utf8ByteSize =
    rest.toByteArray
  rw [String.toByteArray_append, String.utf8ByteSize_append]
  exact ByteArray.extract_append_eq_right rfl rfl

/-- Of two beginnings of one text the shorter one has no more bytes. -/
theorem utf8ByteSize_le_of_append {s t s' t' : String} (h : s ++ t = s' ++ t')
    (hle : s.length ≤ s'.length) : s.utf8ByteSize ≤ s'.utf8ByteSize := by
  have hlists : s.toList ++ t.toList = s'.toList ++ t'.toList := by
    rw [← String.toList_append, ← String.toList_append, h]
  have hprefix : s.toList <+: s'.toList := by
    refine List.prefix_of_prefix_length_le (List.prefix_append _ t.toList) ?_ hle
    rw [hlists]
    exact List.prefix_append _ _
  obtain ⟨more, hmore⟩ := hprefix
  have hs' : s' = s ++ String.ofList more := by
    rw [← String.toList_inj, String.toList_append, String.toList_ofList, hmore]
  rw [hs', String.utf8ByteSize_append]
  exact Nat.le_add_right _ _

/-- Where a text stands, the other one is put together from three parts. -/
theorem StandsAt.exists_append {part whole : String} {i : Nat}
    (h : StandsAt part.toList whole.toList i) :
    ∃ before rest, whole = before ++ (part ++ rest) ∧ before.length = i := by
  obtain ⟨before, rest, hsplit, hlength⟩ := standsAt_iff.mp h
  refine ⟨String.ofList before, String.ofList rest, ?_, by rw [String.length_ofList, hlength]⟩
  rw [← String.toList_inj, hsplit]
  simp

theorem standsAt_append (before part rest : String) :
    StandsAt part.toList (before ++ (part ++ rest)).toList before.length :=
  standsAt_iff.mpr ⟨before.toList, rest.toList, by simp, String.length_toList⟩

/-- The first place by bytes is the first place by characters. -/
theorem findBytes?_of_first {before part rest : String}
    (first : StandsFirstAt part.toList (before ++ (part ++ rest)).toList before.length) :
    findBytes? part (before ++ (part ++ rest)) = some before.utf8ByteSize := by
  have here := bytesAt_append before part rest
  refine List.find?_range_eq_some.mpr ⟨decide_eq_true here, ?_, fun j hj => ?_⟩
  · rw [List.mem_range]
    have hrange := here.1
    omega
  · rw [Bool.not_eq_true', decide_eq_false_iff_not]
    intro there
    by_cases hne : part = ""
    · -- the empty text stands at the beginning
      have hzero := first.least 0 (standsAt_zero.mpr (by simp [hne]))
      have hsame : before ++ (part ++ rest) = "" ++ (before ++ (part ++ rest)) :=
        String.empty_append.symm
      have hbefore : before.utf8ByteSize ≤ ("" : String).utf8ByteSize :=
        utf8ByteSize_le_of_append hsame hzero
      rw [String.utf8ByteSize_empty] at hbefore
      omega
    · obtain ⟨before', rest', hsplit, hsize⟩ := exists_append_of_bytesAt there hne
      have hle : before.length ≤ before'.length := by
        refine first.least _ ?_
        rw [hsplit]
        exact standsAt_append before' part rest'
      have hbytes := utf8ByteSize_le_of_append hsplit hle
      omega

/-- A text that stands nowhere is not found among the bytes. -/
theorem findBytes?_of_none {part whole : String}
    (none : ∀ i, ¬StandsAt part.toList whole.toList i) : findBytes? part whole = .none := by
  refine List.find?_range_eq_none.mpr fun i _ => ?_
  rw [Bool.not_eq_true', decide_eq_false_iff_not]
  intro there
  have hne : part ≠ "" := by
    rintro rfl
    exact none 0 (standsAt_zero.mpr List.nil_prefix)
  obtain ⟨before, rest, rfl, -⟩ := exists_append_of_bytesAt there hne
  exact none _ (standsAt_append before part rest)

/-- **The search on bytes never fails at a slice, and misses the same text,** if any. -/
theorem searchBytes?_eq (parts : List String) (whole : String) :
    searchBytes? parts whole = some (firstMissing? parts whole.toList) := by
  induction parts generalizing whole with
  | nil => rfl
  | cons part parts ih =>
      rw [searchBytes?, firstMissing?]
      rcases afterFirst?_cases part.toList whole.toList with ⟨i, first, heq⟩ | ⟨none, heq⟩
      · obtain ⟨before, rest, rfl, rfl⟩ := first.here.exists_append
        have hrest : (before ++ (part ++ rest)).toList.drop (before.length + part.toList.length) =
            rest.toList := by
          rw [String.toList_append, String.toList_append, ← String.length_toList,
            List.drop_length_add_append, List.drop_left]
        have hslice := sliceFrom?_append (before ++ part) rest
        rw [String.utf8ByteSize_append, String.append_assoc] at hslice
        rw [heq, findBytes?_of_first first, hrest]
        dsimp only
        rw [hslice, Option.bind_some, ih]
      · rw [heq, findBytes?_of_none none]

end FieldRules.Text
