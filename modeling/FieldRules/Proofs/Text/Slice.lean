import FieldRules.Proofs.Text.ByteOrder
import FieldRules.Proofs.Text.Occurrence

/-!
# `Proofs.Text.Slice` — bytes and slices of a text that need not be there

A text may be asked for a byte at an offset, or for the slice between two offsets. Neither has to be
there: an offset can lie outside of the text, two offsets can stand the wrong way around, and a
slice can begin or end inside of a character.

Where a text begins and ends with characters of one byte each, what lies between them is always a
slice. Whether it does can be told from its first and its last byte, since a character of several
bytes has none that stands for a character by itself.

## Contents
- **`byteAt?`**, **`lastByte?`**, **`slice?`** and **`inside?`**, without an answer where there is
  no such byte or slice.
- **`eq_of_byte_mem`**: the byte of a character of one byte belongs to no other character.
- **`exists_byteAt?_zero`** and **`exists_lastByte?`**, the bytes at both ends.
- **`two_le_utf8ByteSize`** and **`inside?_between`**, a text between two characters.
-/

namespace FieldRules.Text

/-! ## Bytes and slices -/

/-- The byte at an offset, unless that is out of range. -/
def byteAt? (s : String) (i : Nat) : Option UInt8 :=
  s.toUTF8.data[i]?

/-- The last byte. An empty text has no offset before its end. -/
def lastByte? (s : String) : Option UInt8 :=
  s.utf8ByteSize.ppred.bind (byteAt? s)

/-- The text between two offsets, unless they stand the wrong way around, are out of range, or lie
inside of a character. -/
def slice? (s : String) (i j : Nat) : Option String :=
  if h : i ≤ j ∧ String.Pos.Raw.IsValid s ⟨i⟩ ∧ String.Pos.Raw.IsValid s ⟨j⟩ then
    some ⟨s.toByteArray.extract i j,
      (String.Pos.Raw.isValidUTF8_extract_iff ⟨i⟩ ⟨j⟩ h.1 h.2.2.le_rawEndPos).mpr (.inr h.2)⟩
  else none

/-- The text without its first and its last byte. -/
def inside? (s : String) : Option String :=
  s.utf8ByteSize.ppred.bind (slice? s 1)

/-! ## The ends of a text -/

/-- **The byte of a character of one byte belongs to no other character.** -/
theorem eq_of_byte_mem {c d : Char} (h : d.utf8Size = 1)
    (hmem : d.toUInt8 ∈ String.utf8EncodeChar c) : c = d := by
  have hle : d.val.toNat ≤ 127 := UInt32.le_iff_toNat_le.mp (Char.utf8Size_eq_one_iff.mp h)
  have hbyte : d.toUInt8 = UInt8.ofNat d.val.toNat := rfl
  have hmax := codePoint_lt c
  rw [hbyte] at hmem
  rw [← Char.toNat_inj, ← Char.toNat_val, ← Char.toNat_val]
  unfold String.utf8EncodeChar at hmem
  generalize c.val.toNat = v at hmem hmax ⊢
  generalize d.val.toNat = w at hmem hle ⊢
  -- the bytes of a longer character are 128 or more
  dsimp only at hmem
  repeat' split at hmem
  all_goals
    simp only [List.mem_cons, List.not_mem_nil, or_false, ← UInt8.toNat_inj,
      UInt8.toNat_ofNat'] at hmem
    omega

/-- Any byte of a character shows whether that is the one of a byte. -/
theorem eq_byte_iff {b : UInt8} {c d : Char} (hb : b ∈ String.utf8EncodeChar c)
    (h : d.utf8Size = 1) : b = d.toUInt8 ↔ c = d := by
  constructor
  · rintro rfl
    exact eq_of_byte_mem h hb
  · rintro rfl
    rw [String.utf8EncodeChar_eq_singleton h] at hb
    exact List.mem_singleton.mp hb

theorem byteAt?_eq (s : String) (i : Nat) :
    byteAt? s i = (s.toList.flatMap String.utf8EncodeChar)[i]? := by
  rw [byteAt?, ← Array.getElem?_toList, bytes_eq]

/-- The last byte stands right before the end. -/
theorem lastByte?_eq (s : String) :
    lastByte? s = (s.toList.flatMap String.utf8EncodeChar).getLast? := by
  have hsize : s.utf8ByteSize = (s.toList.flatMap String.utf8EncodeChar).length := by
    rw [← bytes_eq]
    rfl
  rw [lastByte?, hsize]
  cases hlength : (s.toList.flatMap String.utf8EncodeChar).length with
  | zero =>
      rw [List.length_eq_zero_iff.mp hlength]
      rfl
  | succ n =>
      rw [List.getLast?_eq_getElem?, hlength]
      exact byteAt?_eq s n

/-- A text begins with a byte of its first character. -/
theorem exists_byteAt?_zero {s : String} {c : Char} (h : s.toList.head? = some c) :
    ∃ b ∈ String.utf8EncodeChar c, byteAt? s 0 = some b := by
  obtain ⟨cs, hs⟩ := List.head?_eq_some_iff.mp h
  obtain ⟨b, bs, hb⟩ := List.exists_cons_of_ne_nil (encode_ne_nil c)
  refine ⟨b, hb ▸ List.mem_cons_self, ?_⟩
  rw [byteAt?_eq, hs, List.flatMap_cons, hb]
  rfl

/-- A text ends with a byte of its last character. -/
theorem exists_lastByte? {s : String} {c : Char} (h : s.toList.getLast? = some c) :
    ∃ b ∈ String.utf8EncodeChar c, lastByte? s = some b := by
  obtain ⟨cs, hs⟩ := List.getLast?_eq_some_iff.mp h
  refine ⟨_, List.getLast_mem (encode_ne_nil c), ?_⟩
  rw [lastByte?_eq, hs, List.flatMap_append, List.flatMap_singleton,
    List.getLast?_append_of_ne_nil _ (encode_ne_nil c), List.getLast?_eq_some_getLast]

/-! ## What lies between -/

/-- The middle one of three texts is a slice. -/
theorem slice?_append (before part rest : String) :
    slice? (before ++ (part ++ rest)) before.utf8ByteSize
      (before.utf8ByteSize + part.utf8ByteSize) = some part := by
  have hstart : String.Pos.Raw.IsValid (before ++ (part ++ rest)) ⟨before.utf8ByteSize⟩ :=
    String.Pos.Raw.isValid_iff_exists_append.mpr ⟨before, part ++ rest, rfl, rfl⟩
  have hend : String.Pos.Raw.IsValid (before ++ (part ++ rest))
      ⟨before.utf8ByteSize + part.utf8ByteSize⟩ := by
    refine String.Pos.Raw.isValid_iff_exists_append.mpr
      ⟨before ++ part, rest, (String.append_assoc ..).symm, ?_⟩
    rw [← String.utf8ByteSize_append]
    rfl
  rw [slice?, dif_pos ⟨Nat.le_add_right _ _, hstart, hend⟩]
  congr 1
  exact String.toByteArray_inj.mp (bytesAt_append before part rest).2

section Between

variable {s : String} {a b : Char} {cs : List Char}

theorem eq_append_between (h : s.toList = a :: (cs ++ [b])) :
    s = String.singleton a ++ (String.ofList cs ++ String.singleton b) := by
  rw [← String.toList_inj, h]
  simp

theorem utf8ByteSize_between (h : s.toList = a :: (cs ++ [b])) :
    s.utf8ByteSize = a.utf8Size + (String.ofList cs).utf8ByteSize + b.utf8Size := by
  rw [eq_append_between h, String.utf8ByteSize_append, String.utf8ByteSize_append,
    String.utf8ByteSize_singleton, String.utf8ByteSize_singleton, Nat.add_assoc]

/-- Two characters have two bytes at least. -/
theorem two_le_utf8ByteSize (h : s.toList = a :: (cs ++ [b])) : 2 ≤ s.utf8ByteSize := by
  have hsize := utf8ByteSize_between h
  have ha := a.utf8Size_pos
  have hb := b.utf8Size_pos
  omega

/-- **What lies between two characters of one byte is a slice.** -/
theorem inside?_between (h : s.toList = a :: (cs ++ [b])) (ha : a.utf8Size = 1)
    (hb : b.utf8Size = 1) : inside? s = some (String.ofList cs) := by
  have hslice := slice?_append (String.singleton a) (String.ofList cs) (String.singleton b)
  rw [String.utf8ByteSize_singleton, ha, ← eq_append_between h] at hslice
  rw [inside?, utf8ByteSize_between h, ha, hb]
  exact hslice

/-- Between both bytes of a single character there is no slice. -/
example : inside? "é" = none := by decide

end Between

end FieldRules.Text
