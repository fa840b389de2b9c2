import Mathlib

/-!
# `Proofs.Text.ByteOrder` — texts in the order of their bytes

Texts are ordered by their characters, and a character is written in UTF-8 with one byte or several.
The first byte tells how many there are, and more bytes begin with a greater first one; characters of
as many bytes are written in digits, the most significant one first. So it makes no difference
whether two texts are compared by characters or by bytes.

## Contents
- **`BytesBefore`**, the order of the bytes.
- **`encode_append_lt`**, two characters, whatever follows them.
- **`bytesBefore_iff`**.
-/

namespace FieldRules.Text

/-- The bytes of a text stand before those of another one, in the order of lists. -/
def BytesBefore (s t : String) : Prop :=
  s.toUTF8.data.toList < t.toUTF8.data.toList

theorem bytes_eq (s : String) :
    s.toUTF8.data.toList = s.toList.flatMap String.utf8EncodeChar := by
  rw [String.toUTF8, ← String.utf8Encode_toList, List.utf8Encode, List.toList_data_toByteArray]

theorem codePoint_lt (c : Char) : c.val.toNat < 0x110000 := by
  rcases c.valid with h | h
  · exact Nat.lt_trans h (by decide)
  · exact h.2

/-- Every character has a byte. -/
theorem encode_ne_nil (c : Char) : String.utf8EncodeChar c ≠ [] := by
  rw [Ne, ← List.length_eq_zero_iff, String.length_utf8EncodeChar]
  exact c.utf8Size_pos.ne'

/-- The bytes of the lower one of two characters stand first, whatever follows. -/
theorem encode_append_lt {c d : Char} (h : c < d) (xs ys : List UInt8) :
    String.utf8EncodeChar c ++ xs < String.utf8EncodeChar d ++ ys := by
  have hlt : c.val.toNat < d.val.toNat := UInt32.lt_iff_toNat_lt.mp h
  have hmax := codePoint_lt d
  unfold String.utf8EncodeChar
  generalize c.val.toNat = v at hlt
  generalize d.val.toNat = w at hlt hmax
  -- the digits of a number, one after another
  have hdigits (n : Nat) : n / 4096 = n / 64 / 64 ∧ n / 262144 = n / 64 / 64 / 64 := by omega
  dsimp only
  repeat' split
  all_goals
    simp only [List.cons_append, List.nil_append, List.cons_lt_cons_iff, UInt8.lt_iff_toNat_lt,
      ← UInt8.toNat_inj, UInt8.toNat_ofNat', hdigits]
    simp (disch := omega) only [Nat.mod_eq_of_lt]
    omega

theorem flatMap_encode_lt {cs ds : List Char} (h : cs < ds) :
    cs.flatMap String.utf8EncodeChar < ds.flatMap String.utf8EncodeChar := by
  induction h with
  | nil =>
      rename_i d ds
      obtain ⟨b, bs, hb⟩ := List.exists_cons_of_ne_nil (encode_ne_nil d)
      rw [List.flatMap_nil, List.flatMap_cons, hb]
      exact List.nil_lt_cons b _
  | rel h =>
      rw [List.flatMap_cons, List.flatMap_cons]
      exact encode_append_lt h _ _
  | cons _ ih =>
      rw [List.flatMap_cons, List.flatMap_cons]
      exact List.append_left_lt ih

/-- **Texts are ordered like their bytes.** -/
theorem bytesBefore_iff (s t : String) : BytesBefore s t ↔ s < t := by
  have hlt {s t : String} (h : s < t) : BytesBefore s t := by
    rw [BytesBefore, bytes_eq, bytes_eq]
    exact flatMap_encode_lt (String.lt_iff.mp h)
  constructor
  · intro h
    rcases lt_trichotomy s t with hst | rfl | hts
    · exact hst
    · exact absurd h (List.lt_irrefl _)
    · exact absurd h (List.lt_asymm (hlt hts))
  · exact hlt

end FieldRules.Text
