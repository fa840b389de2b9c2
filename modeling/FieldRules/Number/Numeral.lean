/-!
# `FieldRules.Number.Numeral` — whole numbers in decimal digits

## Contents
- **Writing.** `digits` and `ofInt`, without leading noughts.
- **Reading.** `value` of a list of digits; `readInt?` for an optional sign and at least one digit,
  leading noughts allowed.
- **Bounded reading.** `readBetween?`, which refuses what lies outside a range.
- **Ranges** of 64 and 128 bits, with `fitsSigned64` and `fitsUnsigned64`.
-/

namespace FieldRules.Number

/-- The character of a digit below ten. -/
def digitChar (d : Nat) : Char :=
  Char.ofNat ('0'.toNat + d)

/-- The number that a digit stands for. -/
def digitValue (c : Char) : Nat :=
  c.toNat - '0'.toNat

/-- Digits of `n`, most significant first; `fuel` bounds their number. -/
def digitsWithin : Nat → Nat → List Char
  | 0, _ => []
  | fuel + 1, n =>
    if n < 10 then [digitChar n] else digitsWithin fuel (n / 10) ++ [digitChar (n % 10)]

/-- The decimal digits of `n`, most significant first, without leading noughts. -/
def digits (n : Nat) : List Char :=
  digitsWithin (n + 1) n

/-- A whole number as text: a minus sign where needed, then digits. -/
def ofInt : Int → List Char
  | .ofNat n => digits n
  | .negSucc n => '-' :: digits (n + 1)

/-- Digits read as a number, most significant first. -/
def value (ds : List Char) : Nat :=
  ds.foldl (fun n d => 10 * n + digitValue d) 0

/-- Splits off a leading sign; `true` stands for minus. -/
def splitSign : List Char → Bool × List Char
  | '-' :: cs => (true, cs)
  | '+' :: cs => (false, cs)
  | cs => (false, cs)

/-- Reads an optional sign followed by one or more digits, and nothing else. -/
def readInt? (cs : List Char) : Option Int :=
  let (negative, ds) := splitSign cs
  if ds.isEmpty || !ds.all Char.isDigit then none
  else some (if negative then -(value ds : Int) else value ds)

/-- Reads a whole number between `lo` and `hi`, both included. -/
def readBetween? (lo hi : Int) (cs : List Char) : Option Int :=
  (readInt? cs).filter fun n => lo ≤ n && n ≤ hi

theorem readBetween?_eq_some_iff {lo hi n : Int} {cs : List Char} :
    readBetween? lo hi cs = some n ↔ readInt? cs = some n ∧ lo ≤ n ∧ n ≤ hi := by
  simp [readBetween?, Option.filter_eq_some_iff]

theorem readBetween?_eq_none_iff {lo hi : Int} {cs : List Char} :
    readBetween? lo hi cs = none ↔ ∀ n, readInt? cs = some n → ¬(lo ≤ n ∧ n ≤ hi) := by
  simp [readBetween?, Option.filter_eq_none_iff]

/-! ## Ranges of fixed width -/

/-- The least whole number of 64 bits with a sign. -/
def leastSigned64 : Int := -0x8000000000000000

/-- Whether a whole number fits into 64 bits with a sign. -/
def fitsSigned64 (n : Int) : Bool :=
  leastSigned64 ≤ n && n ≤ 0x7FFFFFFFFFFFFFFF

/-- Whether a whole number fits into 64 bits without a sign. -/
def fitsUnsigned64 (n : Int) : Bool :=
  0 ≤ n && n ≤ 0xFFFFFFFFFFFFFFFF

/-- The least whole number of 128 bits with a sign. -/
def leastSigned128 : Int := -0x80000000000000000000000000000000

/-- The greatest whole number of 128 bits with a sign. -/
def greatestSigned128 : Int := 0x7FFFFFFFFFFFFFFFFFFFFFFFFFFFFFFF

/-- The greatest whole number of 128 bits without a sign. -/
def greatestUnsigned128 : Int := 0xFFFFFFFFFFFFFFFFFFFFFFFFFFFFFFFF

/-! ## Writing and reading back -/

/-- One unit of fuel beyond what the number needs changes nothing. -/
theorem digitsWithin_succ {fuel n : Nat} (h : n < fuel) :
    digitsWithin (fuel + 1) n = digitsWithin fuel n := by
  induction fuel generalizing n with
  | zero => omega
  | succ fuel ih =>
      show (if n < 10 then _ else digitsWithin (fuel + 1) (n / 10) ++ _) =
        (if n < 10 then _ else digitsWithin fuel (n / 10) ++ _)
      split
      · rfl
      · rw [ih (n := n / 10) (by omega)]

/-- Any fuel above the number yields all its digits. -/
theorem digitsWithin_of_lt {fuel n : Nat} (h : n < fuel) : digitsWithin fuel n = digits n := by
  induction fuel with
  | zero => omega
  | succ fuel ih =>
      by_cases hn : n = fuel
      · subst hn; rfl
      · rw [digitsWithin_succ (by omega)]
        exact ih (by omega)

/-- The last digit is the remainder by ten, the digits before it are those of the quotient. -/
theorem digits_eq (n : Nat) :
    digits n = if n < 10 then [digitChar n] else digits (n / 10) ++ [digitChar (n % 10)] := by
  rw [digits, digitsWithin]
  split
  · rfl
  · rw [digitsWithin_of_lt (by omega : n / 10 < n)]

theorem digitValue_digitChar {d : Nat} (h : d < 10) : digitValue (digitChar d) = d := by
  match d, h with
  | 0, _ | 1, _ | 2, _ | 3, _ | 4, _ | 5, _ | 6, _ | 7, _ | 8, _ | 9, _ => rfl

theorem isDigit_digitChar {d : Nat} (h : d < 10) : (digitChar d).isDigit = true := by
  match d, h with
  | 0, _ | 1, _ | 2, _ | 3, _ | 4, _ | 5, _ | 6, _ | 7, _ | 8, _ | 9, _ => rfl

theorem value_append_singleton (ds : List Char) (d : Char) :
    value (ds ++ [d]) = 10 * value ds + digitValue d := by
  simp [value]

/-- Reading the digits of a number gives the number back. -/
theorem value_digits (n : Nat) : value (digits n) = n := by
  induction n using Nat.strongRecOn with
  | ind n ih =>
      rw [digits_eq]
      split
      · rename_i h
        simp [value, digitValue_digitChar h]
      · rw [value_append_singleton, ih (n / 10) (by omega),
          digitValue_digitChar (Nat.mod_lt _ (by omega))]
        omega

theorem digits_ne_nil (n : Nat) : digits n ≠ [] := by
  rw [digits_eq]
  split <;> simp

theorem isDigit_of_mem_digits {n : Nat} {c : Char} (h : c ∈ digits n) : c.isDigit = true := by
  induction n using Nat.strongRecOn with
  | ind n ih =>
      rw [digits_eq] at h
      split at h
      · rename_i hn
        rw [List.mem_singleton] at h
        exact h ▸ isDigit_digitChar hn
      · rcases List.mem_append.mp h with h | h
        · exact ih (n / 10) (by omega) h
        · rw [List.mem_singleton] at h
          exact h ▸ isDigit_digitChar (Nat.mod_lt _ (by omega))

end FieldRules.Number
