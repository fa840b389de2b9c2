import FieldRules.Calendar.Text
import FieldRules.Proofs.Calendar.Days
import FieldRules.Proofs.Number.ReadBack
import FieldRules.Proofs.Text.Trimming

/-!
# `Proofs.Calendar.ReadBack` — the text of an instant reads back as the instant

The text of an instant is a row of numbers with separators. Each number has just as many digits as
the reader takes at most, or ends at a separator, so the reader takes the row apart where the writer
put it together. What is read is cut to the millisecond, as the text is.

## Contents
- **`takeNumber?_padded`** and **`takeYear?_yearChars`**, the numbers.
- **`takeDate?_chars`** and **`readToSecond?_chars`**, the whole text.
- **`Instant.ShownAlike`** and **`Instant.chars_eq_iff`**, instants with one text, and
  **`Instant.shownAlike_iff`**: where leap seconds end a minute, they have one second and millisecond.
- **`Instant.cut`**, an instant without the digits beyond the millisecond, and
  **`ofMillis?_millis`**: outside of leap seconds, the milliseconds of an instant make it.
- **`toInstant?_moment`**: outside of leap seconds, the parts of an instant make the instant.
- **`readLiteral?_chars`**: outside of leap seconds, the text is read as the instant, cut to the
  millisecond.
- **`isInstantChar_chars`** and **`tight_chars`**, the characters that occur, and where no blank is.
-/

namespace FieldRules.Calendar

open FieldRules.Number FieldRules.Text

/-! ## Numbers of fixed width -/

theorem isDigit_of_mem_padded {width n : Nat} {c : Char} (h : c ∈ padded width n) :
    c.isDigit = true := by
  rcases List.mem_append.mp h with h | h
  · rw [List.eq_of_mem_replicate h]
    rfl
  · exact isDigit_of_mem_digits h

theorem value_padded (width n : Nat) : value (padded width n) = n := by
  show value (List.replicate _ '0' ++ digits n) = n
  rw [value_append, value_replicate_zero, value_digits]
  simp

theorem length_padded {width n : Nat} (hwidth : 0 < width) (h : n < 10 ^ width) :
    (padded width n).length = width := by
  have hlength : (digits n).length ≤ width := by
    rcases Nat.eq_zero_or_pos n with rfl | hpos
    · exact hwidth
    · have hlow := (digits_bounds hpos).1.trans_lt h
      have := (Nat.pow_lt_pow_iff_right (by decide)).mp hlow
      omega
  show (List.replicate _ '0' ++ digits n).length = width
  rw [List.length_append, List.length_replicate]
  omega

theorem padded_ne_nil (width n : Nat) : padded width n ≠ [] := by
  intro h
  exact digits_ne_nil n (List.append_eq_nil_iff.mp h).2

/-- No blanks are skipped in front of a digit. -/
theorem trimStart_digits {ds : List Char} (hds : ∀ c ∈ ds, c.isDigit = true) (hne : ds ≠ [])
    (rest : List Char) : trimStart (ds ++ rest) = ds ++ rest := by
  obtain ⟨d, ds', rfl⟩ := List.exists_cons_of_ne_nil hne
  exact trimStart_cons_not_blank _ (isBlank_of_isDigit (hds d List.mem_cons_self))

/-- A number of full width is taken whole, whatever follows. -/
theorem takeNumber?_padded (width : Nat) (hwidth : 0 < width) {n : Nat} (h : n < 10 ^ width)
    (rest : List Char) : takeNumber? width (padded width n ++ rest) = some (n, rest) := by
  have hdigits : ∀ c ∈ padded width n, c.isDigit = true := fun c hc => isDigit_of_mem_padded hc
  have hlength := length_padded hwidth h
  have htake : ((padded width n ++ rest).takeWhile Char.isDigit).take width = padded width n := by
    rw [List.takeWhile_append_of_pos hdigits, List.take_append_of_le_length hlength.ge,
      List.take_of_length_le hlength.le]
  unfold takeNumber?
  rw [trimStart_digits hdigits (padded_ne_nil width n)]
  dsimp only
  rw [htake, value_padded, List.drop_left]
  simp [padded_ne_nil]

/-- A blank in front of a number is skipped. -/
theorem takeNumber?_blank (most : Nat) (cs : List Char) :
    takeNumber? most (' ' :: cs) = takeNumber? most cs := by
  unfold takeNumber?
  rw [trimStart_cons_blank cs (by decide)]

/-- A year is taken whole if no digit follows. -/
theorem takeYear?_yearChars (year : Int) {rest : List Char}
    (hrest : ∀ c ∈ rest.head?, c.isDigit = false) :
    takeYear? (yearChars year ++ rest) = some (year, rest) := by
  have hdigits (n : Nat) : ∀ c ∈ padded 4 n, c.isDigit = true := fun c hc => isDigit_of_mem_padded hc
  have hsigned (sign : Int) (n : Nat) :
      takeYear?.signed sign (padded 4 n ++ rest) = some (sign * n, rest) := by
    obtain ⟨htake, -⟩ := takeWhile_digits_append (hdigits n) hrest
    unfold takeYear?.signed
    dsimp only
    rw [htake, value_padded, List.drop_left]
    simp [padded_ne_nil]
  unfold yearChars
  split
  · next hfour =>
      -- four digits, the first of which is no sign
      obtain ⟨d, ds, hds⟩ := List.exists_cons_of_ne_nil (padded_ne_nil 4 year.toNat)
      have hd := hdigits year.toNat d (hds ▸ List.mem_cons_self)
      have htrim := trimStart_digits (hdigits year.toNat) (padded_ne_nil 4 year.toNat) rest
      unfold takeYear?
      rw [htrim]
      split
      · next heq => rw [hds] at heq; cases heq; cases hd
      · next heq => rw [hds] at heq; cases heq; cases hd
      · rw [takeNumber?_padded 4 (by decide) (by omega), Option.map_some]
        show some ((year.toNat : Int), rest) = some (year, rest)
        rw [Int.toNat_of_nonneg hfour.1]
  · next hsign =>
      unfold takeYear?
      by_cases hneg : year < 0
      · rw [if_pos hneg, List.cons_append, trimStart_cons_not_blank _ (by decide)]
        show takeYear?.signed (-1) (padded 4 year.natAbs ++ rest) = some (year, rest)
        rw [hsigned]
        congr 2
        omega
      · rw [if_neg hneg, List.cons_append, trimStart_cons_not_blank _ (by decide)]
        show takeYear?.signed 1 (padded 4 year.natAbs ++ rest) = some (year, rest)
        rw [hsigned]
        congr 2
        omega

/-! ## The whole text -/

/-- A date is taken whole if its month and day have two digits. -/
theorem takeDate?_chars {d : Date} (hmonth : d.month < 100) (hday : d.day < 100)
    (rest : List Char) : takeDate? id (d.chars ++ rest) = some (d, rest) := by
  have htext : d.chars ++ rest =
      yearChars d.year ++ ('-' :: (padded 2 d.month ++ ('-' :: (padded 2 d.day ++ rest)))) := by
    simp [Date.chars]
  have hyear := @takeYear?_yearChars d.year
    ('-' :: (padded 2 d.month ++ ('-' :: (padded 2 d.day ++ rest)))) (by simp)
  rw [htext]
  simp [takeDate?, hyear, takeChar?, takeNumber?_padded 2 (by decide) hmonth,
    takeNumber?_padded 2 (by decide) hday]

/-- Hour and minute are taken whole, after a blank. -/
theorem takeMinute?_padded {hour minute : Nat} (hhour : hour < 100) (hminute : minute < 100)
    (rest : List Char) :
    takeMinute? id (' ' :: (padded 2 hour ++ ':' :: (padded 2 minute ++ rest))) =
      some (hour, minute, rest) := by
  simp [takeMinute?, takeChar?, takeNumber?_blank, takeNumber?_padded 2 (by decide) hhour,
    takeNumber?_padded 2 (by decide) hminute]

/-- A fraction of three digits at the end is taken as milliseconds. -/
theorem takeFraction?_padded {n : Nat} (h : n < 1000) :
    takeFraction? ('.' :: padded 3 n) = some (n * 1000000, []) := by
  have hdigits : ∀ c ∈ padded 3 n, c.isDigit = true := fun c hc => isDigit_of_mem_padded hc
  have hlength : (padded 3 n).length = 3 := length_padded (by decide) h
  obtain ⟨htake, -⟩ := @takeWhile_digits_append (padded 3 n) [] hdigits (by simp)
  have hnine : (padded 3 n).take 9 = padded 3 n := List.take_of_length_le (by omega)
  rw [List.append_nil] at htake
  simp [takeFraction?, htake, hnine, padded_ne_nil, value_padded, hlength]

/-- The second and its fraction are taken whole. -/
theorem takeSecond?_padded {second n : Nat} (hsecond : second < 100) (h : n < 1000) :
    takeSecond? id (':' :: (padded 2 second ++ '.' :: padded 3 n)) =
      some (second, n * 1000000, []) := by
  simp [takeSecond?, takeChar?, takeNumber?_padded 2 (by decide) hsecond, takeFraction?_padded h]

/-- The parts of an instant outside of leap seconds, cut to the millisecond. -/
def Instant.moment (t : Instant) : Moment :=
  let second := (t.seconds % 86400).toNat
  { date := Date.ofDay (t.seconds / 86400)
    hour := second / 3600
    minute := second / 60 % 60
    second := second % 60
    nanos := t.nanos / 1000000 * 1000000 }

/-- The date of an instant has a month and a day of two digits. -/
theorem ofDay_lt_hundred (day : Int) :
    (Date.ofDay day).month < 100 ∧ (Date.ofDay day).day < 100 := by
  obtain ⟨-, hmonth, -, hday⟩ := Date.valid_ofDay day
  have hlast : daysInMonth (Date.ofDay day).year (Date.ofDay day).month ≤ 31 := by
    unfold daysInMonth
    split
    · split <;> omega
    · split <;> omega
  constructor <;> omega

/-- The parts of an instant as its text shows them: a leap second one second on, and no digits
beyond the millisecond. -/
def Instant.shown (t : Instant) : Moment :=
  let second := (t.seconds % 86400).toNat
  { date := Date.ofDay (t.seconds / 86400)
    hour := second / 3600
    minute := second / 60 % 60
    second := second % 60 + t.nanos / 1000000000
    nanos := t.nanos % 1000000000 / 1000000 * 1000000 }

/-- **The text of an instant has the parts that it shows.** -/
theorem readToSecond?_chars (t : Instant) : readToSecond? t.chars = some t.shown := by
  obtain ⟨hmonth, hday⟩ := ofDay_lt_hundred (t.seconds / 86400)
  obtain ⟨-, -, hnanos⟩ := t.valid
  have htext : t.chars = (Date.ofDay (t.seconds / 86400)).chars ++
      (' ' :: (padded 2 ((t.seconds % 86400).toNat / 3600) ++
        ':' :: (padded 2 ((t.seconds % 86400).toNat / 60 % 60) ++
          (':' :: (padded 2 ((t.seconds % 86400).toNat % 60 + t.nanos / 1000000000) ++
            '.' :: padded 3 (t.nanos % 1000000000 / 1000000)))))) := by
    simp [Instant.chars]
  have hminute := takeMinute?_padded
    (show (t.seconds % 86400).toNat / 3600 < 100 by omega)
    (show (t.seconds % 86400).toNat / 60 % 60 < 100 by omega)
  have hsecond := takeSecond?_padded
    (show (t.seconds % 86400).toNat % 60 + t.nanos / 1000000000 < 100 by omega)
    (show t.nanos % 1000000000 / 1000000 < 1000 by omega)
  rw [htext]
  simp [readToSecond?, takeDate?_chars hmonth hday, hminute, hsecond, Instant.shown]

/-- Outside of leap seconds, the parts of an instant are shown as they are. -/
theorem shown_eq_moment {t : Instant} (h : t.nanos < 1000000000) : t.shown = t.moment := by
  have hleap : t.nanos / 1000000000 = 0 := by omega
  have hmillis : t.nanos % 1000000000 / 1000000 = t.nanos / 1000000 := by omega
  rw [Instant.shown, Instant.moment, hleap, hmillis]
  rfl

/-! ## One text for each millisecond -/

namespace Instant

variable {s t : Instant}

/-- Two instants show alike: the minute, the second in it, to which a leap second adds one, and the
millisecond. -/
structure ShownAlike (s t : Instant) : Prop where
  minute : s.seconds / 60 = t.seconds / 60
  second : s.seconds % 60 + s.nanos / 1000000000 = t.seconds % 60 + t.nanos / 1000000000
  millisecond : s.nanos % 1000000000 / 1000000 = t.nanos % 1000000000 / 1000000

/-- Instants that have one text show the same parts. -/
theorem shownAlike_of_shown_eq (h : s.shown = t.shown) : s.ShownAlike t := by
  have hday : s.seconds / 86400 = t.seconds / 86400 := by
    have hdate := congrArg (Date.toDay ∘ Moment.date) h
    simpa [shown, Date.toDay_ofDay] using hdate
  have hhour := congrArg Moment.hour h
  have hminute := congrArg Moment.minute h
  have hsecond := congrArg Moment.second h
  have hnanos := congrArg Moment.nanos h
  simp only [shown] at hhour hminute hsecond hnanos
  constructor <;> omega

/-- **The text of an instant is what it shows.** -/
theorem chars_eq_iff (s t : Instant) : s.chars = t.chars ↔ s.ShownAlike t := by
  constructor
  · intro h
    have hread := readToSecond?_chars s
    rw [h, readToSecond?_chars t] at hread
    exact shownAlike_of_shown_eq (Option.some.inj hread).symm
  · rintro ⟨hminute, hsecond, hmillis⟩
    have hday : s.seconds / 86400 = t.seconds / 86400 := by omega
    have hhour : (s.seconds % 86400).toNat / 3600 = (t.seconds % 86400).toNat / 3600 := by omega
    have hminute' : (s.seconds % 86400).toNat / 60 % 60 = (t.seconds % 86400).toNat / 60 % 60 := by
      omega
    have hsecond' : (s.seconds % 86400).toNat % 60 + s.nanos / 1000000000 =
        (t.seconds % 86400).toNat % 60 + t.nanos / 1000000000 := by
      omega
    rw [chars, chars, hday, hhour, hminute', hsecond', hmillis]

/-- Instants of one second and millisecond show alike. -/
theorem shownAlike_of_eq (hseconds : s.seconds = t.seconds)
    (hmillis : s.nanos / 1000000 = t.nanos / 1000000) : s.ShownAlike t := by
  constructor <;> omega

/-- **One text for each millisecond,** where leap seconds end a minute. Then a leap second shows as
second 60, apart from the second after it. -/
theorem shownAlike_iff (hs : s.EndsMinute) (ht : t.EndsMinute) :
    s.ShownAlike t ↔ s.seconds = t.seconds ∧ s.nanos / 1000000 = t.nanos / 1000000 := by
  have hleap : 1000000000 ≤ s.nanos → s.seconds % 60 = 59 := fun h => hs (decide_eq_true h)
  have hleap' : 1000000000 ≤ t.nanos → t.seconds % 60 = 59 := fun h => ht (decide_eq_true h)
  obtain ⟨-, -, hlt⟩ := s.valid
  obtain ⟨-, -, hlt'⟩ := t.valid
  constructor
  · rintro ⟨hminute, hsecond, hmillis⟩
    -- second 60 is shown by leap seconds only
    have hcarry : s.nanos / 1000000000 = t.nanos / 1000000000 := by omega
    constructor <;> omega
  · rintro ⟨hseconds, hmillis⟩
    exact shownAlike_of_eq hseconds hmillis

/-- Outside of leap seconds there is nothing to end a minute. -/
theorem endsMinute_of_regular (regular : t.isLeapSecond = false) : t.EndsMinute := fun hleap => by
  rw [regular] at hleap
  cases hleap

end Instant

/-! ## The millisecond of an instant -/

namespace Instant

variable {t : Instant}

/-- The instant without the digits beyond the millisecond. -/
def cut (t : Instant) : Instant where
  seconds := t.seconds
  nanos := t.nanos / 1000000 * 1000000
  valid := by
    obtain ⟨hlo, hhi, hnanos⟩ := t.valid
    exact ⟨hlo, hhi, by omega⟩

theorem nanos_lt_of_regular (regular : t.isLeapSecond = false) : t.nanos < 1000000000 := by
  simpa [isLeapSecond] using regular

theorem millis_cut (t : Instant) : t.cut.millis = t.millis := by
  show t.seconds * 1000 + ((t.nanos / 1000000 * 1000000 : Nat) : Int) / 1000000 =
    t.seconds * 1000 + (t.nanos : Int) / 1000000
  omega

theorem nanos_cut_lt (regular : t.isLeapSecond = false) : t.cut.nanos < 1000000000 := by
  have hnanos := nanos_lt_of_regular regular
  show t.nanos / 1000000 * 1000000 < 1000000000
  omega

theorem isLeapSecond_cut (regular : t.isLeapSecond = false) : t.cut.isLeapSecond = false :=
  decide_eq_false (Nat.not_le.mpr (nanos_cut_lt regular))

/-- **The milliseconds of an instant make the instant,** cut to the millisecond, outside of leap
seconds. -/
theorem ofMillis?_millis (regular : t.isLeapSecond = false) : ofMillis? t.millis = some t.cut := by
  have hnanos := nanos_lt_of_regular regular
  have hseconds : t.millis / 1000 = t.seconds := by
    unfold millis
    omega
  have hrest : (t.millis % 1000).toNat * 1000000 = t.nanos / 1000000 * 1000000 := by
    unfold millis
    omega
  rw [ofMillis?, hseconds, hrest]
  exact of?_of_lt t.cut.valid (nanos_cut_lt regular)

end Instant

/-- What milliseconds make has these milliseconds, and is no leap second. -/
theorem millis_of_ofMillis? {ms : Int} {t : Instant} (h : Instant.ofMillis? ms = some t) :
    t.isLeapSecond = false ∧ t.millis = ms := by
  obtain ⟨hseconds, hnanos, -⟩ := Instant.of?_eq_some h
  constructor
  · rw [Instant.isLeapSecond, hnanos, decide_eq_false_iff_not]
    omega
  · rw [Instant.millis, hseconds, hnanos]
    omega

/-- What milliseconds make has no digits beyond them. -/
theorem cut_of_ofMillis? {ms : Int} {t : Instant} (h : Instant.ofMillis? ms = some t) :
    t.cut = t := by
  obtain ⟨regular, hmillis⟩ := millis_of_ofMillis? h
  have hcut := Instant.ofMillis?_millis regular
  rw [hmillis, h] at hcut
  exact (Option.some.inj hcut).symm

/-! ## Reading an instant -/

/-- **The parts of an instant make the instant,** cut to the millisecond, outside of leap
seconds. -/
theorem toInstant?_moment {t : Instant} (regular : t.isLeapSecond = false) :
    t.moment.toInstant? = some t.cut := by
  obtain ⟨hlo, hhi, -⟩ := t.valid
  obtain ⟨hyear, hyear'⟩ := @Date.year_ofDay_bounds (t.seconds / 86400)
    (by unfold earliest at hlo ⊢; omega) (by omega)
  have hexists : t.moment.date.Valid ∧ -262143 ≤ t.moment.date.year ∧
      t.moment.date.year ≤ 262142 ∧ t.moment.hour < 24 ∧ t.moment.minute < 60 ∧
      t.moment.second ≤ 60 := by
    refine ⟨Date.valid_ofDay _, hyear, hyear', ?_, ?_, ?_⟩
    · show (t.seconds % 86400).toNat / 3600 < 24
      omega
    · show (t.seconds % 86400).toNat / 60 % 60 < 60
      omega
    · show (t.seconds % 86400).toNat % 60 ≤ 60
      omega
  have hsecond : t.moment.second ≠ 60 := by
    show (t.seconds % 86400).toNat % 60 ≠ 60
    omega
  have hseconds : t.moment.toSeconds? 0 = some (t.seconds, t.nanos / 1000000 * 1000000) := by
    unfold Moment.toSeconds?
    rw [if_pos hexists]
    have hday : t.moment.date.toDay = t.seconds / 86400 := Date.toDay_ofDay _
    have hclock : t.moment.hour * 3600 + t.moment.minute * 60 + t.moment.second =
        (t.seconds % 86400).toNat := by
      show (t.seconds % 86400).toNat / 3600 * 3600 + (t.seconds % 86400).toNat / 60 % 60 * 60 +
        (t.seconds % 86400).toNat % 60 = (t.seconds % 86400).toNat
      omega
    have hsum : t.moment.date.toDay * 86400 + ((t.seconds % 86400).toNat : Int) - 0 =
        t.seconds := by
      rw [hday]
      omega
    simp only [hsecond, if_false, hclock, hsum]
    rfl
  rw [Moment.toInstant?, hseconds]
  exact Instant.of?_of_lt t.cut.valid (Instant.nanos_cut_lt regular)

/-- **The text of an instant is read as the instant,** cut to the millisecond, outside of leap
seconds. -/
theorem readLiteral?_chars {t : Instant} (regular : t.isLeapSecond = false) :
    readLiteral? t.chars = some t.cut := by
  have hnanos := Instant.nanos_lt_of_regular regular
  have hwhole : Instant.ofMillis? t.cut.millis = some t.cut := by
    rw [t.millis_cut, Instant.ofMillis?_millis regular]
  simp [readLiteral?, readToSecond?_chars t, shown_eq_moment hnanos, toInstant?_moment regular,
    hwhole]

/-- **An instant of whole milliseconds is read from its text.** -/
theorem readLiteral?_chars_of_ofMillis? {ms : Int} {t : Instant}
    (h : Instant.ofMillis? ms = some t) : readLiteral? t.chars = some t := by
  rw [readLiteral?_chars (millis_of_ofMillis? h).1, cut_of_ofMillis? h]

/-! ## The characters of an instant -/

/-- The characters that instants are written with. -/
def IsInstantChar (c : Char) : Prop :=
  c.isDigit = true ∨ c ∈ ['-', '+', ' ', ':', '.']

/-- An instant has neither a comma nor a letter. -/
theorem IsInstantChar.plain {c : Char} (h : IsInstantChar c) : c ≠ ',' ∧ c ≠ 'n' := by
  constructor <;>
    · rintro rfl
      unfold IsInstantChar at h
      revert h
      decide

theorem isInstantChar_padded {width n : Nat} {c : Char} (h : c ∈ padded width n) :
    IsInstantChar c :=
  .inl (isDigit_of_mem_padded h)

theorem isInstantChar_yearChars {year : Int} {c : Char} (h : c ∈ yearChars year) :
    IsInstantChar c := by
  unfold yearChars at h
  split at h
  · exact isInstantChar_padded h
  · rcases List.mem_cons.mp h with rfl | h
    · refine .inr ?_
      split <;> simp
    · exact isInstantChar_padded h

theorem isInstantChar_chars {t : Instant} {c : Char} (h : c ∈ t.chars) : IsInstantChar c := by
  have hmark (hc : c ∈ ['-', '+', ' ', ':', '.']) : IsInstantChar c := .inr hc
  have hnumber {width n : Nat} (hc : c ∈ padded width n) : IsInstantChar c :=
    isInstantChar_padded hc
  simp only [Instant.chars, Date.chars, List.mem_append, List.mem_cons] at h
  rcases h with ((((((h | rfl | h) | rfl | h) | rfl | h) | rfl | h) | rfl | h) | rfl | h)
  · exact isInstantChar_yearChars h
  all_goals first | exact hnumber h | exact hmark (by simp)

theorem yearChars_cons (year : Int) :
    ∃ c cs, yearChars year = c :: cs ∧ isBlank c = false := by
  unfold yearChars
  split
  · obtain ⟨d, ds, hds⟩ := List.exists_cons_of_ne_nil (padded_ne_nil 4 year.toNat)
    have hd : d.isDigit = true := isDigit_of_mem_padded (hds ▸ List.mem_cons_self)
    exact ⟨d, ds, hds, isBlank_of_isDigit hd⟩
  · refine ⟨_, _, rfl, ?_⟩
    split <;> decide

/-- Neither the first nor the last character of an instant is a blank. -/
theorem tight_chars (t : Instant) : Tight t.chars := by
  constructor
  · obtain ⟨c, cs, hyear, hc⟩ := yearChars_cons (Date.ofDay (t.seconds / 86400)).year
    intro d hd
    have hhead : t.chars.head? = some c := by
      simp [Instant.chars, Date.chars, hyear]
    rw [hhead] at hd
    cases hd
    exact hc
  · intro d hd
    obtain ⟨front, hfront⟩ :
        ∃ front, t.chars = front ++ padded 3 (t.nanos % 1000000000 / 1000000) :=
      ⟨_, (List.append_cons _ '.' _)⟩
    rw [hfront, List.getLast?_append_of_ne_nil _ (padded_ne_nil _ _)] at hd
    exact isBlank_of_isDigit (isDigit_of_mem_padded (List.mem_of_getLast? hd))

end FieldRules.Calendar
