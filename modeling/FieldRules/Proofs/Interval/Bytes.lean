import FieldRules.Proofs.Interval.Layout
import FieldRules.Proofs.Text.Slice

/-!
# `Proofs.Interval.Bytes` — reading an expression through its bytes

An expression can be read without taking it apart character by character: its brackets are its first
and its last byte, what they enclose is the slice between them, and the quotes of a bound are taken
off in the same way. Each of these steps asks for something that a text need not have. The reader
below has no answer where it is not there, and a fault of its own for a text that is too short for
two brackets.

It always has an answer, and the one of `parse`. The bytes it asks for are those of a text that is
not empty. No text of one byte gets past both brackets, since no byte is both an opening and a
closing one; and a slice is only taken between two characters of one byte each.

## Contents
- **`Bound.parseBytes?`** and **`Interval.parseBytes?`**, the readers.
- **`exists_ends`**: the bytes at both ends show the brackets, and **`two_le_of_brackets`**.
- **`Bound.parseBytes?_eq`**, **`parseBodyBytes?_eq`** and **`parse_stays_within_text`**.
-/

namespace FieldRules

open Calendar Number Text

/-- A text without the blanks around it. -/
def Text.trimmed (s : String) : String :=
  String.ofList (trim s.toList)

/-! ## Readers -/

namespace Bound

/-- Whether a text has a quote at each of its ends. A single quote is not two of them. -/
def isQuoted (token : String) : Bool :=
  decide (2 ≤ token.utf8ByteSize) && token.toList.head? == some '\'' &&
    token.toList.getLast? == some '\''

/-- Reads a bound whose bracket includes it or not. -/
def parseBytes? (inclusive : Bool) (token : String) : Option (Except Interval.Fault Bound) :=
  let token := trimmed token
  if token.isEmpty then some (.error .emptyBound)
  else do
    let inner ← if isQuoted token then (inside? token).map trimmed else some token
    match word? inclusive inner.toList with
    | some b => return .ok b
    | none =>
      if isQuoted token then
        match readLiteral? inner.toList with
        | some t => return .ok (.literal (.time t) inclusive)
        | none => return .error (.badTimestamp inner)
      else
        match Scalar.readNumber? inner.toList with
        | some x => return .ok (.literal x inclusive)
        | none => return .error (.badNumber inner)

end Bound

namespace Interval

/-- The bracket in front of the lower bound, as a byte. -/
def openingByte? (b : UInt8) : Option Bool :=
  if b = '['.toUInt8 then some true else if b = '('.toUInt8 then some false else none

/-- The bracket after the upper bound, as a byte. -/
def closingByte? (b : UInt8) : Option Bool :=
  if b = ']'.toUInt8 then some true else if b = ')'.toUInt8 then some false else none

/-- What can be wrong with an expression that is read through its bytes. -/
inductive BytesFault where
  | stated (fault : Fault)
  /-- The expression is too short for two brackets. -/
  | missingClosing
  deriving DecidableEq, Repr

/-- Reads the two bounds between the brackets. -/
def parseBodyBytes? (lowerInclusive upperInclusive : Bool) (body : String) :
    Option (Except Fault Interval) :=
  match body.toList.dropWhile (· != ',') with
  | [] => some (.error .oneBound)
  | _ :: hi =>
    if hi.contains ',' then some (.error .manyBounds)
    else do
      let lo := String.ofList (body.toList.takeWhile (· != ','))
      match ← Bound.parseBytes? lowerInclusive lo with
      | .error fault => return .error fault
      | .ok lower =>
        match ← Bound.parseBytes? upperInclusive (String.ofList hi) with
        | .error fault => return .error fault
        | .ok upper => return join lower upper

/-- Reads an interval expression. -/
def parseBytes? (expression : String) : Option (Except BytesFault Interval) :=
  let text := trimmed expression
  if text = "past" then some (.ok .past)
  else if text = "future" then some (.ok .future)
  else if text = "" then some (.error (.stated .empty))
  else do
    match openingByte? (← byteAt? text 0) with
    | none => return .error (.stated .noOpening)
    | some lowerInclusive =>
      match closingByte? (← lastByte? text) with
      | none => return .error (.stated .noClosing)
      | some upperInclusive =>
        if text.utf8ByteSize < 2 then return .error .missingClosing
        else
          let outcome ← parseBodyBytes? lowerInclusive upperInclusive (← inside? text)
          return outcome.mapError .stated

end Interval

/-! ## Quotes -/

namespace Bound

/-- The quotes can be taken off exactly where there are two of them. -/
theorem isQuoted_ofList (cs : List Char) :
    isQuoted (String.ofList cs) = (unquote? cs).isSome := by
  rw [Bool.eq_iff_iff]
  simp only [isQuoted, Bool.and_eq_true, decide_eq_true_eq, beq_iff_eq, String.toList_ofList]
  constructor
  · rintro ⟨⟨htwo, hhead⟩, hlast⟩
    obtain ⟨rest, rfl⟩ := List.head?_eq_some_iff.mp hhead
    cases rest with
    | nil =>
        -- a single quote is one byte
        revert htwo
        decide
    | cons c rest =>
        rw [List.getLast?_cons_cons] at hlast
        rw [unquote?, if_pos hlast]
        rfl
  · intro h
    obtain ⟨inner, hinner⟩ := Option.isSome_iff_exists.mp h
    rw [eq_inQuotes_of_unquote? hinner, inQuotes]
    refine ⟨⟨two_le_utf8ByteSize String.toList_ofList, rfl⟩, ?_⟩
    rw [← List.cons_append, List.getLast?_concat]

/-- What stands between quotes is a slice. -/
theorem inside?_inQuotes (cs : List Char) :
    inside? (String.ofList (inQuotes cs)) = some (String.ofList cs) :=
  inside?_between String.toList_ofList (by decide) (by decide)

/-- **A bound is read through its bytes** as it is read through its characters. -/
theorem parseBytes?_eq (inclusive : Bool) (token : String) :
    parseBytes? inclusive token = some (Bound.parse inclusive token.toList) := by
  unfold parseBytes? Bound.parse
  rw [trimmed]
  generalize trim token.toList = cs
  by_cases hempty : cs = []
  · rw [hempty]
    rfl
  have hne : cs.isEmpty = false := by simpa using hempty
  have hne' : (String.ofList cs).isEmpty = false := by simpa using hempty
  dsimp only
  rw [isQuoted_ofList, hne, hne']
  cases hunquote : unquote? cs with
  | some inner =>
      rw [eq_inQuotes_of_unquote? hunquote, inside?_inQuotes]
      simp only [Option.map_some, trimmed, Option.isSome_some, if_true, Bool.false_eq_true,
        if_false, Option.bind_eq_bind, Option.bind_some, String.toList_ofList]
      cases word? inclusive (trim inner) with
      | some b => rfl
      | none => cases readLiteral? (trim inner) <;> rfl
  | none =>
      simp only [Option.isSome_none, Bool.false_eq_true, if_false, Option.bind_eq_bind,
        Option.bind_some, String.toList_ofList]
      cases word? inclusive cs with
      | some b => rfl
      | none => cases Scalar.readNumber? cs <;> rfl

end Bound

/-! ## Brackets -/

namespace Interval

/-- A byte of a character shows whether that is an opening bracket. -/
theorem openingByte?_of_mem {b : UInt8} {c : Char} (h : b ∈ String.utf8EncodeChar c) :
    openingByte? b = opening? c := by
  have hsquare : b = '['.toUInt8 ↔ c = '[' := eq_byte_iff h (by decide)
  have hround : b = '('.toUInt8 ↔ c = '(' := eq_byte_iff h (by decide)
  simp only [openingByte?, opening?, hsquare, hround]

/-- A byte of a character shows whether that is a closing bracket. -/
theorem closingByte?_of_mem {b : UInt8} {c : Char} (h : b ∈ String.utf8EncodeChar c) :
    closingByte? b = closing? c := by
  have hsquare : b = ']'.toUInt8 ↔ c = ']' := eq_byte_iff h (by decide)
  have hround : b = ')'.toUInt8 ↔ c = ')' := eq_byte_iff h (by decide)
  simp only [closingByte?, closing?, hsquare, hround]

theorem utf8Size_openingOf (p : Bool) : (openingOf p).utf8Size = 1 := by
  cases p <;> decide

theorem utf8Size_closingOf (q : Bool) : (closingOf q).utf8Size = 1 := by
  cases q <;> decide

/-- No bracket stands at both ends of a text. -/
theorem openingOf_ne_closingOf (p q : Bool) : openingOf p ≠ closingOf q := by
  cases p <;> cases q <;> decide

/-- A text that begins and ends with a bracket has one at each end. -/
theorem exists_enclosed {cs : List Char} {first last : Char} {p q : Bool}
    (hfirst : cs.head? = some first) (hlast : cs.getLast? = some last)
    (hopening : opening? first = some p) (hclosing : closing? last = some q) :
    ∃ body, cs = openingOf p :: (body ++ [closingOf q]) := by
  obtain ⟨rest, rfl⟩ := List.head?_eq_some_iff.mp hfirst
  rw [eq_openingOf hopening] at hlast ⊢
  rw [eq_closingOf hclosing] at hlast
  rcases rest.eq_nil_or_concat' with rfl | ⟨body, c, rfl⟩
  · exact absurd (Option.some.inj hlast) (openingOf_ne_closingOf p q)
  · rw [← List.cons_append, List.getLast?_concat] at hlast
    exact ⟨body, by rw [Option.some.inj hlast]⟩

/-- The bytes at the two ends of a text show which brackets stand there. -/
theorem exists_ends {text : String} (h : text ≠ "") :
    ∃ first last, text.toList.head? = some first ∧ text.toList.getLast? = some last ∧
      (∃ b, byteAt? text 0 = some b ∧ openingByte? b = opening? first) ∧
      ∃ b, lastByte? text = some b ∧ closingByte? b = closing? last := by
  have hne : text.toList ≠ [] := fun hempty => h (String.toList_eq_nil_iff.mp hempty)
  have hhead := List.head?_eq_some_head hne
  have hend := List.getLast?_eq_some_getLast hne
  obtain ⟨b, hb, hread⟩ := exists_byteAt?_zero hhead
  obtain ⟨b', hb', hread'⟩ := exists_lastByte? hend
  exact ⟨_, _, hhead, hend, ⟨b, hread, openingByte?_of_mem hb⟩, b', hread',
    closingByte?_of_mem hb'⟩

/-- **Two brackets need two bytes.** -/
theorem two_le_of_brackets {text : String} {first last : UInt8} {p q : Bool}
    (hfirst : byteAt? text 0 = some first) (hopening : openingByte? first = some p)
    (hlast : lastByte? text = some last) (hclosing : closingByte? last = some q) :
    2 ≤ text.utf8ByteSize := by
  have hne : text ≠ "" := by
    rintro rfl
    cases hfirst
  obtain ⟨c, d, hhead, hend, ⟨b, hread, hopen⟩, b', hread', hclose⟩ := exists_ends hne
  cases hfirst.symm.trans hread
  cases hlast.symm.trans hread'
  obtain ⟨body, hbody⟩ := exists_enclosed hhead hend (hopen ▸ hopening) (hclose ▸ hclosing)
  exact two_le_utf8ByteSize hbody

/-! ## Expressions -/

/-- **The bounds between brackets** are read through their bytes as through their characters. -/
theorem parseBodyBytes?_eq (p q : Bool) (body : String) :
    parseBodyBytes? p q body = some (parseBody p q body.toList) := by
  unfold parseBodyBytes? parseBody
  cases body.toList.dropWhile (· != ',') with
  | nil => rfl
  | cons c hi =>
      dsimp only
      split
      · rfl
      · simp only [Bound.parseBytes?_eq, String.toList_ofList]
        cases Bound.parse p (body.toList.takeWhile (· != ',')) with
        | error fault => rfl
        | ok lower => cases Bound.parse q hi <;> rfl

/-- **An expression is read through its bytes** as it is read through its characters. -/
theorem parseBytes?_eq (expression : String) :
    parseBytes? expression =
      some ((parseTrimmed (trim expression.toList)).mapError .stated) := by
  have htrim : trim expression.toList = (trimmed expression).toList := String.toList_ofList.symm
  unfold parseBytes? parseTrimmed
  rw [htrim]
  generalize trimmed expression = text
  dsimp only
  by_cases hpast : text = "past"
  · rw [hpast]
    rfl
  by_cases hfuture : text = "future"
  · rw [hfuture]
    rfl
  by_cases hempty : text = ""
  · rw [hempty]
    rfl
  have hwords : text.toList ≠ ['p', 'a', 's', 't'] ∧ text.toList ≠ ['f', 'u', 't', 'u', 'r', 'e'] :=
    ⟨fun h => hpast (String.toList_injective h), fun h => hfuture (String.toList_injective h)⟩
  rw [if_neg hpast, if_neg hfuture, if_neg hempty, if_neg hwords.1, if_neg hwords.2]
  obtain ⟨first, last, hhead, hend, ⟨b, hread, hopen⟩, b', hread', hclose⟩ := exists_ends hempty
  rw [hread, hread', hend]
  obtain ⟨rest, htext⟩ := List.head?_eq_some_iff.mp hhead
  simp only [Option.bind_eq_bind, Option.bind_some, hopen, hclose]
  rw [htext]
  dsimp only
  cases hopening : opening? first with
  | none => rfl
  | some p =>
      cases hclosing : closing? last with
      | none => rfl
      | some q =>
          obtain ⟨body, hbody⟩ := exists_enclosed hhead hend hopening hclosing
          have hslice := inside?_between hbody (utf8Size_openingOf p) (utf8Size_closingOf q)
          have hrest : rest = body ++ [closingOf q] := (List.cons.inj (htext.symm.trans hbody)).2
          have hlong := not_lt.mpr (two_le_utf8ByteSize hbody)
          dsimp only
          rewrite [if_neg hlong, hslice, hrest, List.dropLast_concat]
          simp only [Option.bind_some, parseBodyBytes?_eq, String.toList_ofList]
          rfl

/-- **Reading stays within the text.** An expression has every byte and every slice that it is asked
for, and so has a bound. It is never found too short for its brackets, since two brackets need two
bytes. -/
theorem parse_stays_within_text (expression : String) :
    parseBytes? expression =
        some ((parse expression).mapError fun e => .stated e.fault) ∧
      (∀ inclusive token,
        Bound.parseBytes? inclusive token = some (Bound.parse inclusive token.toList)) ∧
      parseBytes? expression ≠ some (.error .missingClosing) ∧
      ∀ text first last p q, byteAt? text 0 = some first → openingByte? first = some p →
        lastByte? text = some last → closingByte? last = some q → 2 ≤ text.utf8ByteSize := by
  have hread : parseBytes? expression =
      some ((parse expression).mapError fun e => .stated e.fault) := by
    rw [parseBytes?_eq, parse_eq]
    cases parseTrimmed (trim expression.toList) <;> rfl
  refine ⟨hread, Bound.parseBytes?_eq, ?_, fun _ _ _ _ _ => two_le_of_brackets⟩
  rw [hread]
  cases parse expression <;> nofun

end Interval

end FieldRules
