import FieldRules.Pattern.Expr

/-!
# `FieldRules.Pattern.Search` — finding matches

A set of positions of a text is kept as a number whose bit `i` stands for position `i`. Where the
matches of an expression that start in such a set can end is computed for all starts at once, so no
choice is ever taken back.

## Contents
- **`positions`**, flags as a set of positions, and **`places`**, the positions of each character.
- **`mask`** and **`lookMask`**, the positions where a character lies in a set and where a condition
  holds.
- **`Chart`**, an expression laid over a text, and **`Expr.chart`**. Each set and each condition of
  the expression is looked up in the text once, however often it is repeated.
- **`grow`** and **`power`**, repetition on sets of positions; both stop once nothing changes.
- **`Chart.ends`**, the ends of the matches that start in a set, and **`Expr.occursIn`**.
-/

namespace FieldRules.Pattern

open FieldRules.Unicode

/-! ## Positions -/

/-- A set of positions; bit `i` stands for position `i`. -/
abbrev Positions := Nat

/-- How many positions are gathered before they are put in front of the others. -/
def wordSize : Nat := 60

/-- The positions of the flags that are set, from position `width` on, together with some positions
below it. -/
def gather (below width : Nat) : List Bool → Positions
  | [] => below
  | flag :: flags =>
    let below := if flag then below + 1 <<< width else below
    if width + 1 = wordSize then below + gather 0 0 flags <<< wordSize
    else gather below (width + 1) flags

/-- The positions of the flags that are set. -/
def positions (flags : List Bool) : Positions :=
  gather 0 0 flags

/-- The characters of a text, each with the positions before it. -/
def places (text : List Char) : List (Char × Positions) :=
  text.eraseDups.map fun c => (c, positions (text.map (· == c)))

/-- The positions whose next character lies in a set. -/
def mask (places : List (Char × Positions)) (s : Spans) : Positions :=
  places.foldl (fun here (c, more) => if s.contains c.toNat then here ||| more else here) 0

/-- Whether a test of the neighbouring characters holds, at each position from one with the given
character before it to the end of the text. -/
def lookFlags (test : Option Char → Option Char → Bool) : Option Char → List Char → List Bool
  | before, [] => [test before none]
  | before, c :: cs => test before (some c) :: lookFlags test (some c) cs

/-- The positions where a test of the neighbouring characters holds, the end of the text
included. -/
def lookMask (test : Option Char → Option Char → Bool) (text : List Char) : Positions :=
  positions (lookFlags test none text)

/-- All positions of a text of the given length. -/
def allPositions (length : Nat) : Positions :=
  Nat.pow 2 (length + 1) - 1

/-! ## Charts -/

/-- An expression laid over a text. -/
inductive Chart where
  /-- Stays where it is. -/
  | empty
  /-- Goes one character further from the given positions. -/
  | advance (allowed : Positions)
  /-- Stays at the given positions. -/
  | hold (allowed : Positions)
  | seq (a b : Chart)
  | alt (a b : Chart)
  | repetition (least : Nat) (most : Option Nat) (a : Chart)
  deriving DecidableEq, Repr

/-- Lays an expression over a text, of which the places of the characters are known. -/
def Expr.chart (text : List Char) (places : List (Char × Positions)) : Expr → Chart
  | .empty => .empty
  | .set s => .advance (mask places s)
  | .look l => .hold (lookMask l.holds text)
  | .seq a b => .seq (a.chart text places) (b.chart text places)
  | .alt a b => .alt (a.chart text places) (b.chart text places)
  | .repetition least most a => .repetition least most (a.chart text places)

/-! ## Ends of matches -/

/-- What any number of steps up to `count` reaches. -/
def grow (step : Positions → Positions) : Nat → Positions → Positions
  | 0, here => here
  | count + 1, here =>
    let next := here ||| step here
    if next = here then here else grow step count next

/-- What exactly `count` steps reach. -/
def power (step : Positions → Positions) : Nat → Positions → Positions
  | 0, here => here
  | count + 1, here =>
    let next := step here
    if next = here then here else power step count next

/-- The ends of the matches that start at one of the given positions of a text with `length`
characters. -/
def Chart.ends (length : Nat) : Chart → Positions → Positions
  | .empty, here => here
  | .advance allowed, here => (here &&& allowed) <<< 1
  | .hold allowed, here => here &&& allowed
  | .seq a b, here => b.ends length (a.ends length here)
  | .alt a b, here => a.ends length here ||| b.ends length here
  | .repetition least most a, here =>
    let step := a.ends length
    let here := power step least here
    match most with
    | none => grow step (length + 1) here
    | some most => grow step (most - least) here

/-- Whether the expression matches some part of the text. -/
def Expr.occursIn (a : Expr) (text : List Char) : Bool :=
  (a.chart text (places text)).ends text.length (allPositions text.length) != 0

end FieldRules.Pattern
