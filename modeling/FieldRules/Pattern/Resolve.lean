import FieldRules.Pattern.Form

/-!
# `FieldRules.Pattern.Resolve` — applying the flags of a pattern

A flag holds from where it stands to the end of its group, across the branches of an alternation.
Resolving a pattern carries the flags along and brings what is written into normal form.

## Contents
- **`Modes`**, the flags that matter to matching.
- **Classes.** `ClassSet.resolve` builds the set of characters; variants in case are added before a
  class is negated.
- **`Ast.resolve`**, the form of a pattern.
-/

namespace FieldRules.Pattern

open FieldRules.Unicode

/-! ## Modes -/

/-- The flags that matter to matching. -/
structure Modes where
  ignoreCase : Bool
  multiLine : Bool
  dotAll : Bool
  carriageReturn : Bool
  swapGreed : Bool
  unicode : Bool
  deriving DecidableEq, Repr

namespace Modes

/-- The flags at the start of a pattern. -/
def initial : Modes := ⟨false, false, false, false, false, true⟩

/-- The flags after some have been set. -/
def apply (m : Modes) (set : FlagSet) : Modes :=
  { ignoreCase := (set.lookup .ignoreCase).getD m.ignoreCase
    multiLine := (set.lookup .multiLine).getD m.multiLine
    dotAll := (set.lookup .dotAll).getD m.dotAll
    carriageReturn := (set.lookup .carriageReturn).getD m.carriageReturn
    swapGreed := (set.lookup .swapGreed).getD m.swapGreed
    unicode := (set.lookup .unicode).getD m.unicode }

/-- Adds the variants in case where case is ignored. -/
def fold (m : Modes) (s : Spans) : Spans :=
  if m.ignoreCase then (if m.unicode then s.folded else s.asciiFolded) else s

/-- Adds the variants in case, then takes the complement where a class is negated. Without Unicode
the result has to consist of ASCII characters. -/
def close (m : Modes) (negated : Bool) (s : Spans) : Except Fault Spans :=
  let s := if negated then (m.fold s).compl else m.fold s
  if m.unicode || s.isAscii then .ok s else .error .partialCharacter

end Modes

/-! ## Characters and named classes -/

/-- A character on its own. Without Unicode an escape of a byte beyond ASCII stands for no
character. -/
def Literal.resolve (m : Modes) (l : Literal) : Except Fault Char :=
  if !m.unicode && l.byte && 0x80 ≤ l.char.toNat then .error .partialCharacter else .ok l.char

/-- A character in a class. Without Unicode only ASCII characters may stand there. -/
def Literal.resolveInClass (m : Modes) (l : Literal) : Except Fault Char := do
  let c ← l.resolve m
  if !m.unicode && 0x80 ≤ c.toNat then .error .unicodeOff else .ok c

/-- A set of ASCII characters by its intervals. -/
def asciiSet (spans : List (Char × Char)) : Spans :=
  .ofList (spans.map fun (first, last) => (first.toNat, last.toNat))

/-- The characters of an ASCII class. -/
def AsciiClass.toSet : AsciiClass → Spans
  | .alnum => asciiSet [('0', '9'), ('A', 'Z'), ('a', 'z')]
  | .alpha => asciiSet [('A', 'Z'), ('a', 'z')]
  | .ascii => asciiSet [('\x00', '\x7f')]
  | .blank => asciiSet [('\t', '\t'), (' ', ' ')]
  | .cntrl => asciiSet [('\x00', '\x1f'), ('\x7f', '\x7f')]
  | .digit => asciiSet [('0', '9')]
  | .graph => asciiSet [('!', '~')]
  | .lower => asciiSet [('a', 'z')]
  | .print => asciiSet [(' ', '~')]
  | .punct => asciiSet [('!', '/'), (':', '@'), ('[', '\x60'), ('\x7b', '~')]
  | .space => asciiSet [('\t', '\r'), (' ', ' ')]
  | .upper => asciiSet [('A', 'Z')]
  | .word => asciiSet [('0', '9'), ('A', 'Z'), ('_', '_'), ('a', 'z')]
  | .xdigit => asciiSet [('0', '9'), ('A', 'F'), ('a', 'f')]

/-- The characters of a class with a one-letter escape. -/
def Shorthand.toSet (unicode : Bool) : Shorthand → Spans
  | .digit => if unicode then Category.chars [.decimalNumber] else AsciiClass.digit.toSet
  | .space => if unicode then Binary.chars .whiteSpace else AsciiClass.space.toSet
  | .word => if unicode then wordChars else AsciiClass.word.toSet

/-- A class with a one-letter escape. It has no further variants in case. -/
def Shorthand.resolve (m : Modes) (negated : Bool) (s : Shorthand) : Except Fault Spans :=
  let set := s.toSet m.unicode
  let set := if negated then set.compl else set
  if m.unicode || set.isAscii then .ok set else .error .partialCharacter

/-- The characters with a property. -/
def resolveProperty (m : Modes) (negated : Bool) (p : Property) : Except Fault Spans :=
  if m.unicode then m.close negated p.chars else .error .unicodeOff

/-! ## Bracketed classes -/

/-- Combines two sets. -/
def SetOperator.apply : SetOperator → Spans → Spans → Spans
  | .intersection, s, t => s.inter t
  | .difference, s, t => s.diff t
  | .symmetricDifference, s, t => s.symmDiff t

mutual

/-- The set of an item. -/
def ClassItem.resolve (m : Modes) : ClassItem → Except Fault Spans
  | .empty => .ok .empty
  | .literal l => do return .single (← l.resolveInClass m)
  | .range first last => do
    return .range (← first.resolveInClass m).toNat (← last.resolveInClass m).toNat
  | .ascii negated cls => m.close negated cls.toSet
  | .property negated p => resolveProperty m negated p
  | .shorthand negated s => s.resolve m negated
  | .bracketed negated set => do m.close negated (← ClassSet.resolve m set)
  | .union items => do return .unions (← ClassItem.resolveAll m items)

/-- The sets of items. -/
def ClassItem.resolveAll (m : Modes) : List ClassItem → Except Fault (List Spans)
  | [] => .ok []
  | i :: is => do return (← ClassItem.resolve m i) :: (← ClassItem.resolveAll m is)

/-- The set of the inside of a class. -/
def ClassSet.resolve (m : Modes) : ClassSet → Except Fault Spans
  | .item i => ClassItem.resolve m i
  | .binary op lhs rhs => do
    return op.apply (m.fold (← ClassSet.resolve m lhs)) (m.fold (← ClassSet.resolve m rhs))

end

/-! ## Patterns -/

/-- The condition of an anchor. -/
def Anchor.resolve (m : Modes) : Anchor → Look
  | .lineStart => if m.multiLine then .lineStart m.carriageReturn else .textStart
  | .lineEnd => if m.multiLine then .lineEnd m.carriageReturn else .textEnd
  | .textStart => .textStart
  | .textEnd => .textEnd
  | .word edge => .word edge m.unicode

/-- The characters that the dot stands for. Without Unicode it would stand for bytes. -/
def resolveDot (m : Modes) : Except Fault Spans :=
  if !m.unicode then .error .partialCharacter
  else if m.dotAll then .ok Spans.empty.compl
  else if m.carriageReturn then .ok (asciiSet [('\r', '\r'), ('\n', '\n')]).compl
  else .ok (Spans.single '\n').compl

/-- A character with its variants in case where case is ignored. -/
def resolveLiteral (m : Modes) (l : Literal) : Except Fault Spans := do
  return m.fold (.single (← l.resolve m))

/-- A class as a form. -/
def Modes.toForm (m : Modes) (s : Spans) : Form :=
  .ofSet (!m.unicode) s

mutual

/-- The form of a pattern, with the flags that hold after it in the same group. -/
def Ast.resolve (m : Modes) : Ast → Except Fault (Form × Modes)
  | .empty => .ok (.empty, m)
  | .flags set => .ok (.empty, m.apply set)
  | .literal l => do return (m.toForm (← resolveLiteral m l), m)
  | .dot => do return (m.toForm (← resolveDot m), m)
  | .anchor a => .ok (.look (a.resolve m), m)
  | .property negated p => do return (m.toForm (← resolveProperty m negated p), m)
  | .shorthand negated s => do return (m.toForm (← s.resolve m negated), m)
  | .bracketed negated set => do return (m.toForm (← m.close negated (← set.resolve m)), m)
  | .repetition least most greedy sub => do
    let (a, m) ← Ast.resolve m sub
    return (a.times least most (greedy != m.swapGreed), m)
  | .group set capture sub => do
    let (a, _) ← Ast.resolve (m.apply set) sub
    match capture with
    | some number => return (.capture number a, m)
    | none => return (a, m)
  | .alternation branches => do
    let (bs, m) ← Ast.resolveAll m branches
    return (.ofBranches bs, m)
  | .concat parts => do
    let (as, m) ← Ast.resolveAll m parts
    return (.ofRow as, m)

/-- The forms of patterns one after another. -/
def Ast.resolveAll (m : Modes) : List Ast → Except Fault (List Form × Modes)
  | [] => .ok ([], m)
  | a :: as => do
    let (b, m) ← Ast.resolve m a
    let (bs, m) ← Ast.resolveAll m as
    return (b :: bs, m)

end

end FieldRules.Pattern
