import FieldRules.Pattern.Expr

/-!
# `FieldRules.Pattern.Form` — patterns in normal form

A pattern is kept in a form in which what amounts to the same is written in one way: a class of one
character is a literal, literals in a row are one literal, rows in rows are one row, and branches
that differ in one character are a class. The form decides how much memory a pattern takes, so it is
built by functions that keep it normal.

## Contents
- **`Form`**, and **`Form.same`**, equality.
- **Lengths**: `Form.least?` and `Form.most?`, in bytes of the text that is matched.
- **Building**: `Form.ofSet`, `Form.ofRow`, `Form.ofBranches` and `Form.times`.
- **`Form.begins`** and **`Form.ends`**, conditions that every match satisfies at its start and end.
- **`Form.toExpr`**, the expression of a form.
-/

namespace FieldRules.Pattern

open FieldRules.Unicode

/-- A pattern with its flags applied. -/
inductive Form where
  /-- Matches the empty text. -/
  | empty
  /-- Matches these characters, of which there is at least one. -/
  | literal (cs : List Char)
  /-- Matches one character of a set. `bytes` marks a class of bytes, as it is written where Unicode
  support is turned off. -/
  | set (bytes : Bool) (s : Spans)
  /-- Matches the empty text where a condition holds. -/
  | look (l : Look)
  | repetition (least : Nat) (most : Option Nat) (greedy : Bool) (a : Form)
  | capture (number : Nat) (a : Form)
  | row (parts : List Form)
  | branches (forms : List Form)

namespace Form

mutual

/-- Equality. Classes of bytes and of characters differ. -/
def same : Form → Form → Bool
  | .empty, .empty => true
  | .literal cs, .literal ds => cs == ds
  | .set b s, .set c t => b == c && s == t
  | .look l, .look m => l == m
  | .repetition least most greedy a, .repetition least' most' greedy' b =>
    least == least' && most == most' && greedy == greedy' && same a b
  | .capture n a, .capture m b => n == m && same a b
  | .row as, .row bs => sameAll as bs
  | .branches as, .branches bs => sameAll as bs
  | _, _ => false

/-- Equality of lists. -/
def sameAll : List Form → List Form → Bool
  | [], [] => true
  | a :: as, b :: bs => same a b && sameAll as bs
  | _, _ => false

end

/-! ## Lengths -/

/-- Bytes of the encoding of a code point. -/
def encodedSize (n : Nat) : Nat :=
  if n < 0x80 then 1 else if n < 0x800 then 2 else if n < 0x10000 then 3 else 4

mutual

/-- The length of the shortest match; `none` where nothing can match. -/
def least? : Form → Option Nat
  | .empty => some 0
  | .literal cs => some (String.ofList cs).utf8ByteSize
  | .set _ s => s[0]?.map fun (first, _) => encodedSize first
  | .look _ => some 0
  | .repetition least _ _ a => a.least?.map (least * ·)
  | .capture _ a => a.least?
  | .row parts => leastSum? parts
  | .branches [] => none
  | .branches (a :: forms) => leastOf? a.least? forms

/-- The sum of the lengths of the shortest matches. -/
def leastSum? : List Form → Option Nat
  | [] => some 0
  | a :: as => do return (← a.least?) + (← leastSum? as)

/-- The smallest length; `none` as soon as one branch has none. -/
def leastOf? (sofar : Option Nat) : List Form → Option Nat
  | [] => sofar
  | a :: as => leastOf? (do return min (← sofar) (← a.least?)) as

end

mutual

/-- The length of the longest match; `none` where there is no limit and where nothing can match. -/
def most? : Form → Option Nat
  | .empty => some 0
  | .literal cs => some (String.ofList cs).utf8ByteSize
  | .set _ s => s.back?.map fun (_, last) => encodedSize last
  | .look _ => some 0
  | .repetition _ most _ a => do return (← a.most?) * (← most)
  | .capture _ a => a.most?
  | .row parts => mostSum? parts
  | .branches [] => none
  | .branches (a :: forms) => mostOf? a.most? forms

/-- The sum of the lengths of the longest matches. -/
def mostSum? : List Form → Option Nat
  | [] => some 0
  | a :: as => do return (← a.most?) + (← mostSum? as)

/-- The greatest length; `none` as soon as one branch has none. -/
def mostOf? (sofar : Option Nat) : List Form → Option Nat
  | [] => sofar
  | a :: as => mostOf? (do return max (← sofar) (← a.most?)) as

end

/-! ## Building -/

/-- The form that nothing matches. -/
def never : Form := .set true .empty

/-- One character of a set. A set of one character is a literal. -/
def ofSet (bytes : Bool) (s : Spans) : Form :=
  match s.toList with
  | [] => never
  | [(first, last)] => if first = last then .literal [Char.ofNat first] else .set bytes s
  | _ => .set bytes s

/-- The parts of a row, where a form stands for itself and the empty form for no part. -/
def toRow : Form → List Form
  | .empty => []
  | .row parts => parts
  | a => [a]

/-- Puts a part before parts, joining literals. -/
def joinLiterals : Form → List Form → List Form
  | .literal cs, .literal ds :: parts => .literal (cs ++ ds) :: parts
  | a, parts => a :: parts

/-- Parts of a normal row as one form. -/
def ofParts : List Form → Form
  | [] => .empty
  | [a] => a
  | parts => .row parts

/-- Forms in a row. -/
def ofRow (forms : List Form) : Form :=
  ofParts ((forms.flatMap toRow).foldr joinLiterals [])

/-- The branches of an alternation, where another form stands for itself. -/
def toBranches : Form → List Form
  | .branches forms => forms
  | a => [a]

/-- The set of a form that is a single character. -/
def single? : Form → Option Spans
  | .literal [c] => some (.single c)
  | _ => none

/-- The set of a form that is a class. -/
def class? : Form → Option Spans
  | .set _ s => some s
  | _ => none

/-- The parts that two rows begin with alike. -/
def sharedParts : List Form → List Form → List Form
  | a :: as, b :: bs => if same a b then a :: sharedParts as bs else []
  | _, _ => []

/-- The parts of a form that is a row. -/
def row? : Form → Option (List Form)
  | .row parts => some parts
  | _ => none

/-- Branches of which one has to match. Branches that are all single characters, or all classes, are
one class. Parts that all branches begin with stand before the alternation; `fuel` bounds how often
that can happen, which is once for every part of the shortest branch. -/
def ofBranchesIn : Nat → List Form → Form
  | fuel, forms =>
    match forms.flatMap toBranches with
    | [] => never
    | [a] => a
    | flat@(first :: others) =>
      match flat.mapM single? with
      | some sets => ofSet false (.unions sets)
      | none =>
        match flat.mapM class? with
        | some sets => ofSet false (.unions sets)
        | none =>
          match fuel, row? first, others.mapM row? with
          | fuel + 1, some parts, some rows =>
            match rows.foldl sharedParts parts with
            | [] => .branches flat
            | shared =>
              let rests := (parts :: rows).map fun parts =>
                ofRow (parts.drop shared.length)
              ofRow (shared ++ [ofBranchesIn fuel rests])
          | _, _, _ => .branches flat

/-- The number of parts of a form. -/
def size : Form → Nat
  | .row parts => parts.length
  | _ => 1

/-- Branches of which one has to match. -/
def ofBranches (forms : List Form) : Form :=
  ofBranchesIn (forms.foldl (fun n a => n + a.size) 1) forms

/-- A form repeated. What can match the empty text only need not be taken more than once. -/
def times (least : Nat) (most : Option Nat) (greedy : Bool) (a : Form) : Form :=
  let once := a.most? == some 0
  let least := if once then min least 1 else least
  let most := if once then some (min (most.getD 1) 1) else most
  if least = 0 ∧ most = some 0 then .empty
  else if least = 1 ∧ most = some 1 then a
  else .repetition least most greedy a

/-! ## Conditions at the ends -/

mutual

/-- Whether every match satisfies a condition where it starts. -/
def begins (l : Look) : Form → Bool
  | .look m => m == l
  | .repetition least _ _ a => 0 < least && begins l a
  | .capture _ a => begins l a
  | .row parts => someBegins l parts
  | .branches forms => !forms.isEmpty && allBegin l forms
  | _ => false

/-- Whether a part of a row satisfies the condition and all parts before it are empty. -/
def someBegins (l : Look) : List Form → Bool
  | [] => false
  | a :: as => begins l a || (a.most? == some 0 && someBegins l as)

/-- Whether all branches satisfy the condition. -/
def allBegin (l : Look) : List Form → Bool
  | [] => true
  | a :: as => begins l a && allBegin l as

end

mutual

/-- Whether every match satisfies a condition where it ends. -/
def ends (l : Look) : Form → Bool
  | .look m => m == l
  | .repetition least _ _ a => 0 < least && ends l a
  | .capture _ a => ends l a
  | .row parts => (someEnds l parts).1
  | .branches forms => !forms.isEmpty && allEnd l forms
  | _ => false

/-- Whether a part of a row satisfies the condition and all parts after it are empty; and whether
all parts are empty, so that the end of the row reaches what stands before it. -/
def someEnds (l : Look) : List Form → Bool × Bool
  | [] => (false, true)
  | a :: as =>
    let (found, reached) := someEnds l as
    (found || (reached && ends l a), reached && a.most? == some 0)

/-- Whether all branches satisfy the condition. -/
def allEnd (l : Look) : List Form → Bool
  | [] => true
  | a :: as => ends l a && allEnd l as

end

/-! ## Expressions -/

/-- Characters one after another. -/
def literalExpr : List Char → Expr
  | [] => .empty
  | [c] => .set (.single c)
  | c :: cs => .seq (.set (.single c)) (literalExpr cs)

mutual

/-- The expression of a form. Captures make no difference to what matches. -/
def toExpr : Form → Expr
  | .empty => .empty
  | .literal cs => literalExpr cs
  | .set _ s => .set s
  | .look l => .look l
  | .repetition least most _ a => .repetition least most a.toExpr
  | .capture _ a => a.toExpr
  | .row parts => rowExpr parts
  | .branches forms => branchExpr forms

/-- Expressions in a row. -/
def rowExpr : List Form → Expr
  | [] => .empty
  | [a] => a.toExpr
  | a :: as => .seq a.toExpr (rowExpr as)

/-- Expressions of which one has to match. -/
def branchExpr : List Form → Expr
  | [] => .set .empty
  | [a] => a.toExpr
  | a :: as => .alt a.toExpr (branchExpr as)

end

end Form

end FieldRules.Pattern
