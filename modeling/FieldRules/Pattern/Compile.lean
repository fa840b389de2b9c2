import FieldRules.Pattern.Footprint
import FieldRules.Pattern.Parse
import FieldRules.Pattern.Resolve
import FieldRules.Pattern.Search

/-!
# `FieldRules.Pattern.Compile` — patterns that judge whole texts

A pattern is anchored by writing it into a group between a start and an end anchor. The anchored
text is then read as one pattern, so parentheses that do not balance inside of the source may
balance with those around it.

## Contents
- **`anchored`**, the anchored text.
- **`Pattern.compile`** and **`Pattern.isMatch`**.
-/

namespace FieldRules

open Pattern

namespace Pattern

/-- The source between anchors. -/
def anchored (source : List Char) : List Char :=
  "^(?:".toList ++ source ++ ")$".toList

/-- The expression of a pattern text. -/
def compileText (text : List Char) : Except Fault Expr := do
  let ast ← parse text
  if maxDepth < ast.depth then .error .tooDeep
  else do
    let (form, _) ← ast.resolve .initial
    if form.fits then .ok form.toExpr else .error .tooLarge

end Pattern

/-- A compiled pattern. -/
structure Pattern where
  source : String
  expr : Expr
  deriving DecidableEq, Repr

namespace Pattern

/-- Compiles a pattern so that it judges whole texts. -/
def compile (source : String) : Except Fault Pattern := do
  return ⟨source, ← compileText (anchored source.toList)⟩

/-- Whether a text matches. -/
def isMatch (p : Pattern) (text : String) : Bool :=
  p.expr.occursIn text.toList

end Pattern

end FieldRules
