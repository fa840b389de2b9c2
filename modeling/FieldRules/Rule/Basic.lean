import FieldRules.Text.Blank

/-!
# `FieldRules.Rule.Basic` — rules as they are declared

## Contents
- **Groups.** Rules are filed under groups, and a check is made in one group. A blank name stands
  for the default group everywhere.
- **`Condition`** and **`Rule`**. A rule states a condition that a value has to meet, or must not
  meet, in each of its groups.
- **`Rule.effectiveGroups`**, the groups that a rule is filed under.
-/

namespace FieldRules

open Text

/-! ## Groups -/

/-- The group of rules and checks that name none. -/
def defaultGroup : String := "_default_"

/-- The group that a name stands for. -/
def groupNamed (name : String) : String :=
  if allBlank name then defaultGroup else name

/-- Names that stand for a group already are left alone. -/
theorem groupNamed_groupNamed (name : String) : groupNamed (groupNamed name) = groupNamed name := by
  by_cases h : allBlank name = true
  · simp [groupNamed, h]
  · simp [groupNamed, h]

/-! ## Rules -/

/-- What a value is tested against. -/
inductive Condition where
  /-- To be one of the listed literals. -/
  | values (literals : List String)
  /-- To lie in an interval. -/
  | range (expression : String)
  /-- To match a pattern from end to end. -/
  | pattern (source : String)
  deriving DecidableEq, Repr

/-- A rule on a field. -/
structure Rule where
  condition : Condition
  /-- The groups as written; none stands for the default group. -/
  groups : List String
  /-- Whether the condition admits values or rejects them. -/
  accept : Bool
  /-- A disabled rule is kept but has no effect. -/
  disabled : Bool
  deriving DecidableEq, Repr

namespace Rule

/-- The groups that the rule is filed under, once for each time it names them. -/
def effectiveGroups (r : Rule) : List String :=
  if r.groups.isEmpty then [defaultGroup] else r.groups.map groupNamed

/-- Whether the rule is not disabled. -/
def isEnabled (r : Rule) : Bool :=
  !r.disabled

theorem effectiveGroups_ne_nil (r : Rule) : r.effectiveGroups ≠ [] := by
  unfold effectiveGroups
  split
  · simp
  · rename_i h
    simpa using h

end Rule

end FieldRules
