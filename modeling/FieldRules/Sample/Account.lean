import FieldRules.Check.Validator
import FieldRules.Document.Rules

/-!
# `FieldRules.Sample.Account` — accounts and teams

Two checked types that lead to each other, to try rules on. All rules on them come from rule books.

## Contents
- **`Account`** and **`Team`**, with `Account.value` and `Team.value`, what their fields read as.
- **`sampleSchemas`**, their declarations. The mentor of an account is never walked, and its tags
  hold nothing to walk.
- **`Account.ofNode?`** and **`Team.ofNode?`**, reading them from documents.
-/

namespace FieldRules

open Calendar Document Number

/-! ## The types -/

/-- The tier of an account. -/
inductive Tier where
  | free
  | pro
  | enterprise
  deriving DecidableEq, Repr

/-- The word for a tier. -/
def Tier.text : Tier → String
  | .free => "free"
  | .pro => "pro"
  | .enterprise => "enterprise"

/-- The tier that a word names. -/
def Tier.ofText? (s : String) : Option Tier :=
  [Tier.free, .pro, .enterprise].find? fun t => t.text = s

/-- What is known about an account itself. -/
structure Profile where
  name : Option String
  role : Option String
  tier : Option Tier
  email : Option String
  age : Option Int64
  score : Option Binary64
  active : Option Bool
  created : Option Instant
  /-- Milliseconds since the start of 1970. -/
  expiresMs : Option Int64
  tags : List String
  deriving DecidableEq, Repr

mutual

/-- An account. -/
inductive Account where
  | mk (profile : Profile) (parent mentor : Option Account) (team : Option Team)

/-- A team of accounts. Roles are in ascending order. -/
inductive Team where
  | mk (name code : Option String) (owner : Option Account) (members : List Account)
      (byRole : List (String × List Account))

end

/-- The identity of accounts. -/
def accountType : TypeKey := ⟨"Account", "Account"⟩

/-- The identity of teams. -/
def teamType : TypeKey := ⟨"Team", "Team"⟩

/-! ## What their fields read as -/

/-- A value that may be missing. -/
def Value.ofOption (leaf : α → Value) : Option α → Value
  | some x => leaf x
  | none => .null

namespace Profile

/-- What the fields of an account read as that hold no object. -/
def readings (p : Profile) : List (String × Reading) :=
  [("name", .value (.ofOption .str p.name)),
    ("role", .value (.ofOption .str p.role)),
    ("tier", .value (.ofOption (fun t => .str t.text) p.tier)),
    ("email", .value (.ofOption .str p.email)),
    ("age", .value (.ofOption .int p.age)),
    ("score", .value (.ofOption .float p.score)),
    ("active", .value (.ofOption .bool p.active)),
    ("created", .value (.ofOption .timestamp p.created)),
    ("expires_ms", .value (.ofOption .int p.expiresMs)),
    ("tags", .value (.seq (p.tags.map .str)))]

end Profile

mutual

/-- An account as an object. -/
def Account.value : Account → Value
  | .mk profile parent mentor team =>
    .object accountType (profile.readings ++
      [("parent", .value (accountOrNull parent)),
        ("mentor", .value (accountOrNull mentor)),
        ("team", .value (teamOrNull team))])

/-- A team as an object. -/
def Team.value : Team → Value
  | .mk name code owner members byRole =>
    .object teamType
      [("name", .value (.ofOption .str name)),
        ("code", .value (.ofOption .str code)),
        ("owner", .value (accountOrNull owner)),
        ("members", .value (.seq (accountValues members))),
        ("by_role", .value (.seq (roleValues byRole)))]

/-- An account that may be missing. -/
def accountOrNull : Option Account → Value
  | some a => a.value
  | none => .null

/-- A team that may be missing. -/
def teamOrNull : Option Team → Value
  | some t => t.value
  | none => .null

/-- Accounts as objects. -/
def accountValues : List Account → List Value
  | [] => []
  | a :: rest => a.value :: accountValues rest

/-- The accounts of each role as a sequence. -/
def roleValues : List (String × List Account) → List Value
  | [] => []
  | (_, accounts) :: rest => .seq (accountValues accounts) :: roleValues rest

end

/-! ## What they declare -/

/-- A leaf without rules. -/
def leafField (name : String) : Field :=
  ⟨name, .leaf, [], false⟩

/-- The fields of an account. -/
def accountSchema : Schema :=
  ⟨["name", "role", "tier", "email", "age", "score", "active", "created", "expires_ms"].map
      leafField ++
    [⟨"tags", .container .sequence .leaf, [], true⟩,
      ⟨"parent", .nested accountType, [], true⟩,
      ⟨"mentor", .nested accountType, [], false⟩,
      ⟨"team", .nested teamType, [], true⟩]⟩

/-- The fields of a team. -/
def teamSchema : Schema :=
  ⟨["name", "code"].map leafField ++
    [⟨"owner", .nested accountType, [], true⟩,
      ⟨"members", .container .sequence (.nested accountType), [], true⟩,
      ⟨"by_role", .container .mapValues (.container .sequence (.nested accountType)), [], true⟩]⟩

/-- The schemas of accounts and teams. -/
def sampleSchemas : Schemas :=
  ⟨[(accountType, accountSchema), (teamType, teamSchema)]⟩

/-! ## Reading -/

/-- The names of the fields of an account, in order. -/
def Account.fieldNames : List String :=
  ["name", "role", "tier", "email", "age", "score", "active", "created", "expires_ms", "tags",
    "parent", "mentor", "team"]

/-- The names of the fields of a team, in order. -/
def Team.fieldNames : List String :=
  ["name", "code", "owner", "members", "by_role"]

/-- Reads the fields of an account that hold no object. -/
def Profile.ofFields? (d : Dialect) {n : Node} (fields : Fields n) : Option Profile := do
  return {
    name := ← fields.scalar? "name" Atom.text?
    role := ← fields.scalar? "role" Atom.text?
    tier := ← fields.optional? "tier" fun v => do Tier.ofText? (← v.1.word? d)
    email := ← fields.scalar? "email" Atom.text?
    age := ← fields.scalar? "age" Atom.int?
    score := ← fields.scalar? "score" Atom.float?
    active := ← fields.scalar? "active" Atom.bool?
    created := ← fields.optional? "created" fun v => do readZoned? (← v.1.text?).toList
    expiresMs := ← fields.scalar? "expires_ms" Atom.int?
    tags := ← fields.getOr? "tags" [] fun v => v.1.list? fun item => item.1.text?
  }

mutual

/-- Reads an account. -/
def Account.ofNode? (d : Dialect) (n : Node) : Option Account := do
  let fields ← n.fields? d Account.fieldNames
  let profile ← Profile.ofFields? d fields
  let parent ← fields.optional? "parent" fun v => Account.ofNode? d v.1
  let mentor ← fields.optional? "mentor" fun v => Account.ofNode? d v.1
  let team ← fields.optional? "team" fun v => Team.ofNode? d v.1
  return .mk profile parent mentor team
termination_by sizeOf n
decreasing_by all_goals exact v.2

/-- Reads a team. -/
def Team.ofNode? (d : Dialect) (n : Node) : Option Team := do
  let fields ← n.fields? d Team.fieldNames
  let name ← fields.scalar? "name" Atom.text?
  let code ← fields.scalar? "code" Atom.text?
  let owner ← fields.optional? "owner" fun v => Account.ofNode? d v.1
  let members ← fields.getOr? "members" [] fun v => v.1.list? fun item => Account.ofNode? d item.1
  let byRole ← fields.getOr? "by_role" .empty fun v =>
    v.1.dictionary? fun role => role.1.list? fun item => Account.ofNode? d item.1
  return .mk name code owner members byRole.entries
termination_by sizeOf n
decreasing_by
  · exact v.2
  · exact Nat.lt_trans item.2 v.2
  · exact Nat.lt_trans item.2 (Nat.lt_trans role.2 v.2)

end

end FieldRules
