import SchemaDelta.Policy

/-!
# Configuration

What a user configures: a dialect, by the name of a preset or in full, and what is
compared how. A configuration keeps names as written. Only when it is put to use are
they looked up, the dialect first, then the kinds in the order in which they stand.
-/

namespace SchemaDelta

namespace Config

/-- The configured dialect. -/
inductive DialectChoice where
  | preset (name : String)
  | custom (d : Dialect)
  deriving DecidableEq

/-- Two containers that stand for each other, as written. -/
structure AliasEntry where
  reference : String
  comparison : String
  deriving DecidableEq

end Config

open Config in
structure Config where
  dialect : DialectChoice := .preset "generic"
  /-- The names of the compared kinds; none stands for all. -/
  kinds : List String := []
  /-- Names of fields that are not reported, by the name of a kind. -/
  suppressed : List (String × List String) := []
  sorted : Keyed.Sorted suppressed := by exact .nil
  aliases : List AliasEntry := []
  includeCatalog : Bool := false
  columnOrder : Bool := false
  deriving DecidableEq

namespace Config

/-- A name that means nothing. -/
inductive UnknownName where
  | dialect (name : String)
  | kind (name : String)
  deriving DecidableEq

def UnknownName.message : UnknownName → String
  | dialect name => s!"Unknown dialect '{name}'"
  | kind name => s!"Unknown object kind '{name}'"

/-- The dialect that is configured. -/
def dialect? (c : Config) : Except UnknownName Dialect :=
  match c.dialect with
  | .custom d => .ok d
  | .preset name =>
    match Dialect.preset? name with
    | some d => .ok d
    | none => .error (.dialect name)

def kind? (name : String) : Except UnknownName Kind :=
  match Kind.parse? name with
  | some k => .ok k
  | none => .error (.kind name)

/-- The suppressed fields of the kind that a name means. -/
def suppressedOf (entry : String × List String) : Except UnknownName (List (Kind × Field)) := do
  let k ← kind? entry.1
  return entry.2.map fun f => (k, .ofText f)

def AliasEntry.alias (e : AliasEntry) : Alias := ⟨.parse e.reference, .parse e.comparison⟩

/-- The policy that is configured. -/
def policy? (c : Config) : Except UnknownName Policy := do
  let kinds ← c.kinds.mapM kind?
  let suppressed ← c.suppressed.mapM suppressedOf
  return { kinds := if c.kinds.isEmpty then Kind.ranked else Policy.kindSet kinds
           suppressed := suppressed.flatten
           aliases := c.aliases.map AliasEntry.alias
           includeCatalog := c.includeCatalog
           columnOrder := c.columnOrder }

end Config

end SchemaDelta
