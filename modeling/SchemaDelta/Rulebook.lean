import SchemaDelta.Rule.Catalog
import SchemaDelta.Rule.Column
import SchemaDelta.Rule.ForeignKey
import SchemaDelta.Rule.Generic
import SchemaDelta.Rule.Index
import SchemaDelta.Rule.PrimaryKey
import SchemaDelta.Rule.Schema
import SchemaDelta.Rule.Table

/-!
# Rulebooks

A rulebook lists the rules that apply to each kind, the most specific first and rules
of one priority in the order in which they were given. With a dialect and a policy it
makes a judge.

Which object something is depends on linked objects of lower levels only, so a judge
of depth `n` decides it for all kinds of levels below `n`, and one more level serves
the differences, which may compare linked objects of any kind.
-/

namespace SchemaDelta

structure Rulebook where
  rules : Kind → List Rule

namespace Rulebook

/-- The rulebook of some rules in a dialect. -/
def ofRules (rules : List Rule) (d : Dialect) : Rulebook :=
  ⟨fun k => [Priority.database, .type, .default].flatMap fun p =>
    rules.filter fun r => r.priority k d == p⟩

/-- The rules that come with the library. -/
def builtinRules : List Rule :=
  [Rule.generic, Rule.catalog, Rule.schema, Rule.table, Rule.column, Rule.postgresColumn,
   Rule.index, Rule.primaryKey, Rule.foreignKey, Rule.uniqueConstraint]

def builtin (d : Dialect) : Rulebook := ofRules builtinRules d

/-- The judge whose answers consult linked objects up to a depth. -/
def judgeAt (book : Rulebook) (d : Dialect) (p : Policy) : Nat → Judge
  | 0 => chain d p ⟨fun _ _ => .ok true, fun _ => .ok none, fun _ _ _ => .ok .empty⟩ []
  | n + 1 =>
    let linked := judgeAt book d p n
    let forKind (k : Kind) : Judge := chain d p linked (book.rules k)
    { same := fun a b =>
        match a.or b with
        | none => .ok true
        | some o => (forKind o.kind).same a b
      keys := fun o => (forKind o.kind).keys o
      differences := fun a b exclude =>
        match a.or b with
        | none => .ok .empty
        | some o => (forKind o.kind).differences a b exclude }

/-- The depth at which every object is known among all others. -/
def identityDepth : Nat := 5

/-- The judge of objects that others are linked to. -/
def linkedJudge (book : Rulebook) (d : Dialect) (p : Policy) : Judge :=
  book.judgeAt d p identityDepth

/-- The judge that the rules make. -/
def judge (book : Rulebook) (d : Dialect) (p : Policy) : Judge :=
  book.judgeAt d p (identityDepth + 1)

/-- The chain of a kind. -/
def chainFor (book : Rulebook) (d : Dialect) (p : Policy) (k : Kind) : Judge :=
  chain d p (book.linkedJudge d p) (book.rules k)

/-- The rules of every kind, as they are shown to developers. -/
def debugText (book : Rulebook) : String :=
  let shown (k : Kind) : String := match k with
    | .catalog => "Catalog"
    | .schema => "Schema"
    | .table => "Table"
    | .column => "Column"
    | .index => "Index"
    | .primaryKey => "PrimaryKey"
    | .foreignKey => "ForeignKey"
    | .uniqueConstraint => "UniqueConstraint"
  let quoted (r : Rule) : String := "\"" ++ r.name ++ "\""
  let entry (k : Kind) : String :=
    shown k ++ ": [" ++ ", ".intercalate ((book.rules k).map quoted) ++ "]"
  "\x7b" ++ ", ".intercalate (Kind.all.map entry) ++ "\x7d"

end Rulebook

end SchemaDelta
