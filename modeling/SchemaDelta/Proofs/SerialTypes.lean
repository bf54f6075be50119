import SchemaDelta.Proofs.Differences
import SchemaDelta.Proofs.Owners

/-!
# Types of serial columns

In Postgres one more rule judges columns. Left out of the rulebook, it takes nothing from what
the others decide: a kind's own rule consults no more of the linked objects than whether they are
the same, and the rule that is left out has no say in that. So the differences of two columns are
those that are found without the rule, with the type withdrawn when both columns count on their
own and their types have one name, or a serial and its integer name.

## Main definitions

* `Rulebook.unrefined` — the built-in rules without the one for columns in Postgres.
* `Column.SerialAlike` — columns whose types are no difference in Postgres.
-/

namespace SchemaDelta

variable {d : Dialect} {p : Policy} {a b : Object} {x y : Column}

/-! ## Types -/

namespace Column

/-- Both columns count on their own, and case aside their types have one name, or a serial name
and that of the integers it stands for, on either side. Parameters do not count. -/
def SerialAlike (x y : Column) : Prop :=
  x.autoIncrement.isSome ∧ y.autoIncrement.isSome ∧
    ∃ t u, x.dataType = some t ∧ y.dataType = some u ∧
      (Text.lower t.name = Text.lower u.name ∨
        (Text.lower t.name, Text.lower u.name) ∈ Rule.Column.serialTypes ∨
        (Text.lower u.name, Text.lower t.name) ∈ Rule.Column.serialTypes)

theorem serialColumns_iff : Rule.Column.serialColumns x y = true ↔ x.SerialAlike y := by
  unfold Rule.Column.serialColumns SerialAlike Column.countsOnItsOwn
  cases x.dataType <;> cases y.dataType <;>
    simp [Rule.Column.interchangeable, and_assoc, or_assoc]

instance (x y : Column) : Decidable (x.SerialAlike y) := decidable_of_iff _ serialColumns_iff

end Column

/-! ## Rules that consult linked objects -/

section

variable {s t : Scope} (hd : t.dialect = s.dialect) (hp : t.policy = s.policy)
  (hl : t.linked.same = s.linked.same)
include hd hp hl

theorem Rule.Generic.differences_congr (exclude : List Field) :
    Rule.Generic.differences t a b exclude = Rule.Generic.differences s a b exclude := by
  simp only [Rule.Generic.differences, Rule.Generic.criterion, hd, hp, hl]

omit hd hp in
theorem Rule.ColumnGroup.columnsSame_congr (as bs : List Column) :
    columnsSame t as bs = columnsSame s as bs := by
  induction as generalizing bs with
  | nil => rfl
  | cons a as ih =>
    cases bs with
    | nil => rfl
    | cons b bs => rw [columnsSame, columnsSame, hl, ih]

/-- To tell objects apart, a kind's own rule needs no more of a scope than the dialect, the policy
and which linked objects are the same. -/
theorem Rulebook.ownRule_same_congr (k : Kind) (a b : Object) :
    (ownRule k).same t a b = (ownRule k).same s a b := by
  cases k <;>
    simp only [ownRule, Rule.catalog, Rule.Catalog.same, Rule.schema, Rule.Schema.same, Rule.table,
      Rule.Table.same, Rule.column, Rule.Column.same, Rule.index, Rule.Index.same,
      Rule.primaryKey, Rule.PrimaryKey.same, Rule.foreignKey, Rule.ForeignKey.same,
      Rule.ForeignKey.sameByLink, Rule.ForeignKey.sameByName, Rule.uniqueConstraint,
      Rule.UniqueConstraint.same, Rule.ColumnGroup.same, Rule.ColumnGroup.inOtherSchema,
      Rule.ColumnGroup.sameOnTable, Rule.ColumnGroup.sameByName,
      Rule.ColumnGroup.columnsSame_congr hl, hd, hp, hl]

end

namespace Rulebook

/-! ## The rulebook without the rule -/

/-- The built-in rules, but for the one that refines the differences of columns in Postgres. -/
def unrefined (d : Dialect) : Rulebook :=
  ofRules (builtinRules.filter fun r => r.name != Rule.PostgresColumn.ruleName) d

theorem rules_unrefined (d : Dialect) (k : Kind) :
    (unrefined d).rules k = [ownRule k, Rule.generic] := by
  cases k <;> rfl

/-- What a kind's own rule can consult when the rule is left out. -/
def unrefinedScope (d : Dialect) (p : Policy) (n : Nat) : Scope :=
  ⟨d, p, (unrefined d).judgeAt d p n, chain d p ((unrefined d).judgeAt d p n) [Rule.generic]⟩

/-- What refines a rule has no say in identity, nor has leaving it out. -/
theorem same_judgeAt_unrefined (n : Nat) :
    ((unrefined d).judgeAt d p n).same = ((builtin d).judgeAt d p n).same := by
  induction n with
  | zero => rfl
  | succ n ih =>
    have own (k : Kind) : (ownRule k).same (unrefinedScope d p n) =
        (ownRule k).same (scopeAt d p n) := by
      funext a b
      exact ownRule_same_congr (s := scopeAt d p n) (t := unrefinedScope d p n) rfl rfl ih k a b
    funext a b
    cases h : a.or b with
    | none => simp only [judgeAt, h]
    | some o =>
      rw [same_judgeAt_succ h, ← own]
      simp only [judgeAt, h, rules_unrefined]
      rfl

theorem rest_differences_unrefined (n : Nat) (a b : Object) (exclude : List Field) :
    (unrefinedScope d p n).rest.differences (some a) (some b) exclude =
      (scopeAt d p n).rest.differences (some a) (some b) exclude :=
  Rule.Generic.differences_congr (s := ⟨d, p, (builtin d).judgeAt d p n, _⟩)
    (t := ⟨d, p, (unrefined d).judgeAt d p n, _⟩) rfl rfl (same_judgeAt_unrefined n) exclude

/-- Without the rule the judge finds what a column's own rule finds among all rules. -/
theorem differences_judgeAt_unrefined (n : Nat) (x y : Column) (exclude : List Field) :
    ((unrefined d).judgeAt d p (n + 1)).differences (some (.column x)) (some (.column y)) exclude =
      (ownRule .column).differences (scopeAt d p n) (.column x) (.column y) exclude := by
  have own : (ownRule .column).differences (unrefinedScope d p n) (.column x) (.column y) exclude =
      (ownRule .column).differences (scopeAt d p n) (.column x) (.column y) exclude := by
    simp only [ownRule, Rule.column, Rule.Column.differences, rest_differences_unrefined]
    rfl
  have asked : ((unrefined d).judgeAt d p (n + 1)).differences (some (.column x)) (some (.column y))
      exclude = (chain d p ((unrefined d).judgeAt d p n)
        ((unrefined d).rules .column)).differences (some (.column x)) (some (.column y)) exclude := by
    simp only [judgeAt]
    rfl
  rw [asked, rules_unrefined, Differences.chain_differences]
  exact own

end Rulebook

open Rulebook

/-- In Postgres the differences of two columns are those that the rulebook without the rule for
columns in Postgres finds, and fail as they do; only the type is withdrawn, and it is so exactly
between columns whose types are serially alike. -/
theorem differences_eq_unrefined (hd : d.family = .postgres) (x y : Column) (exclude : List Field) :
    let refined := ((builtin d).judge d p).differences (some (.column x)) (some (.column y)) exclude
    let plain := ((unrefined d).judge d p).differences (some (.column x)) (some (.column y)) exclude
    (x.SerialAlike y → refined = plain.map (·.withdraw .type)) ∧
      (¬x.SerialAlike y → refined = plain) := by
  intro refined plain
  have both : refined = plain.map fun l =>
      if Rule.Column.serialColumns x y then l.withdraw .type else l := by
    simp only [refined, plain]
    rw [Differences.judge_differences_column hd, judge, differences_judgeAt_unrefined]
    rfl
  constructor
  · intro serial
    simp only [both, Column.serialColumns_iff.2 serial, if_true]
  · intro apart
    rw [both]
    simp only [mt Column.serialColumns_iff.1 apart]
    exact id_map plain

/-- A column `id` of some type that counts on its own. -/
def countingAs (origin : Nat) (type : DataType) : Column :=
  { namedColumn origin "id" with dataType := some type, autoIncrement := some ⟨none, none⟩ }

/-- A serial column that became one of integers differs in what is said of it, not in its type. -/
theorem differences_eq_unrefined_bigserial :
    let x := countingAs 0 (.bare "bigserial")
    let y := { countingAs 1 (.bare "INT8") with remarks := some "surrogate key" }
    let refined := ((builtin .postgres).judge .postgres .standard).differences (some (.column x))
      (some (.column y)) []
    let plain := ((unrefined .postgres).judge .postgres .standard).differences (some (.column x))
      (some (.column y)) []
    x.SerialAlike y ∧ plain.map (·.fields) = .ok [.remarks, .type] ∧
      refined.map (·.fields) = .ok [.remarks] := by
  intro x y refined plain
  have serial : x.SerialAlike y := by decide +kernel
  have withdrawn : refined = plain.map (·.withdraw .type) :=
    (differences_eq_unrefined (d := .postgres) (p := .standard) rfl x y []).1 serial
  refine ⟨serial, by decide +kernel, ?_⟩
  rw [withdrawn]
  decide +kernel

/-- A change of the parameters of a type is withdrawn though the type is neither serial nor one of
integers. -/
theorem numeric_type_withdrawn :
    let x := countingAs 0 ⟨"numeric", some 10, none⟩
    let y := countingAs 1 ⟨"numeric", some 12, none⟩
    (((unrefined .postgres).judge .postgres .standard).differences (some (.column x))
        (some (.column y)) []).map (·.fields) = .ok [.type] ∧
      (((builtin .postgres).judge .postgres .standard).differences (some (.column x))
        (some (.column y)) []).map (·.fields) = .ok [] ∧
      (Text.lower "numeric", Text.lower "numeric") ∉ Rule.Column.serialTypes := by
  decide +kernel

end SchemaDelta
