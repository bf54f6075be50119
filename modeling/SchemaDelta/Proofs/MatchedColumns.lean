import SchemaDelta.Proofs.Alike
import SchemaDelta.Proofs.Criteria
import SchemaDelta.Proofs.Owners

/-!
# Columns that are the same

Columns are the same by their names, their tables, and their flags for expressions and descending
order. A flag that is unset counts as false there. As a value it is not false, and the ledger of
two columns tells the one from the other. Nothing else of what makes columns the same can be
found in the ledger of two columns that are.

## Main definitions

* `UnsetOnOneSide` — flags of which one is false and the other unset.
-/

namespace SchemaDelta

/-- One flag is false and the other is unset. -/
def UnsetOnOneSide (m n : Option Bool) : Prop :=
  m = none ∧ n = some false ∨ m = some false ∧ n = none

instance (m n : Option Bool) : Decidable (UnsetOnOneSide m n) :=
  inferInstanceAs (Decidable (_ ∨ _))

/-- Flags that count as the same are not the same when one of them is unset. -/
theorem ne_iff_unsetOnOneSide {m n : Option Bool} (h : m.getD false = n.getD false) :
    m ≠ n ↔ UnsetOnOneSide m n := by
  cases m <;> cases n <;> simp_all [UnsetOnOneSide]

/-- The fields that columns are the same by. -/
def Rule.Column.identifying : List Field := [.name, .relation, .computed, .descending]

variable {d : Dialect} {p : Policy} {x y : Column} {l : Ledger} {f : Field}

namespace Identity

/-- Columns that are the same are alike, be they one instance or two. -/
theorem columnsAlike_of_same (h : same d p (.column x) (.column y) = true) :
    columnsAlike d p x y = true := by
  rw [same, Bool.or_eq_true, decide_eq_true_iff] at h
  rcases h with one | alike
  · obtain rfl := Object.column.inj one
    simp [columnsAlike, tables_refl, Rule.namesMatch, Differences.namesAgree_self]
  · exact alike

theorem namesMatch_of_tables {t u : Table} (h : tables d p (some t) (some u) = true) :
    Rule.namesMatch d (.table t) (.table u) = true := by
  rw [tables, optional, Bool.or_eq_true, decide_eq_true_iff] at h
  rcases h with rfl | alike
  · exact Differences.namesAgree_self d _
  · rw [tablesAlike, Bool.and_eq_true] at alike
    exact alike.1

end Identity

namespace Differences

open Ledger

/-! ## The fields that tell columns apart -/

theorem agree?_name (h : Rule.namesMatch d (.column x) (.column y) = true) :
    agree? (.column x) (.column y) .name (criterionOf d p (.column x) (.column y) .name) =
      .ok true := by
  have own : criterionOf d p (.column x) (.column y) .name = Criterion.byName .column d := rfl
  rw [own, agree?, facing_of_closed rfl]
  change Criterion.onOptional _ (x.name.map .text) (y.name.map .text) = _
  change Criterion.namesAgree d (x.name.map d.correctName) (y.name.map d.correctName) = true at h
  cases hx : x.name <;> cases hy : y.name <;>
    simp_all [Criterion.onOptional, Criterion.byName, Criterion.shownName, Criterion.namesAgree,
      Value.display]

theorem agree?_relation (h : Identity.tables d p x.relation y.relation = true) :
    agree? (.column x) (.column y) .relation
      (criterionOf d p (.column x) (.column y) .relation) = .ok true := by
  rw [agree?, facing_of_closed rfl]
  change Criterion.onOptional (byValues d p (x.relation.map fun t => .object (.table t))
    (y.relation.map fun t => .object (.table t))) (x.relation.map fun t => .object (.table t))
    (y.relation.map fun t => .object (.table t)) = _
  cases hx : x.relation with
  | none =>
    cases hy : y.relation with
    | none => rfl
    | some u =>
      rw [hx, hy] at h
      cases h
  | some t =>
    cases hy : y.relation with
    | none =>
      rw [hx, hy] at h
      cases h
    | some u =>
      rw [hx, hy] at h
      exact congrArg Except.ok (Identity.namesMatch_of_tables h)

/-- Flags differ when they are not the same, unset ones included. -/
theorem differ_flag_iff {a b : Object} {m n : Option Bool} (closed : f.isOpen = false)
    (generic : (ownCriteria d p a.kind).lookup f = none) (ha : a.get? f = m.map .bool)
    (hb : b.get? f = n.map .bool) : Differ a b f (criterionOf d p a b f) ↔ m ≠ n := by
  rw [Differ, agree?, facing_of_closed closed, criterionOf, generic, ha, hb]
  cases m <;> cases n <;>
    simp [Criterion.onOptional, byValues, plain, Criterion.standard, sameContent]

theorem mem_reportable_of_identifying (h : f ∈ Rule.Column.identifying) :
    f ∈ reportable d p (.column x) (.column y) := by
  simp only [Rule.Column.identifying, List.mem_cons, List.not_mem_nil, or_false] at h
  simp only [reportable, Object.kind, List.mem_filter, List.mem_append, decide_eq_true_eq,
    mem_fields_iff, Kind.fields, unreported]
  rcases h with rfl | rfl | rfl | rfl <;> constructor <;> simp

end Differences

open Rulebook Differences

/-- Between columns that are the same no difference in name or table is found, and none in the
flags that make them the same, unless a flag is false on one side and unset on the other. -/
theorem mem_differences_of_same_columns
    (same : ((builtin d).judge d p).same (some (.column x)) (some (.column y)) = .ok true)
    (h : ((builtin d).judge d p).differences (some (.column x)) (some (.column y)) [] = .ok l) :
    .name ∉ l.fields ∧ .relation ∉ l.fields ∧
      (.computed ∈ l.fields ↔
        p.isSuppressed .column .computed = false ∧ UnsetOnOneSide x.computed y.computed) ∧
      (.descending ∈ l.fields ↔
        p.isSuppressed .column .descending = false ∧
          UnsetOnOneSide x.descending y.descending) := by
  rw [judge_same, Except.ok.injEq] at same
  have alike := Identity.columnsAlike_of_same same
  simp only [Identity.columnsAlike, Bool.and_eq_true, beq_iff_eq] at alike
  obtain ⟨⟨name, table⟩, computed, descending⟩ := alike
  have entered {f : Field} (hf : f ∈ Rule.Column.identifying) : f ≠ .autoIncrement := by
    rintro rfl
    simp [Rule.Column.identifying] at hf
  have found {f : Field} (hf : f ∈ Rule.Column.identifying) :
      f ∈ l.fields ↔ p.isSuppressed .column f = false ∧
        Ledger.Differ (.column x) (.column y) f (criterionOf d p (.column x) (.column y) f) :=
    mem_fields_iff_differ (a := .column x) (b := .column y) rfl h (entered hf)
      (mem_reportable_of_identifying hf)
  have agreed {f : Field} (hf : f ∈ Rule.Column.identifying)
      (agree : Ledger.agree? (.column x) (.column y) f
        (criterionOf d p (.column x) (.column y) f) = .ok true) : f ∉ l.fields := by
    have entry := mem_fields_iff_of_agree? (a := .column x) (b := .column y) rfl h (entered hf)
      (mem_reportable_of_identifying hf) agree
    simp [entry]
  refine ⟨agreed (by decide) (agree?_name name), agreed (by decide) (agree?_relation table), ?_, ?_⟩
  · rw [found (by decide), differ_flag_iff rfl rfl rfl rfl, ne_iff_unsetOnOneSide computed]
  · rw [found (by decide), differ_flag_iff rfl rfl rfl rfl, ne_iff_unsetOnOneSide descending]

/-- A column of some table, with a flag for expressions or none. -/
def flaggedColumn (origin : Nat) (table name : String) (computed : Option Bool) : Column :=
  { namedColumn origin name with relation := some (namedTable origin 0 table), computed }

/-- Case aside, the columns agree in all that they are the same by, and one has no flags. -/
theorem mem_differences_of_same_columns_unflagged :
    let j := (builtin .postgres).judge .postgres .standard
    let x := flaggedColumn 0 "Orders" "ID" none
    let y := flaggedColumn 1 "orders" "id" (some false)
    j.same (some (.column x)) (some (.column y)) = .ok true ∧
      ∃ l, j.differences (some (.column x)) (some (.column y)) [] = .ok l ∧
        .name ∉ l.fields ∧ .relation ∉ l.fields ∧ .computed ∈ l.fields ∧
          .descending ∉ l.fields := by
  intro j x y
  have same : j.same (some (.column x)) (some (.column y)) = .ok true := by
    rw [judge_same]
    decide +kernel
  obtain ⟨l, hl⟩ := Fallible.exists_eq_ok_of_isOk
    (x := j.differences (some (.column x)) (some (.column y)) []) (by decide +kernel)
  obtain ⟨name, relation, computed, descending⟩ := mem_differences_of_same_columns same hl
  refine ⟨same, l, hl, name, relation, ?_, ?_⟩
  · rw [computed]
    decide
  · rw [descending]
    decide

/-- Columns that are the same can differ in a flag that makes them the same. -/
theorem same_columns_differ_in_flag :
    let j := (builtin .postgres).judge .postgres .standard
    let x := namedColumn 0 "id"
    let y := { namedColumn 1 "id" with computed := some false }
    j.same (some (.column x)) (some (.column y)) = .ok true ∧
      (j.differences (some (.column x)) (some (.column y)) []).map (·.fields) =
        .ok [.computed] := by
  intro j x y
  constructor
  · rw [judge_same]
    decide +kernel
  · decide +kernel

end SchemaDelta
