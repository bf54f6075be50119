import SchemaDelta.Proofs.MatchedColumns
import SchemaDelta.Proofs.Meeting

/-!
# Names of tables that are the same

The name of a table is folded in three ways. Tables are the same by their names in the dialect's
case, lowered where case does not count; the key of a table is its name as it is given, lowered;
and as an attribute the name is compared as it is given. The three tell the same names apart
unless the dialect's case is upper case and case does not count: there `ß` and `ss` are one name
with two keys, and a difference. So two tables that are the same have one key exactly when no
difference in name is found between them.

## Main definitions

* `FoldedApart` — names that are lowered to different texts.
-/

namespace SchemaDelta

variable {d : Dialect} {p : Policy} {x y : Table} {l : Ledger} {m n : Option String}

/-- Two names that are different in lower case. -/
def FoldedApart (m n : Option String) : Prop :=
  ∃ a ∈ m, ∃ b ∈ n, Text.lower a ≠ Text.lower b

/-! ## Names -/

/-- Names that agree are both there or both missing. -/
theorem namesAgree_iff :
    Criterion.namesAgree d m n = true ↔
      (m = none ∧ n = none) ∨ ∃ a ∈ m, ∃ b ∈ n, d.namesEqual a b = true := by
  cases m <;> cases n <;> simp [Criterion.namesAgree]

/-- Names that agree once they are corrected agree as they are unless they are folded apart. -/
theorem namesAgree_iff_of_corrected
    (same : Criterion.namesAgree d (m.map d.correctName) (n.map d.correctName) = true) :
    Criterion.namesAgree d m n = true ↔ ¬FoldedApart m n := by
  rcases namesAgree_iff.1 same with ⟨hm, hn⟩ | ⟨_, hm, _, hn, equal⟩
  · obtain rfl := Option.map_eq_none_iff.1 hm
    obtain rfl := Option.map_eq_none_iff.1 hn
    simp [Criterion.namesAgree, FoldedApart]
  · obtain ⟨a, rfl, rfl⟩ := Option.map_eq_some_iff.1 hm
    obtain ⟨b, rfl, rfl⟩ := Option.map_eq_some_iff.1 hn
    cases sensitive : d.caseSensitive with
    | true =>
      obtain rfl : a = b := by simpa [Dialect.namesEqual, Dialect.correctName, sensitive] using equal
      simp [Criterion.namesAgree, FoldedApart, Dialect.namesEqual, sensitive]
    | false =>
      simp [Criterion.namesAgree, FoldedApart, Dialect.namesEqual, sensitive, Text.sameIgnoringCase]

theorem nameKey_eq_iff_of_corrected
    (same : Criterion.namesAgree d (m.map d.correctName) (n.map d.correctName) = true) :
    Identity.nameKey m = Identity.nameKey n ↔ ¬FoldedApart m n := by
  rcases namesAgree_iff.1 same with ⟨hm, hn⟩ | ⟨_, hm, _, hn, -⟩
  · obtain rfl := Option.map_eq_none_iff.1 hm
    obtain rfl := Option.map_eq_none_iff.1 hn
    simp [FoldedApart]
  · obtain ⟨a, rfl, -⟩ := Option.map_eq_some_iff.1 hm
    obtain ⟨b, rfl, -⟩ := Option.map_eq_some_iff.1 hn
    simp [FoldedApart, Identity.nameKey]

/-- Names that agree once they are corrected are folded apart only in upper case, and beyond
ASCII. -/
theorem upper_of_foldedApart
    (same : Criterion.namesAgree d (m.map d.correctName) (n.map d.correctName) = true)
    (apart : FoldedApart m n) :
    d.caseSensitive = false ∧ d.nameCase = .upper ∧ ¬(AsciiName m ∧ AsciiName n) := by
  obtain ⟨a, rfl, b, rfl, apart⟩ := apart
  have equal : Text.lower (d.correctName a) = Text.lower (d.correctName b) :=
    Dialect.lower_eq_of_namesEqual same
  have case : ¬(d.caseSensitive = true ∨ d.nameCase ≠ .upper) := by
    intro h
    rw [Dialect.lower_correctName_of_case h, Dialect.lower_correctName_of_case h] at equal
    exact apart equal
  push Not at case
  refine ⟨Bool.eq_false_iff.2 case.1, case.2, ?_⟩
  rintro ⟨ha, hb⟩
  rw [Dialect.lower_correctName (ha a rfl), Dialect.lower_correctName (hb b rfl)] at equal
  exact apart equal

/-! ## Tables -/

namespace Differences

theorem agree?_tableName :
    Ledger.agree? (.table x) (.table y) .name
        (criterionOf d p (.table x) (.table y) .name) =
      .ok (Criterion.namesAgree d x.name y.name) := by
  have own : criterionOf d p (.table x) (.table y) .name = Criterion.byName .table d := rfl
  rw [own, Ledger.agree?, facing_of_closed rfl]
  change Criterion.onOptional _ (x.name.map .text) (y.name.map .text) = _
  cases x.name <;> cases y.name <;> rfl

end Differences

open Rulebook Differences

/-- Tables that are the same have one key unless their names are folded apart, and then, and only
then, is a difference in name found. Names are folded apart only where case does not count and the
dialect has names in upper case, and never as long as they are ASCII. -/
theorem keys_eq_iff_of_same_tables
    (same : ((builtin d).judge d p).same (some (.table x)) (some (.table y)) = .ok true) :
    let j := (builtin d).judge d p
    (j.keys (.table x) = j.keys (.table y) ↔ ¬FoldedApart x.name y.name) ∧
      (∀ l, j.differences (some (.table x)) (some (.table y)) [] = .ok l →
        (.name ∈ l.fields ↔
          p.isSuppressed .table .name = false ∧ FoldedApart x.name y.name)) ∧
      (FoldedApart x.name y.name →
        d.caseSensitive = false ∧ d.nameCase = .upper ∧
          ¬(AsciiName x.name ∧ AsciiName y.name)) := by
  intro j
  rw [judge_same, Except.ok.injEq] at same
  have tables : Identity.tables d p (some x) (some y) = true := by
    rw [Identity.tables, Identity.optional_some]
    simpa [Identity.same, Identity.alike] using same
  have names : Criterion.namesAgree d (x.name.map d.correctName) (y.name.map d.correctName) = true :=
    Identity.namesMatch_of_tables tables
  refine ⟨?_, ?_, upper_of_foldedApart names⟩
  · rw [judge_keys, judge_keys]
    simpa [Identity.keysOf] using nameKey_eq_iff_of_corrected names
  · intro l hl
    have reported : .name ∈ reportable d p (.table x) (.table y) := by
      simp [reportable, Object.kind, unreported, mem_fields_iff, Kind.fields]
    have differ := not_congr (namesAgree_iff_of_corrected names)
    rw [Bool.not_eq_true, not_not] at differ
    exact (mem_fields_iff_of_agree? (a := .table x) (b := .table y) rfl hl (by decide) reported
      agree?_tableName).trans (and_congr_right' differ)

/-- In upper case `Straße` and `STRASSE` are one name, so their keys are two. -/
theorem keys_eq_iff_of_same_tables_upper :
    let j := (builtin .oracle).judge .oracle .standard
    let x := namedTable 0 0 "Stra\u00dfe"
    let y := namedTable 1 0 "STRASSE"
    j.same (some (.table x)) (some (.table y)) = .ok true ∧
      j.keys (.table x) ≠ j.keys (.table y) := by
  intro j x y
  have same : j.same (some (.table x)) (some (.table y)) = .ok true := by
    rw [judge_same]
    decide +kernel
  have apart : FoldedApart x.name y.name := ⟨_, rfl, _, rfl, by decide +kernel⟩
  exact ⟨same, fun one => (keys_eq_iff_of_same_tables same).1.1 one apart⟩

/-- Tables that are the same are found under different keys, and differ in name. -/
theorem same_tables_folded_apart :
    let j := (builtin .generic).judge .generic .standard
    let x := namedTable 0 0 "stra\u00dfe"
    let y := namedTable 1 0 "strasse"
    j.same (some (.table x)) (some (.table y)) = .ok true ∧
      j.keys (.table x) = .ok (some ["stra\u00dfe"]) ∧
      j.keys (.table y) = .ok (some ["strasse"]) ∧
      (j.differences (some (.table x)) (some (.table y)) []).map (·.fields) = .ok [.name] := by
  intro j x y
  refine ⟨?_, ?_, ?_, by decide +kernel⟩
  · rw [judge_same]
    decide +kernel
  · rw [judge_keys]
    decide +kernel
  · rw [judge_keys]
    decide +kernel

end SchemaDelta
