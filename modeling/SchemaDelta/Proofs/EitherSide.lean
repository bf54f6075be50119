import SchemaDelta.Proofs.Exchange
import SchemaDelta.Proofs.Owners
import SchemaDelta.Proofs.Totality

/-!
# Differences from either side

Two objects are compared field by field, and what is found from one side is found from the other,
with values exchanged, when it is so for each field that counts. The reference chooses the criterion
as long as it has a value, so of two forms each is compared by its own: a text differs from a data
type, but a data type cannot even be compared with a text, and an object goes by its name where a
text takes it for something else. Values of two forms meet in custom attributes and default values
only.
-/

namespace SchemaDelta

variable {d : Dialect} {p : Policy} {a b : Object} {f : Field} {l : Ledger}

namespace Differences

open Fallible

/-! ## Values of two forms -/

section

variable {v w : Value}

theorem facing_of_apart (ha : a.get? f = some v) (hb : b.get? f = some w)
    (form : v.form ≠ .content) (apart : ∀ item, w = .list [item] → item.sameType v = false) :
    Ledger.facing a b f = (some v, some w) := by
  have single : v.isList = false := by cases v <;> first | rfl | exact absurd rfl form
  have whole (item : Value) : ¬w.OnlyItem v item := by
    intro h
    exact Bool.false_ne_true ((apart item h.list).symm.trans h.sameType)
  rw [Ledger.facing_eq, ha, hb, unwrap_of_not_onlyItem whole, unwrap_of_not_isList single]

/-- Where values are left open, a criterion follows from them. -/
theorem criterionOf_of_isOpen (left : f.isOpen = true) :
    criterionOf d p a b f = byValues d p (a.get? f) (b.get? f) := by
  have generic : (ownCriteria d p a.kind).lookup f = none := by
    by_contra own
    obtain ⟨test, own⟩ := Option.ne_none_iff_exists'.1 own
    rw [closed_of_ownCriteria (mem_of_lookup_ownCriteria own)] at left
    cases left
  rw [criterionOf, generic, Option.getD_none]

/-- A criterion that is not chosen by a data type decides. -/
theorem exists_agree?_byValues {c : Option Value} (h : v.form ≠ .dataType) :
    ∃ agree, Ledger.agree? a b f (byValues d p (some v) c) = .ok agree := by
  cases v with
  | dataType => exact absurd rfl h
  | object => exact exists_onOptional exists_byName _ _
  | autoIncrement => exact exists_onOptional (fun _ _ => ⟨_, rfl⟩) _ _
  | _ => exact exists_onOptional exists_plain _ _

/-- A data type cannot be compared with another value, but that value with a data type. -/
theorem not_evenHanded_dataType {t : DataType} (left : f.isOpen = true)
    (ha : a.get? f = some (.dataType t)) (hb : b.get? f = some w) (form : w.form ≠ .dataType)
    (apart : ∀ item, w = .list [item] → item.sameType (.dataType t) = false) :
    ¬EvenHanded d p a b f := by
  have typed : (Value.dataType t).form ≠ .content := by rintro ⟨⟩
  have fails : Ledger.agree? a b f (criterionOf d p a b f) =
      .error (.mismatch "dataType" w.typeName) := by
    rw [criterionOf_of_isOpen left, Ledger.agree?, facing_of_apart ha hb typed apart, ha, hb]
    cases w <;> first | exact absurd rfl form | rfl
  have decides : ∃ agree, Ledger.agree? b a f (criterionOf d p b a f) = .ok agree := by
    rw [criterionOf_of_isOpen left, hb]
    exact exists_agree?_byValues form
  obtain ⟨agree, decides⟩ := decides
  rw [EvenHanded, fails, decides]
  rintro ⟨⟩

/-- Content does not agree with a value of another form, which may agree with it. -/
theorem evenHanded_content_iff (left : f.isOpen = true) (ha : a.get? f = some v)
    (hb : b.get? f = some w) (form : v.form ≠ .content) (content : w.form = .content)
    (apart : ∀ item, w = .list [item] → item.sameType v = false) :
    EvenHanded d p a b f ↔ byValues d p (some v) (some w) v w = .ok false := by
  have differs : Ledger.agree? b a f (criterionOf d p b a f) = .ok false := by
    rw [criterionOf_of_isOpen left, Ledger.agree?, Ledger.facing_comm,
      facing_of_apart ha hb form apart, ha, hb, byValues_of_content content]
    cases w <;> cases content <;> cases v <;> first | rfl | exact absurd rfl form
  rw [EvenHanded, differs, criterionOf_of_isOpen left, Ledger.agree?,
    facing_of_apart ha hb form apart, ha, hb, eq_comm]
  rfl

end

/-! ## From a field to the ledger -/

/-- What is taken out of a ledger in the end is seen alike from both sides. -/
theorem evenHanded_of_mem_withdrawn (hkind : a.kind = b.kind) (h : f ∈ withdrawn d a b) :
    EvenHanded d p a b f := by
  have declared : f = .defaultTablespace ∨ f = .tablespace ∨ f = .type := by
    unfold withdrawn at h
    split at h <;> grind
  rcases declared with rfl | rfl | rfl <;> exact evenHanded_of_closed hkind rfl nofun

theorem withdrawn_comm (hkind : a.kind = b.kind) : withdrawn d b a = withdrawn d a b := by
  cases a <;> cases b <;> cases hkind <;> try rfl
  next x y => simp only [withdrawn, Bool.and_comm]
  next x y => simp only [withdrawn, serialColumns_comm x y]

theorem mem_reportable_iff_mem_map (hkind : a.kind = b.kind) :
    f ∈ reportable d p a b ↔ f ∈ (tests d p a b).map (·.1) ∧ f ∉ withdrawn d a b := by
  simp [mem_reportable hkind]

theorem mem_reportable_comm (hkind : a.kind = b.kind) :
    f ∈ reportable d p b a ↔ f ∈ reportable d p a b := by
  rw [mem_reportable_iff_mem_map hkind, mem_reportable_iff_mem_map hkind.symm,
    map_fst_tests_comm hkind, withdrawn_comm hkind]

/-- Where differences are found, each field that counts has been decided on. -/
theorem exists_agree?_of_differences (hkind : a.kind = b.kind)
    (h : ((Rulebook.builtin d).judge d p).differences (some a) (some b) [] = .ok l)
    (reported : f ∈ reportable d p a b) (counts : p.isSuppressed a.kind f = false) :
    ∃ agree, Ledger.agree? a b f (criterionOf d p a b f) = .ok agree := by
  rw [differences_eq hkind] at h
  obtain ⟨m, hm, -⟩ := map_eq_ok.1 h
  obtain ⟨⟨test, tested⟩, -⟩ := (mem_reportable hkind).1 reported
  rw [← agree?_of_mem_tests tested]
  refine Ledger.agree?_of_compareAll hm tested ?_
  rw [Ledger.new, mem_suppressedFields, counts]
  exact Bool.false_ne_true

/-- Where both sides succeed with one ledger, the same is said of each field that counts. -/
theorem evenHanded_of_differences (hkind : a.kind = b.kind)
    (h : ((Rulebook.builtin d).judge d p).differences (some a) (some b) [] = .ok l)
    (h' : ((Rulebook.builtin d).judge d p).differences (some b) (some a) [] = .ok l.exchanged)
    (reported : f ∈ reportable d p a b) (counts : p.isSuppressed a.kind f = false) :
    EvenHanded d p a b f := by
  by_cases hf : f = .autoIncrement
  · subst hf
    exact evenHanded_of_closed hkind rfl nofun
  have reported' := (mem_reportable_comm hkind).2 reported
  have differ := (mem_fields_iff_differ hkind h hf reported).symm
  have differ' := (mem_fields_iff_differ hkind.symm h' hf reported').symm
  rw [Ledger.fields_exchanged, ← hkind, ← differ] at differ'
  simp only [counts, true_and, Ledger.Differ] at differ'
  obtain ⟨agree, hagree⟩ := exists_agree?_of_differences hkind h reported counts
  obtain ⟨agree', hagree'⟩ := exists_agree?_of_differences hkind.symm h' reported' (hkind ▸ counts)
  rw [hagree, hagree', Except.ok.injEq, Except.ok.injEq] at differ'
  rw [EvenHanded, hagree, hagree', Except.ok.injEq]
  exact Bool.eq_iff_iff.2 (by simpa using not_congr differ')

end Differences

open Differences

/-- What is found from one side is found from the other, with values exchanged, exactly when
neither side finds anything at all, or the same is said of each field that counts. It is said
of values of one form, with objects that are the same from either side. It is not where a data
type faces a value of another form; and where an object, or how a column counts, faces content,
only if they do not agree. -/
theorem differences_comm_iff (hkind : a.kind = b.kind) :
    let found (x y : Object) := ((Rulebook.builtin d).judge d p).differences (some x) (some y) []
    ((∀ l, found a b = .ok l ↔ found b a = .ok l.exchanged) ↔
      ((∀ l, found a b ≠ .ok l) ∧ ∀ l, found b a ≠ .ok l) ∨
        ∀ f ∈ reportable d p a b, p.isSuppressed a.kind f = false → EvenHanded d p a b f) ∧
    (∀ f, EvenlyFilled d p a b f → EvenHanded d p a b f) ∧
    ∀ f v w, f.isOpen = true → a.get? f = some v → b.get? f = some w →
      (∀ item, w = .list [item] → item.sameType v = false) →
      (v.form = .dataType → w.form ≠ .dataType → ¬EvenHanded d p a b f) ∧
      (v.form ≠ .content → w.form = .content →
        (EvenHanded d p a b f ↔ byValues d p (some v) (some w) v w = .ok false)) := by
  intro found
  refine ⟨⟨?_, ?_⟩, fun f => evenHanded_of_evenlyFilled hkind, ?_⟩
  · intro exchanges
    by_cases succeeds : ∃ l, found a b = .ok l
    · obtain ⟨l, hl⟩ := succeeds
      exact .inr fun f => evenHanded_of_differences hkind hl ((exchanges l).1 hl)
    · rw [not_exists] at succeeds
      refine .inl ⟨succeeds, fun l hl => succeeds l.exchanged ?_⟩
      rwa [exchanges, Ledger.exchanged_exchanged]
  · rintro (⟨fails, fails'⟩ | even) l
    · exact iff_of_false (fails l) (fails' l.exchanged)
    · have seen : found b a = (found a b).map Ledger.exchanged := by
        refine differences_exchanged_of_evenHanded hkind fun f tested counts => ?_
        by_cases out : f ∈ withdrawn d a b
        · exact evenHanded_of_mem_withdrawn hkind out
        · exact even f ((mem_reportable_iff_mem_map hkind).2 ⟨tested, out⟩) counts
      rw [seen, Fallible.map_eq_ok]
      constructor
      · exact fun hl => ⟨l, hl, rfl⟩
      · rintro ⟨m, hm, same⟩
        rwa [← Ledger.exchanged_exchanged l, ← same, Ledger.exchanged_exchanged]
  · intro f v w left ha hb apart
    refine ⟨fun typed form => ?_, fun form content =>
      evenHanded_content_iff left ha hb form content apart⟩
    cases v <;> cases typed
    exact not_evenHanded_dataType left ha hb form apart

/-- A table `orders` with custom attributes. -/
def filledTable (origin : Nat) (attributes : Attributes) : Object :=
  .table { namedTable origin 0 "orders" with attributes }

/-- Data types face data types and a text faces the list of one, and what is found is found from
either side. A data type that faces a text is another matter. -/
theorem differences_comm_iff_ofOneForm :
    let found (x y : Object) :=
      ((Rulebook.builtin .postgres).judge .postgres .standard).differences (some x) (some y) []
    let a := filledTable 0 [("label", .list [.text "hot"]), ("payload", .dataType (.bare "jsonb"))]
    let b := filledTable 1 [("label", .text "cold"), ("payload", .dataType (.bare "bytea"))]
    let c := filledTable 2 [("payload", .text "jsonb")]
    (∀ l, found a b = .ok l ↔ found b a = .ok l.exchanged) ∧
      ¬EvenHanded .postgres .standard a c (.custom "payload") := by
  intro found a b c
  have facing := differences_comm_iff (d := .postgres) (p := .standard) (a := a) (b := b) rfl
  have mixed := differences_comm_iff (d := .postgres) (p := .standard) (a := a) (b := c) rfl
  exact ⟨facing.1.2 (.inr (by decide +kernel)),
    (mixed.2.2 _ (.dataType (.bare "jsonb")) (.text "jsonb") rfl rfl rfl nofun).1 rfl nofun⟩

/-- A text is found to differ from a data type and from a table of its name. The data type cannot
be compared with it, and the table is not found to differ. -/
theorem text_found_one_way :
    let found (x y : Object) :=
      (((Rulebook.builtin .postgres).judge .postgres .standard).differences (some x) (some y)
        []).map (·.fields)
    let a := filledTable 0 [("payload", .text "jsonb")]
    let b := filledTable 1 [("payload", .dataType (.bare "jsonb"))]
    let c := filledTable 1 [("payload", .object (.table (namedTable 1 1 "jsonb")))]
    found a b = .ok [.custom "payload"] ∧
      found b a = .error (.attributeType (.custom "payload") "dataType" "text") ∧
      found a c = .ok [.custom "payload"] ∧ found c a = .ok [] := by
  decide +kernel

end SchemaDelta
