import SchemaDelta.Proofs.Folding
import SchemaDelta.Proofs.Identity
import SchemaDelta.Proofs.Matching
import SchemaDelta.Proofs.Resolved

/-!
# Keys of what is the same

Identity and keys are told apart by different rules, and yet two objects of documents with
ASCII names that are the same have keys that meet: the names that identify an object agree
up to case, so do those of its table, and every object has its own name or that of its
table among its keys. Primary keys are the exception.
-/

namespace SchemaDelta

variable {d : Dialect} {p : Policy}

/-! ## Names -/

/-- Only ASCII characters occur in the name, if there is one. -/
def AsciiName (name : Option String) : Prop := ∀ n ∈ name, Text.Ascii n

instance (name : Option String) : Decidable (AsciiName name) :=
  inferInstanceAs (Decidable (∀ n ∈ name, Text.Ascii n))

namespace Dialect

theorem lower_eq_of_namesEqual {m n : String} (h : d.namesEqual m n) :
    Text.lower m = Text.lower n := by
  unfold namesEqual at h
  split at h
  · rw [eq_of_beq h]
  · exact eq_of_beq h

theorem lower_correctName {n : String} (h : Text.Ascii n) :
    Text.lower (d.correctName n) = Text.lower n := by
  unfold correctName
  split
  · rfl
  · cases d.nameCase with
    | asWritten => rfl
    | upper => exact Text.lower_upper h
    | lower => exact Text.lower_lower n

end Dialect

/-- ASCII names that agree are equal up to case. -/
theorem map_lower_eq_of_namesMatch {a b : Object} (h : Rule.namesMatch d a b)
    (ha : AsciiName a.name) (hb : AsciiName b.name) :
    a.name.map Text.lower = b.name.map Text.lower := by
  unfold Rule.namesMatch at h
  cases hm : a.name with
  | none => cases hn : b.name <;> simp_all [Criterion.namesAgree]
  | some m =>
    cases hn : b.name with
    | none => simp_all [Criterion.namesAgree]
    | some n =>
      rw [hm, hn] at h
      have agree := Dialect.lower_eq_of_namesEqual h
      rw [Dialect.lower_correctName (ha m hm), Dialect.lower_correctName (hb n hn)] at agree
      rw [Option.map_some, Option.map_some, agree]

namespace Identity

theorem nameKey_eq {m n : Option String} (h : m.map Text.lower = n.map Text.lower) :
    nameKey m = nameKey n := by
  cases m <;> cases n <;> simp_all [nameKey]

theorem optional_some {α : Type} [DecidableEq α] {alike : α → α → Bool} {a b : α} :
    optional alike (some a) (some b) = true ↔ a = b ∨ alike a b = true := by
  simp [optional]

/-- Tables that are the same have names that are equal up to case. -/
theorem map_lower_eq_of_tables {t u : Option Table} (h : tables d p t u)
    (ht : AsciiName (t.bind (·.name))) (hu : AsciiName (u.bind (·.name))) :
    (t.bind (·.name)).map Text.lower = (u.bind (·.name)).map Text.lower := by
  cases t with
  | none =>
    cases u with
    | none => rfl
    | some u => simp [tables, optional] at h
  | some t =>
    cases u with
    | none => simp [tables, optional] at h
    | some u =>
      rcases optional_some.1 h with rfl | h
      · rfl
      · exact map_lower_eq_of_namesMatch (Bool.and_eq_true_iff.1 h).1 ht hu

/-- A text made from a name, empty when there is none, varies in case only as the name does. -/
theorem sameAscii_map_getD {m n : Option String} (hm : AsciiName m) (hn : AsciiName n)
    (h : m.map Text.lower = n.map Text.lower) {f : String → String}
    (hf : ∀ {s t : String}, Text.SameAscii s t → Text.SameAscii (f s) (f t)) :
    Text.SameAscii ((m.map f).getD "") ((n.map f).getD "") := by
  cases m with
  | none =>
    cases n with
    | none =>
      change Text.SameAscii "" ""
      exact .refl (by decide)
    | some n => cases h
  | some m =>
    cases n with
    | none => cases h
    | some n => exact hf ⟨hm m rfl, hn n rfl, Option.some.inj h⟩

/-! ## Kind by kind -/

/-- The names that an object is found under are ASCII, and the table that a foreign key refers from
has one. -/
def WellNamed : Object → Prop
  | .table t => AsciiName t.name
  | .column c => AsciiName c.name ∧ AsciiName (c.relation.bind (·.name))
  | .index i => AsciiName i.name ∧ AsciiName (i.table.bind (·.name))
  | .foreignKey k =>
    AsciiName (k.foreignTable.bind (·.name)) ∧ ∀ t ∈ k.foreignTable, t.name.isSome
  | .uniqueConstraint u => AsciiName u.name ∧ AsciiName (u.table.bind (·.name))
  | _ => True

theorem meet_self (keys : Keys) : Buckets.Meet keys keys := by
  cases keys with
  | none => trivial
  | some ks =>
    cases ks with
    | nil => exact .inl rfl
    | cons k ks => exact Buckets.meet_of_mem List.mem_cons_self List.mem_cons_self

/-- Two objects that are each found under their tables meet when these are the same. -/
theorem meet_nameKey {t u : Table} {ks ls : List String} (h : tables d p (some t) (some u))
    (ht : AsciiName t.name) (hu : AsciiName u.name) (hks : nameKey t.name ∈ ks)
    (hls : nameKey u.name ∈ ls) : Buckets.Meet (some ks) (some ls) :=
  Buckets.meet_of_mem hks (nameKey_eq (map_lower_eq_of_tables h ht hu) ▸ hls)

theorem meet_of_tablesAlike {t u : Table} (h : tablesAlike d p t u) (ht : WellNamed (.table t))
    (hu : WellNamed (.table u)) : Buckets.Meet (keysOf (.table t)) (keysOf (.table u)) :=
  meet_nameKey (optional_some.2 (.inr h)) ht hu (List.mem_singleton.2 rfl)
    (List.mem_singleton.2 rfl)

/-- The key of a column as a text of its name, its table and its sort. -/
theorem column_key_eq (c : Column) :
    Rule.Column.key c = Text.lower (((c.name.map id).getD "") ++
      (((c.relation.bind (·.name)).map (":" ++ ·)).getD "") ++
      (if c.isComputed then ":computed" else "") ++
      (if c.isDescending then ":descending" else "")) := by
  unfold Rule.Column.key Column.plainName
  cases c.relation.bind (·.name) <;> simp

theorem meet_of_columnsAlike {a b : Column} (h : columnsAlike d p a b)
    (ha : WellNamed (.column a)) (hb : WellNamed (.column b)) :
    Buckets.Meet (keysOf (.column a)) (keysOf (.column b)) := by
  simp only [columnsAlike, Bool.and_eq_true, beq_iff_eq] at h
  obtain ⟨⟨names, relations⟩, computed, descending⟩ := h
  have name := sameAscii_map_getD ha.1 hb.1 (map_lower_eq_of_namesMatch names ha.1 hb.1)
    (f := id) id
  have owner := sameAscii_map_getD ha.2 hb.2 (map_lower_eq_of_tables relations ha.2 hb.2)
    (f := (":" ++ ·)) fun h => .append (.refl (by decide)) h
  have computed : Text.SameAscii (if a.isComputed then ":computed" else "")
      (if b.isComputed then ":computed" else "") := by
    rw [computed]
    exact .refl (by cases b.isComputed <;> decide)
  have descending : Text.SameAscii (if a.isDescending then ":descending" else "")
      (if b.isDescending then ":descending" else "") := by
    rw [descending]
    exact .refl (by cases b.isDescending <;> decide)
  have key : Rule.Column.key a = Rule.Column.key b := by
    rw [column_key_eq, column_key_eq]
    exact (((name.append owner).append computed).append descending).lower_eq
  exact Buckets.meet_of_mem (List.mem_singleton.2 rfl) (List.mem_singleton.2 key)

theorem meet_groupKeys {a b : Rule.ColumnGroup} (h : groupsAlike d p a b)
    (ha : AsciiName a.object.name ∧ AsciiName (a.table.bind (·.name)))
    (hb : AsciiName b.object.name ∧ AsciiName (b.table.bind (·.name))) :
    Buckets.Meet (some (groupKeys a.object.name a.table))
      (some (groupKeys b.object.name b.table)) := by
  unfold groupsAlike at h
  split at h
  · next present =>
    obtain ⟨hta, htb⟩ := Bool.and_eq_true_iff.1 present
    obtain ⟨t, ht⟩ := Option.isSome_iff_exists.1 hta
    obtain ⟨u, hu⟩ := Option.isSome_iff_exists.1 htb
    rw [ht] at h ha ⊢
    rw [hu] at h hb ⊢
    simp only [Bool.and_eq_true] at h
    exact meet_nameKey h.1.1 ha.2 hb.2 (by simp [groupKeys]) (by simp [groupKeys])
  · next absent =>
    simp only [groupsByName, Bool.and_eq_true] at h
    have agree := map_lower_eq_of_namesMatch h.2.1 ha.1 hb.1
    unfold groupKeys
    rw [agree]
    cases b.object.name.map Text.lower with
    | some n => exact Buckets.meet_of_mem (k := n) (by simp) (by simp)
    | none =>
      -- without a name and without a table there are no keys
      cases hta : a.table with
      | none => exact .inl rfl
      | some t =>
        cases htb : b.table with
        | none => exact .inr (.inl rfl)
        | some u => simp [hta, htb] at absent

theorem meet_foreignKeyKeys {a b : ForeignKey} (h : foreignKeysAlike d p a b)
    (ha : WellNamed (.foreignKey a)) (hb : WellNamed (.foreignKey b)) :
    Buckets.Meet (foreignKeyKeys a) (foreignKeyKeys b) := by
  unfold foreignKeysAlike at h
  split at h
  · next resolved =>
    simp only [Rule.ForeignKey.isResolved, Bool.and_eq_true] at resolved
    obtain ⟨t, ht⟩ := Option.isSome_iff_exists.1 resolved.1.1
    obtain ⟨u, hu⟩ := Option.isSome_iff_exists.1 resolved.2.1
    obtain ⟨m, hm⟩ := Option.isSome_iff_exists.1 (ha.2 t ht)
    obtain ⟨n, hn⟩ := Option.isSome_iff_exists.1 (hb.2 u hu)
    simp only [foreignKeysByLink, Bool.and_eq_true] at h
    -- named tables are among the keys whether or not the foreign keys have names
    have agree := map_lower_eq_of_tables h.2.1 ha.1 hb.1
    simp only [ht, hu, Option.bind_some, hm, hn, Option.map_some, Option.some.injEq] at agree
    unfold foreignKeyKeys
    cases a.name <;> cases b.name <;>
      simp only [ht, hu, Option.map_some, Option.bind_some, hm, hn, nameKey]
    all_goals exact Buckets.meet_of_mem (k := Text.lower m) (by simp) (by simp [agree])
  · simp only [foreignKeysByName, Bool.and_eq_true] at h
    unfold foreignKeyKeys
    cases hm : a.name with
    | none => simp [hm] at h
    | some m =>
      cases hn : b.name with
      | none => simp [hm, hn] at h
      | some n =>
        rw [hm, hn] at h
        have agree := Dialect.lower_eq_of_namesEqual h.2
        exact Buckets.meet_of_mem (k := Text.lower m) List.mem_cons_self (by simp [agree])

end Identity

/-! ## Documents -/

namespace Document

/-- The names of the objects of a document are ASCII. -/
structure AsciiNames (D : Document) : Prop where
  catalogs : ∀ e ∈ D.catalogs, Text.Ascii e.name
  schemas : ∀ e ∈ D.schemas, Text.Ascii e.name
  tables : ∀ e ∈ D.tables, Text.Ascii e.name
  columns : ∀ e ∈ D.columns, Text.Ascii e.name
  indexes : ∀ e ∈ D.indexes, AsciiName e.name
  primaryKeys : ∀ e ∈ D.primaryKeys, AsciiName e.name
  foreignKeys : ∀ e ∈ D.foreignKeys, AsciiName e.name
  uniqueConstraints : ∀ e ∈ D.uniqueConstraints, AsciiName e.name

variable {D : Document} {origin : Nat}

theorem asciiName_of_table_mem (x : Sections D origin) (h : D.AsciiNames) {t : Table}
    (ht : t ∈ x.tables) : AsciiName t.name ∧ t.name.isSome := by
  obtain ⟨e, he, hname⟩ := x.table_of_mem ht
  rw [hname]
  refine ⟨?_, rfl⟩
  rintro n ⟨⟩
  exact h.tables e he

theorem asciiName_of_link (x : Sections D origin) (h : D.AsciiNames) {t : Option Table}
    (ht : ∀ u ∈ t, u ∈ x.tables) : AsciiName (t.bind (·.name)) := by
  intro n hn
  obtain ⟨u, hu, hn⟩ := Option.bind_eq_some_iff.1 hn
  exact (asciiName_of_table_mem x h (ht u hu)).1 n hn

/-- The objects of a document with ASCII names are well named. -/
theorem wellNamed_of_mem {s : Snapshot} (hs : D.resolve origin = .ok s) (h : D.AsciiNames)
    {o : Object} (ho : o ∈ s.objects) : Identity.WellNamed o := by
  obtain ⟨x, rfl⟩ := resolve_eq_ok.1 hs
  cases o with
  | catalog | schema | primaryKey => trivial
  | table t => exact (asciiName_of_table_mem x h (by simpa [Sections.snapshot] using ho)).1
  | column c =>
    obtain ⟨e, he, hname, t, ht, hr⟩ := x.column_of_mem (by simpa [Sections.snapshot] using ho)
    refine ⟨?_, asciiName_of_link x h ?_⟩
    · rw [hname]
      rintro n ⟨⟩
      exact h.columns e he
    · rw [hr]
      rintro u ⟨⟩
      exact ht
  | index i =>
    obtain ⟨e, he, hname, linked⟩ := x.index_of_mem (by simpa [Sections.snapshot] using ho)
    exact ⟨hname ▸ h.indexes e he, asciiName_of_link x h linked⟩
  | foreignKey k =>
    obtain ⟨e, -, -, linked, -⟩ := x.foreignKey_of_mem (by simpa [Sections.snapshot] using ho)
    exact ⟨asciiName_of_link x h linked, fun t ht => (asciiName_of_table_mem x h (linked t ht)).2⟩
  | uniqueConstraint u =>
    obtain ⟨e, he, hname, linked⟩ :=
      x.uniqueConstraint_of_mem (by simpa [Sections.snapshot] using ho)
    exact ⟨hname ▸ h.uniqueConstraints e he, asciiName_of_link x h linked⟩

end Document

/-- For the built-in rules, keys meet when the plain ones do. -/
theorem Rulebook.judge_keysMeet_iff {a b : Object} :
    ((builtin d).judge d p).KeysMeet a b ↔
      Buckets.Meet (Identity.keysOf a) (Identity.keysOf b) := by
  simp [Judge.KeysMeet, judge_keys]

open Rulebook Identity in
/-- Keys never keep apart tables, columns, indexes, unique constraints or foreign keys of documents
with ASCII names that are the same. -/
theorem keysMeet_of_judge_same {D₁ D₂ : Document} {o₁ o₂ : Nat} {s₁ s₂ : Snapshot}
    (h₁ : D₁.resolve o₁ = .ok s₁) (h₂ : D₂.resolve o₂ = .ok s₂) (n₁ : D₁.AsciiNames)
    (n₂ : D₂.AsciiNames) {a b : Object} (ha : a ∈ s₁.objects) (hb : b ∈ s₂.objects)
    (hkind : a.kind ∈ [.table, .column, .index, .uniqueConstraint, .foreignKey])
    (hsame : ((builtin d).judge d p).same (some a) (some b) = .ok true) :
    ((builtin d).judge d p).KeysMeet a b := by
  have wa := Document.wellNamed_of_mem h₁ n₁ ha
  have wb := Document.wellNamed_of_mem h₂ n₂ hb
  rw [judge_keysMeet_iff]
  rw [judge_same, Except.ok.injEq, same, Bool.or_eq_true, decide_eq_true_iff] at hsame
  rcases hsame with rfl | h
  · exact meet_self _
  · cases a <;> cases b <;> try cases h
    case table.table => exact meet_of_tablesAlike h wa wb
    case column.column => exact meet_of_columnsAlike h wa wb
    case index.index => exact meet_groupKeys h wa wb
    case foreignKey.foreignKey => exact meet_foreignKeyKeys h wa wb
    case uniqueConstraint.uniqueConstraint => exact meet_groupKeys h wa wb
    all_goals simp [Object.kind] at hkind

/-- A document of two tables and a foreign key from one to the other. -/
def linkedTables (table referenced key : String) : Document where
  productName := none
  productVersion := none
  catalogs := []
  schemas := []
  tables := [⟨table, none, none, none, none, []⟩, ⟨referenced, none, none, none, none, []⟩]
  columns := []
  indexes := []
  primaryKeys := []
  foreignKeys :=
    [{ name := some key, table := some table, schema := none, columns := [],
       referencedTable := some referenced, referencedSchema := none, referencedColumns := [],
       updateRule := none, deleteRule := none, deferrable := none, initiallyDeferred := none,
       validate := none, backingIndex := none, attributes := [] }]
  uniqueConstraints := []

theorem keysMeet_of_judge_same_linkedTables :
    ∃ s₁ s₂, (linkedTables "Orders" "users" "fk1").resolve 0 = .ok s₁ ∧
      (linkedTables "ORDERS" "USERS" "fk2").resolve 1 = .ok s₂ ∧
      ∃ a ∈ s₁.objects, ∃ b ∈ s₂.objects, a.name = some "fk1" ∧ b.name = some "fk2" ∧
        ((Rulebook.builtin .postgres).judge .postgres .standard).KeysMeet a b := by
  have ascii₁ : (linkedTables "Orders" "users" "fk1").AsciiNames := by
    constructor <;> decide
  have ascii₂ : (linkedTables "ORDERS" "USERS" "fk2").AsciiNames := by
    constructor <;> decide
  have h₁ : (linkedTables "Orders" "users" "fk1").resolve 0 = .ok _ := rfl
  have h₂ : (linkedTables "ORDERS" "USERS" "fk2").resolve 1 = .ok _ := rfl
  refine ⟨_, _, h₁, h₂, _, List.mem_of_getElem? (i := 2) rfl, _, List.mem_of_getElem? (i := 2) rfl,
    rfl, rfl, ?_⟩
  refine keysMeet_of_judge_same h₁ h₂ ascii₁ ascii₂ (List.mem_of_getElem? (i := 2) rfl)
    (List.mem_of_getElem? (i := 2) rfl) (by decide) ?_
  decide +kernel

end SchemaDelta
