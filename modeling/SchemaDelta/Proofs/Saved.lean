import SchemaDelta.Document.Json
import SchemaDelta.Proofs.Written

/-!
# Saved documents

A document that was read is read again from the text it is saved as. Entry by entry, the members
that are written are those that have a value, and the reader gives the others the values they had.
-/

namespace SchemaDelta.Document

open Json (ReadsBack present)

theorem attributesMember_eq_present (attributes : Attributes) : attributesMember attributes =
    present [("attributes", if attributes.isEmpty then none else some (.object attributes))] := by
  cases attributes <;> rfl

/-- Attributes that were left out because there are none are read as none. -/
theorem attributes_of_get? {r w : Json.Record} {name : String} {attributes : Attributes}
    (h : r.defaulted name [] attributesOfJson? = some attributes)
    (hw : w.get? name = if attributes.isEmpty then none else some (.object attributes)) :
    w.defaulted name [] attributesOfJson? = some attributes := by
  cases attributes with
  | nil => rw [Json.Record.defaulted, hw]; rfl
  | cons a rest => exact ReadsBack.settledMembers.defaulted rfl h hw

theorem CatalogEntry.readsBack : ReadsBack ofJson? toJson where
  back h := by
    -- members are read one after the other: opened from the first on, none is opened twice
    dsimp only [ofJson?, Option.bind_eq_bind, Option.pure_def] at h
    simp only [↓Option.bind_eq_some_iff, Option.some.injEq] at h
    obtain ⟨r, -, _, name, _, default, rfl⟩ := h
    simp only [toJson, Json.singleton_eq_present, Json.cons_present]
    rw [ofJson?]
    refine Json.bind_record?_present (by rfl) (by decide) fun w hw => ?_
    rw [ReadsBack.text.required name (hw.get? (by simp)),
      ReadsBack.flag.defaulted rfl default (hw.get? (by simp))]
    rfl
  null _ h := nomatch h

theorem SchemaEntry.readsBack : ReadsBack ofJson? toJson where
  back h := by
    dsimp only [ofJson?, Option.bind_eq_bind, Option.pure_def] at h
    simp only [↓Option.bind_eq_some_iff, Option.some.injEq] at h
    obtain ⟨r, -, _, name, _, catalog, _, default, rfl⟩ := h
    simp only [toJson, ↓List.cons_append, Json.textMember_eq_present, Json.singleton_eq_present,
      Json.cons_present, Json.present_append]
    rw [ofJson?]
    refine Json.bind_record?_present (by rfl) (by decide) fun w hw => ?_
    rw [ReadsBack.text.required name (hw.get? (by simp)),
      ReadsBack.text.optional catalog (hw.get? (by simp)),
      ReadsBack.flag.defaulted rfl default (hw.get? (by simp))]
    rfl
  null _ h := nomatch h

/-- Both forms of a column reference read back. -/
theorem ColumnRef.readsBack : ReadsBack ofJson? toJson where
  back {j c} _ := by
    cases c with
    | named name => rfl
    | expression name computed descending => rfl
  null {_ c} _ h := by cases c <;> cases h

theorem columns_readsBack : ReadsBack columnsOfJson? columnsToJson := ColumnRef.readsBack.list

theorem TableEntry.readsBack : ReadsBack ofJson? toJson where
  back h := by
    dsimp only [ofJson?, Option.bind_eq_bind, Option.pure_def] at h
    simp only [↓Option.bind_eq_some_iff, Option.some.injEq] at h
    obtain ⟨r, -, _, name, _, schema, _, remarks, _, tablespace, _, defaultTablespace, _,
      attributes, rfl⟩ := h
    simp only [toJson, ↓List.append_assoc, ↓List.cons_append, Json.textMember_eq_present,
      Json.flagMember_eq_present, attributesMember_eq_present, Json.cons_present,
      Json.present_append]
    rw [ofJson?]
    refine Json.bind_record?_present (by rfl) (by decide) fun w hw => ?_
    rw [ReadsBack.text.required name (hw.get? (by simp)),
      ReadsBack.text.optional schema (hw.get? (by simp)),
      ReadsBack.text.optional remarks (hw.get? (by simp)),
      ReadsBack.text.optional tablespace (hw.get? (by simp)),
      ReadsBack.flag.optional defaultTablespace (hw.get? (by simp)),
      attributes_of_get? attributes (hw.get? (by simp))]
    rfl
  null _ h := nomatch h

theorem autoIncrement_readsBack : ReadsBack autoIncrementOfJson? autoIncrementToJson where
  back h := by
    dsimp only [autoIncrementOfJson?, Option.bind_eq_bind, Option.pure_def] at h
    simp only [↓Option.bind_eq_some_iff, Option.some.injEq] at h
    obtain ⟨r, -, _, start, _, step, rfl⟩ := h
    simp only [autoIncrementToJson, Json.optionalMember_eq_present, Json.present_append]
    rw [autoIncrementOfJson?]
    refine Json.bind_record?_present (by rfl) (by decide) fun w hw => ?_
    rw [ReadsBack.int64.optional start (hw.get? (by simp)),
      ReadsBack.int64.optional step (hw.get? (by simp))]
    rfl
  null _ h := nomatch h

theorem ColumnEntry.readsBack : ReadsBack ofJson? toJson where
  back h := by
    dsimp only [ofJson?, Option.bind_eq_bind, Option.pure_def] at h
    simp only [↓Option.bind_eq_some_iff, Option.some.injEq] at h
    obtain ⟨r, -, _, table, _, schema, _, name, _, type, _, nullable, _, default, _, remarks,
      _, order, _, computed, _, descending, _, autoIncrement, _, attributes, rfl⟩ := h
    simp only [toJson, ↓List.append_assoc, ↓List.cons_append, Json.textMember_eq_present,
      Json.flagMember_eq_present, Json.optionalMember_eq_present, attributesMember_eq_present,
      Json.cons_present, Json.present_append]
    rw [ofJson?]
    refine Json.bind_record?_present (by rfl) (by decide) fun w hw => ?_
    rw [ReadsBack.text.required table (hw.get? (by simp)),
      ReadsBack.text.optional schema (hw.get? (by simp)),
      ReadsBack.text.required name (hw.get? (by simp)),
      ReadsBack.text.optional type (hw.get? (by simp)),
      ReadsBack.flag.optional nullable (hw.get? (by simp)),
      ReadsBack.settled.optional default (hw.get? (by simp)),
      ReadsBack.text.optional remarks (hw.get? (by simp)),
      ReadsBack.int64.optional order (hw.get? (by simp)),
      ReadsBack.flag.optional computed (hw.get? (by simp)),
      ReadsBack.flag.optional descending (hw.get? (by simp)),
      autoIncrement_readsBack.optional autoIncrement (hw.get? (by simp)),
      attributes_of_get? attributes (hw.get? (by simp))]
    rfl
  null _ h := nomatch h

theorem IndexEntry.readsBack : ReadsBack ofJson? toJson where
  back h := by
    dsimp only [ofJson?, Option.bind_eq_bind, Option.pure_def] at h
    simp only [↓Option.bind_eq_some_iff, Option.some.injEq] at h
    obtain ⟨r, -, _, name, _, table, _, schema, _, columns, _, unique, _, clustered, _,
      attributes, rfl⟩ := h
    simp only [toJson, ↓List.append_assoc, ↓List.cons_append, Json.textMember_eq_present,
      Json.flagMember_eq_present, attributesMember_eq_present, Json.cons_present,
      Json.present_append]
    rw [ofJson?]
    refine Json.bind_record?_present (by rfl) (by decide) fun w hw => ?_
    rw [ReadsBack.text.optional name (hw.get? (by simp)),
      ReadsBack.text.optional table (hw.get? (by simp)),
      ReadsBack.text.optional schema (hw.get? (by simp)),
      columns_readsBack.defaulted rfl columns (hw.get? (by simp)),
      ReadsBack.flag.optional unique (hw.get? (by simp)),
      ReadsBack.flag.optional clustered (hw.get? (by simp)),
      attributes_of_get? attributes (hw.get? (by simp))]
    rfl
  null _ h := nomatch h

theorem PrimaryKeyEntry.readsBack : ReadsBack ofJson? toJson where
  back h := by
    dsimp only [ofJson?, Option.bind_eq_bind, Option.pure_def] at h
    simp only [↓Option.bind_eq_some_iff, Option.some.injEq] at h
    obtain ⟨r, -, _, name, _, table, _, schema, _, columns, _, backingIndex, _, attributes,
      rfl⟩ := h
    simp only [toJson, ↓List.append_assoc, ↓List.cons_append, Json.textMember_eq_present,
      attributesMember_eq_present, Json.cons_present, Json.present_append]
    rw [ofJson?]
    refine Json.bind_record?_present (by rfl) (by decide) fun w hw => ?_
    rw [ReadsBack.text.optional name (hw.get? (by simp)),
      ReadsBack.text.optional table (hw.get? (by simp)),
      ReadsBack.text.optional schema (hw.get? (by simp)),
      columns_readsBack.defaulted rfl columns (hw.get? (by simp)),
      ReadsBack.text.optional backingIndex (hw.get? (by simp)),
      attributes_of_get? attributes (hw.get? (by simp))]
    rfl
  null _ h := nomatch h

theorem ForeignKeyEntry.readsBack : ReadsBack ofJson? toJson where
  back h := by
    dsimp only [ofJson?, Option.bind_eq_bind, Option.pure_def] at h
    simp only [↓Option.bind_eq_some_iff, Option.some.injEq] at h
    obtain ⟨r, -, _, name, _, table, _, schema, _, columns, _, referencedTable, _,
      referencedSchema, _, referencedColumns, _, updateRule, _, deleteRule, _, deferrable, _,
      initiallyDeferred, _, validate, _, backingIndex, _, attributes, rfl⟩ := h
    simp only [toJson, ↓List.append_assoc, ↓List.cons_append, Json.textMember_eq_present,
      Json.flagMember_eq_present, attributesMember_eq_present, Json.cons_present,
      Json.present_append]
    rw [ofJson?]
    refine Json.bind_record?_present (by rfl) (by decide) fun w hw => ?_
    rw [ReadsBack.text.optional name (hw.get? (by simp)),
      ReadsBack.text.optional table (hw.get? (by simp)),
      ReadsBack.text.optional schema (hw.get? (by simp)),
      columns_readsBack.defaulted rfl columns (hw.get? (by simp)),
      ReadsBack.text.optional referencedTable (hw.get? (by simp)),
      ReadsBack.text.optional referencedSchema (hw.get? (by simp)),
      columns_readsBack.defaulted rfl referencedColumns (hw.get? (by simp)),
      ReadsBack.text.optional updateRule (hw.get? (by simp)),
      ReadsBack.text.optional deleteRule (hw.get? (by simp)),
      ReadsBack.flag.optional deferrable (hw.get? (by simp)),
      ReadsBack.flag.optional initiallyDeferred (hw.get? (by simp)),
      ReadsBack.flag.optional validate (hw.get? (by simp)),
      ReadsBack.text.optional backingIndex (hw.get? (by simp)),
      attributes_of_get? attributes (hw.get? (by simp))]
    rfl
  null _ h := nomatch h

theorem UniqueConstraintEntry.readsBack : ReadsBack ofJson? toJson where
  back h := by
    dsimp only [ofJson?, Option.bind_eq_bind, Option.pure_def] at h
    simp only [↓Option.bind_eq_some_iff, Option.some.injEq] at h
    obtain ⟨r, -, _, name, _, table, _, schema, _, columns, _, deferrable, _,
      initiallyDeferred, _, disabled, _, clustered, _, backingIndex, _, attributes, rfl⟩ := h
    simp only [toJson, ↓List.append_assoc, ↓List.cons_append, Json.textMember_eq_present,
      Json.flagMember_eq_present, attributesMember_eq_present, Json.cons_present,
      Json.present_append]
    rw [ofJson?]
    refine Json.bind_record?_present (by rfl) (by decide) fun w hw => ?_
    rw [ReadsBack.text.optional name (hw.get? (by simp)),
      ReadsBack.text.optional table (hw.get? (by simp)),
      ReadsBack.text.optional schema (hw.get? (by simp)),
      columns_readsBack.defaulted rfl columns (hw.get? (by simp)),
      ReadsBack.flag.optional deferrable (hw.get? (by simp)),
      ReadsBack.flag.optional initiallyDeferred (hw.get? (by simp)),
      ReadsBack.flag.optional disabled (hw.get? (by simp)),
      ReadsBack.flag.optional clustered (hw.get? (by simp)),
      ReadsBack.text.optional backingIndex (hw.get? (by simp)),
      attributes_of_get? attributes (hw.get? (by simp))]
    rfl
  null _ h := nomatch h


/-- A document that was read is read again from its tree. -/
theorem readsBack : ReadsBack ofJson? toJson where
  back h := by
    dsimp only [ofJson?, Option.bind_eq_bind, Option.pure_def] at h
    simp only [↓Option.bind_eq_some_iff, Option.some.injEq] at h
    obtain ⟨r, -, _, productName, _, productVersion, _, catalogs, _, schemas, _, tables, _,
      columns, _, indexes, _, primaryKeys, _, foreignKeys, _, uniqueConstraints, rfl⟩ := h
    simp only [toJson, ↓List.append_assoc, Json.textMember_eq_present, Json.singleton_eq_present,
      Json.cons_present, Json.present_append]
    rw [ofJson?]
    refine Json.bind_record?_present (by rfl) (by decide) fun w hw => ?_
    rw [ReadsBack.text.optional productName (hw.get? (by simp)),
      ReadsBack.text.optional productVersion (hw.get? (by simp)),
      CatalogEntry.readsBack.list.defaulted rfl catalogs (hw.get? (by simp)),
      SchemaEntry.readsBack.list.defaulted rfl schemas (hw.get? (by simp)),
      TableEntry.readsBack.list.defaulted rfl tables (hw.get? (by simp)),
      ColumnEntry.readsBack.list.defaulted rfl columns (hw.get? (by simp)),
      IndexEntry.readsBack.list.defaulted rfl indexes (hw.get? (by simp)),
      PrimaryKeyEntry.readsBack.list.defaulted rfl primaryKeys (hw.get? (by simp)),
      ForeignKeyEntry.readsBack.list.defaulted rfl foreignKeys (hw.get? (by simp)),
      UniqueConstraintEntry.readsBack.list.defaulted rfl uniqueConstraints (hw.get? (by simp))]
    rfl
  null _ h := nomatch h

/-- A document that can be read survives being saved, provided that a tree is read from its own
text. -/
theorem parse?_render {text : String} {D : Document} (h : parse? text = some D) :
    ofJson? D.toJson = some D ∧
      (Json.read? D.toJson.indented = some D.toJson → parse? D.render = some D) := by
  obtain ⟨j, -, hj⟩ := Option.bind_eq_some_iff.1 h
  have back : ofJson? D.toJson = some D := readsBack.back hj
  refine ⟨back, fun printed => ?_⟩
  rw [parse?, render, printed, Option.bind_some, back]

/-- A tree with parts that are missing, `null` or empty, one that is not known, an entry given by
its members in order, and a name that is repeated in the data. -/
def sparseTree : Json :=
  .object [("product_name", .string ""), ("product_version", .null), ("comment", .array []),
    ("schemas", .array [.array [.string "app", .null, .bool true]]),
    ("tables", .array [.object [("name", .string "t"), ("attributes", .object
      [("z", .null), ("a", .integer 1), ("a", .array [.float (.ofRatio false 1 2) rfl])])]]),
    ("indexes", .array [.object [("columns", .array
      [.string "id", .object [("name", .string "up"), ("computed", .bool true)]])]])]

/-- The document that the tree stands for. -/
def sparse : Document where
  productName := some ""
  productVersion := none
  catalogs := []
  schemas := [⟨"app", none, true⟩]
  tables := [⟨"t", none, none, none, none,
    [("a", .array [.float (.ofRatio false 1 2) rfl]), ("z", .null)]⟩]
  columns := []
  indexes := [⟨none, none, none, [.named "id", .expression "up" true false], none, none, []⟩]
  primaryKeys := []
  foreignKeys := []
  uniqueConstraints := []

theorem parse?_render_sparse :
    parse? sparseTree.compact = some sparse ∧ ofJson? sparse.toJson = some sparse ∧
      parse? sparse.render = some sparse := by
  -- the characters are put together as lists, which evaluate faster than texts
  have read : parse? sparseTree.compact = some sparse := by
    rw [parse?, Json.read?, Json.tokens?]
    simp only [sparseTree, Json.compact, Json.compactMembers, Json.compactItems,
      String.toList_append, String.toList_intercalate, List.map_cons, List.map_nil]
    decide +kernel
  have printed : Json.read? sparse.toJson.indented = some sparse.toJson := by
    rw [Json.read?, Json.tokens?]
    simp only [sparse, toJson, SchemaEntry.toJson, TableEntry.toJson, IndexEntry.toJson,
      columnsToJson, ColumnRef.toJson, attributesMember, Json.textMember, Json.flagMember,
      Json.optionalMember, Json.indented, Json.indentedAt, Json.indentedMembers,
      Json.indentedItems, Json.block, String.toList_append, String.toList_intercalate,
      List.map_cons, List.map_nil, List.cons_append, List.nil_append]
    decide +kernel
  obtain ⟨tree, saved⟩ := parse?_render read
  exact ⟨read, tree, saved printed⟩

end SchemaDelta.Document
