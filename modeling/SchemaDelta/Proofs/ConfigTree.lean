import SchemaDelta.Config.Data
import SchemaDelta.Proofs.Keyed
import SchemaDelta.Proofs.Lines
import SchemaDelta.Proofs.Written

/-!
# Reading a configuration from a tree

The tree of a configuration is read as the configuration: each of its parts is read from the tree
that it is written as. A record does not ask for the order of its members, so that the members of
the comparison may come in any.

## Main definitions

* `Config.compareMembers` — the members of the comparison.
-/

namespace SchemaDelta

open Toml

/-! ## Trees and records -/

theorem Toml.toJsonMembers_eq_map (members : List (String × Toml)) :
    toJsonMembers members = members.map fun m => (m.1, m.2.toJson) := by
  induction members with
  | nil => rfl
  | cons m members ih => rw [toJsonMembers, ih, List.map_cons]

theorem Toml.toJsonItems_eq_map (items : List Toml) : toJsonItems items = items.map toJson := by
  induction items with
  | nil => rfl
  | cons t items ih => rw [toJsonItems, ih, List.map_cons]

namespace Json

/-- What is found under a name does not depend on the order of members of different names. -/
theorem lookup_eq_of_perm {α : Type} {ms ns : List (String × α)} (perm : ms.Perm ns)
    (distinct : (ms.map Prod.fst).Nodup) (name : String) : ms.lookup name = ns.lookup name := by
  induction perm with
  | nil => rfl
  | cons m _ ih =>
    rw [List.lookup_cons, List.lookup_cons, ih (List.nodup_cons.1 distinct).2]
  | swap m n rest =>
    have other : n.1 ≠ m.1 := by
      rintro same
      exact (List.nodup_cons.1 distinct).1 (same ▸ List.mem_cons_self)
    rw [List.lookup_cons, List.lookup_cons, List.lookup_cons, List.lookup_cons]
    by_cases hm : name = m.1
    · subst hm
      simp [beq_false_of_ne other.symm]
    · simp [beq_false_of_ne hm]
  | trans first _ ih ih' =>
    exact (ih distinct).trans (ih' ((first.map _).nodup distinct))

/-- A record does not ask for the order of its members. -/
theorem exists_record?_of_perm {names : List String} {fields : List (String × Option Json)}
    {members : List (String × Json)} (perm : members.Perm (present fields))
    (order : fields.map Prod.fst = names) (distinct : names.Nodup) (loose : Bool) :
    ∃ w, (object members).record? names loose = some w ∧ w.Holds fields := by
  obtain ⟨w, hw, holds⟩ := exists_record?_present order distinct loose
  obtain ⟨once, hw⟩ := Option.ite_none_right_eq_some.1 hw
  obtain rfl := Option.some.inj hw
  have known := perm.filter fun m => names.contains m.1
  have once := (known.map Prod.fst).nodup_iff.2 once
  refine ⟨⟨false, _⟩, if_pos once, rfl, fun {name value} h => ?_⟩
  rw [Record.get?, lookup_eq_of_perm known once name]
  exact holds.get? h

end Json

open Json (present)

/-! ## The dialect -/

theorem Json.string?_string (s : String) : Json.string? (.string s) = some s := rfl

theorem Json.bool?_bool (b : Bool) : Json.bool? (.bool b) = some b := rfl

theorem Dialect.scalar_members (d : Dialect) : ∀ m ∈ d.members, Scalar m.2 := by
  unfold members
  cases d.defaultCatalog <;> cases d.defaultSchema <;> simp [Scalar.string, Scalar.boolean]

theorem Dialect.ofJson?_toJson (d : Dialect) : Dialect.ofJson? d.toToml.toJson = some d := by
  have written : d.toToml.toJson = .object (present
      [("short_name", some (.string d.shortName)), ("dialect", some (.string d.family.name)),
       ("supports_catalogs", some (.bool d.hasCatalogs)),
       ("supports_schemas", some (.bool d.hasSchemas)),
       ("default_catalog", d.defaultCatalog.map .string),
       ("default_schema", d.defaultSchema.map .string),
       ("case_sensitive", some (.bool d.caseSensitive)),
       ("name_case", some (.string d.nameCase.name))]) := by
    rw [toToml, members]
    cases d.defaultCatalog <;> cases d.defaultSchema <;> rfl
  have family : Json.choice? Family.ofName? (.string d.family.name) = some d.family := by
    cases d.family <;> rfl
  have nameCase : Json.choice? NameCase.ofName? (.string d.nameCase.name) = some d.nameCase := by
    cases d.nameCase <;> rfl
  have name (n : Option String) :
      ∀ s ∈ n, Json.string? (.string s) = some s ∧ Json.string s ≠ .null :=
    fun s _ => ⟨rfl, by simp⟩
  rw [written, ofJson?]
  refine Json.bind_record?_present rfl (by decide) fun w hw => ?_
  rw [w.required_of_get? (Json.string?_string d.shortName) (hw.get? (by simp)),
    w.defaulted_of_get? family (hw.get? (by simp)),
    w.defaulted_of_get? (Json.bool?_bool d.hasCatalogs) (hw.get? (by simp)),
    w.defaulted_of_get? (Json.bool?_bool d.hasSchemas) (hw.get? (by simp)),
    w.optional_of_get? (hw.get? (by simp)) (name d.defaultCatalog),
    w.optional_of_get? (hw.get? (by simp)) (name d.defaultSchema),
    w.defaulted_of_get? (Json.bool?_bool d.caseSensitive) (hw.get? (by simp)),
    w.defaulted_of_get? nameCase (hw.get? (by simp))]
  rfl

namespace Config

theorem settle?_toJson {t : Toml} (h : Scalar t) : t.toJson.settle? = some t.toJson := by
  cases h <;> rfl

/-- Every part of the table of a dialect has a value. -/
theorem settle?_custom (d : Dialect) :
    ∃ j, (Json.object [("custom", d.toToml.toJson)]).settle? = some j := by
  have settled : Json.settleMembers? (toJsonMembers d.members) =
      some (toJsonMembers d.members) := by
    refine Json.settleMembers?_eq_self ?_
    rw [toJsonMembers_eq_map, List.forall_mem_map]
    exact fun m hm => settle?_toJson (d.scalar_members m hm)
  rw [Dialect.toToml, toJson, Json.settle?, Json.settleMembers?, Json.settle?, settled]
  exact ⟨_, rfl⟩

theorem DialectChoice.ofJson?_toJson (choice : DialectChoice) :
    DialectChoice.ofJson? choice.toToml.toJson = some choice := by
  cases choice with
  | preset name => rfl
  | custom d =>
    obtain ⟨j, settled⟩ := settle?_custom d
    have written : (DialectChoice.custom d).toToml.toJson =
        .object (present [("custom", some d.toToml.toJson)]) := rfl
    rw [written, ofJson?]
    change (Json.settle? (.object [("custom", d.toToml.toJson)])).bind _ = _
    rw [settled, Option.bind_some]
    refine Json.bind_record?_present rfl (by decide) fun w hw => ?_
    rw [w.required_of_get? d.ofJson?_toJson (hw.get? (by simp))]
    rfl

/-! ## The comparison -/

theorem namesOfJson?_toJson (names : List String) :
    namesOfJson? (namesToToml names).toJson = some names := by
  have written : (namesToToml names).toJson = .array (names.map .string) := by
    rw [namesToToml, toJson, toJsonItems_eq_map, List.map_map]
    rfl
  have read : namesOfJson? (.array (names.map .string)) = some (names.map id) :=
    Json.listOf?_map fun s _ => Json.string?_string s
  rw [written, read, List.map_id]

/-- The members of an alias. -/
def AliasEntry.members (e : AliasEntry) : List (String × Toml) :=
  [("reference", .string e.reference), ("comparison", .string e.comparison)]

theorem AliasEntry.ofJson?_toJson (loose : Bool) (e : AliasEntry) :
    AliasEntry.ofJson? loose (Toml.table e.members).toJson = some e := by
  have written : (Toml.table e.members).toJson = .object (present
      [("reference", some (.string e.reference)), ("comparison", some (.string e.comparison))]) :=
    rfl
  rw [written, ofJson?]
  refine Json.bind_record?_present rfl (by decide) fun w hw => ?_
  rw [w.required_of_get? (Json.string?_string e.reference) (hw.get? (by simp)),
    w.required_of_get? (Json.string?_string e.comparison) (hw.get? (by simp))]
  rfl

variable (c : Config)

/-- The members of the suppressed fields. -/
def suppressedMembers : List (String × Toml) := c.suppressed.map fun e => (e.1, namesToToml e.2)

/-- The members of the comparison. -/
def compareMembers : List (String × Toml) :=
  [("types", namesToToml c.kinds),
   ("suppressed_fields", .table c.suppressedMembers),
   ("schema_comparisons", .array ((c.aliases.map AliasEntry.members).map .table)),
   ("include_catalog", .boolean c.includeCatalog),
   ("diff_column_order", .boolean c.columnOrder)]

theorem members_eq : c.members =
    [("dialect", c.dialect.toToml), ("compare", .table c.compareMembers)] := by
  rw [compareMembers, List.map_map]
  rfl

theorem membersOf?_suppressedMembers :
    Json.membersOf? namesOfJson? (Toml.table c.suppressedMembers).toJson = some c.suppressed := by
  have read : (c.suppressed.map fun e => (e.1, (namesToToml e.2).toJson)).mapM
      (fun m => (namesOfJson? m.2).map fun v => (m.1, v)) = some (c.suppressed.map id) :=
    Json.mapM_map fun e _ => by rw [namesOfJson?_toJson]; rfl
  rw [List.map_id] at read
  rw [toJson, toJsonMembers_eq_map, suppressedMembers, List.map_map]
  exact read

theorem listOf?_aliases (loose : Bool) : Json.listOf? (AliasEntry.ofJson? loose)
    (Toml.array ((c.aliases.map AliasEntry.members).map .table)).toJson = some c.aliases := by
  have read : Json.listOf? (AliasEntry.ofJson? loose)
      (.array (c.aliases.map fun e => (Toml.table e.members).toJson)) = some (c.aliases.map id) :=
    Json.listOf?_map fun e _ => e.ofJson?_toJson loose
  rw [List.map_id] at read
  rw [toJson, toJsonItems_eq_map, List.map_map, List.map_map]
  exact read

/-- A configuration is read from a tree of its members whatever their order in the comparison. -/
theorem ofToml?_perm {members : List (String × Toml)} (perm : members.Perm c.compareMembers) :
    ofToml? (.table [("dialect", c.dialect.toToml), ("compare", .table members)]) = some c := by
  have arranged : (toJsonMembers members).Perm (present
      [("types", some (namesToToml c.kinds).toJson),
       ("suppressed_fields", some (Toml.table c.suppressedMembers).toJson),
       ("schema_comparisons",
         some (Toml.array ((c.aliases.map AliasEntry.members).map .table)).toJson),
       ("include_catalog", some (.bool c.includeCatalog)),
       ("diff_column_order", some (.bool c.columnOrder))]) := by
    rw [toJsonMembers_eq_map]
    exact perm.map _
  obtain ⟨w', hw', holds⟩ := Json.exists_record?_of_perm arranged rfl (by simp) true
  have compare : (fun j : Json => j.record?
      ["types", "suppressed_fields", "schema_comparisons", "include_catalog", "diff_column_order"]
        true) (Toml.table members).toJson = some w' := hw'
  have written :
      (Toml.table [("dialect", c.dialect.toToml), ("compare", .table members)]).toJson =
        .object (present [("dialect", some c.dialect.toToml.toJson),
          ("compare", some (Toml.table members).toJson)]) := rfl
  rw [ofToml?, written, ofJson?]
  refine Json.bind_record?_present rfl (by decide) fun w hw => ?_
  rw [w.defaulted_of_get? c.dialect.ofJson?_toJson (hw.get? (by simp)),
    w.defaulted_of_get? compare (hw.get? (by simp))]
  simp only [Option.bind_eq_bind, Option.bind_some]
  rw [w'.defaulted_of_get? (namesOfJson?_toJson c.kinds) (holds.get? (by simp)),
    w'.defaulted_of_get? c.membersOf?_suppressedMembers (holds.get? (by simp)),
    w'.defaulted_of_get? (c.listOf?_aliases true) (holds.get? (by simp)),
    w'.defaulted_of_get? (Json.bool?_bool c.includeCatalog) (holds.get? (by simp)),
    w'.defaulted_of_get? (Json.bool?_bool c.columnOrder) (holds.get? (by simp))]
  simp [Keyed.ofList_of_sorted c.sorted]

end Config

end SchemaDelta
