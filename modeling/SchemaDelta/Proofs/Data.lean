import SchemaDelta.Proofs.Alike
import SchemaDelta.Proofs.Resolved

/-!
# Data in documents

Custom attributes and default values are data, which objects take over as values. There is
no `nan` among data, so that every value of an object of a document equals itself.

## Main definitions

* `Value.isData`, `Object.HoldsData` — values that a document can state.
-/

namespace SchemaDelta

namespace Value

mutual

/-- Texts, truth values, numbers, and lists of data. -/
def isData : Value → Bool
  | text _ | bool _ | number _ => true
  | list items => allData items
  | dataType _ | autoIncrement _ | object _ => false

def allData : List Value → Bool
  | [] => true
  | v :: rest => v.isData && allData rest

end

mutual

theorem isData_ofJson : (j : Json) → (ofJson j).isData = true
  | .null | .bool _ | .integer _ | .float _ _ | .string _ | .object _ | .unreadable => rfl
  | .array items => allData_ofJsonItems items

theorem allData_ofJsonItems : (items : List Json) → allData (ofJsonItems items) = true
  | [] => rfl
  | j :: rest => Bool.and_eq_true_iff.2 ⟨isData_ofJson j, allData_ofJsonItems rest⟩

end

mutual

/-- Data is never `nan`, for which JSON has no text. -/
theorem hasNan_ofJson : (j : Json) → (ofJson j).hasNan = false
  | .null | .bool _ | .string _ | .object _ | .unreadable => rfl
  | .integer _ => by
    rw [ofJson, hasNan]
    split <;> rfl
  | .float (.finite ..) _ => rfl
  | .array items => anyNan_ofJsonItems items

theorem anyNan_ofJsonItems : (items : List Json) → anyNan (ofJsonItems items) = false
  | [] => rfl
  | j :: rest => Bool.or_eq_false_iff.2 ⟨hasNan_ofJson j, anyNan_ofJsonItems rest⟩

end

end Value

/-- The custom attributes of an object, and its default value, are data. -/
structure Object.HoldsData (o : Object) : Prop where
  attributes : ∀ a ∈ o.attributes, a.2.isData = true
  defaultValue : ∀ c, o = .column c → ∀ v ∈ c.defaultValue, v.isData = true

theorem Object.HoldsData.isData {o : Object} (h : o.HoldsData) {f : Field} {v : Value}
    (left : f.isOpen = true) (hv : o.get? f = some v) : v.isData = true :=
  o.forall_open h.attributes h.defaultValue left hv

namespace Document

variable {D : Document} {origin : Nat} {s : Snapshot} {o : Object}

theorem exists_json_of_mem_objectAttributes {attributes : Attributes} :
    ∀ a ∈ objectAttributes attributes, ∃ j, a.2 = Value.ofJson j := by
  intro a ha
  obtain ⟨b, -, rfl⟩ := List.mem_map.1 ha
  exact ⟨b.2, rfl⟩

/-- The custom attributes of objects are made of data. -/
theorem exists_json_of_mem_attributes (hs : D.resolve origin = .ok s) (ho : o ∈ s.objects) :
    ∀ a ∈ o.attributes, ∃ j, a.2 = Value.ofJson j := by
  obtain ⟨x, rfl⟩ := resolve_eq_ok.1 hs
  have none : ∀ a ∈ ([] : SchemaDelta.Attributes), ∃ j, a.2 = Value.ofJson j := by simp
  cases o with
  | catalog c =>
    obtain ⟨e, -, rfl⟩ : ∃ e ∈ D.catalogs.zipIdx, resolveCatalog origin e.2 e.1 = c := by
      simpa [Sections.snapshot, catalogObjects] using ho
    exact none
  | schema y =>
    obtain ⟨e, -, _, step⟩ :=
      mem_resolveAll x.resolveSchemas (by simpa [Sections.snapshot] using ho)
    rw [Object.attributes, attributes_of_resolveSchema step]
    exact none
  | table t =>
    obtain ⟨e, -, _, step⟩ :=
      mem_resolveAll x.resolveTables (by simpa [Sections.snapshot] using ho)
    rw [Object.attributes, attributes_of_resolveTable step]
    exact exists_json_of_mem_objectAttributes
  | column c =>
    obtain ⟨e, -, _, step⟩ :=
      mem_resolveAll x.resolveColumns (by simpa [Sections.snapshot] using ho)
    rw [Object.attributes, (data_of_resolveColumn step).1]
    exact exists_json_of_mem_objectAttributes
  | index i =>
    obtain ⟨e, -, _, step⟩ :=
      mem_resolveAll x.resolveIndexes (by simpa [Sections.snapshot] using ho)
    rw [Object.attributes, attributes_of_resolveIndex step]
    exact exists_json_of_mem_objectAttributes
  | primaryKey k =>
    obtain ⟨e, -, _, step⟩ :=
      mem_resolveAll x.resolvePrimaryKeys (by simpa [Sections.snapshot] using ho)
    rw [Object.attributes, attributes_of_resolvePrimaryKey step]
    exact exists_json_of_mem_objectAttributes
  | foreignKey k =>
    obtain ⟨e, -, _, step⟩ :=
      mem_resolveAll x.resolveForeignKeys (by simpa [Sections.snapshot] using ho)
    rw [Object.attributes, attributes_of_resolveForeignKey step]
    exact exists_json_of_mem_objectAttributes
  | uniqueConstraint u =>
    obtain ⟨e, -, _, step⟩ :=
      mem_resolveAll x.resolveUniqueConstraints (by simpa [Sections.snapshot] using ho)
    rw [Object.attributes, attributes_of_resolveUniqueConstraint step]
    exact exists_json_of_mem_objectAttributes

/-- Default values are made of data. -/
theorem exists_json_of_defaultValue (hs : D.resolve origin = .ok s) {c : Column}
    (hc : .column c ∈ s.objects) : ∀ v ∈ c.defaultValue, ∃ j, v = Value.ofJson j := by
  obtain ⟨x, rfl⟩ := resolve_eq_ok.1 hs
  obtain ⟨e, -, _, step⟩ :=
      mem_resolveAll x.resolveColumns (by simpa [Sections.snapshot] using hc)
  intro v hv
  rw [(data_of_resolveColumn step).2] at hv
  obtain ⟨j, -, rfl⟩ := Option.map_eq_some_iff.1 hv
  exact ⟨j, rfl⟩

/-- The objects of a document hold no `nan`. -/
theorem withoutNan_of_mem (hs : D.resolve origin = .ok s) (ho : o ∈ s.objects) :
    o.WithoutNan := by
  apply Object.withoutNan
  · intro a ha
    obtain ⟨j, same⟩ := exists_json_of_mem_attributes hs ho a ha
    rw [same]
    exact Value.hasNan_ofJson j
  · rintro c rfl v hv
    obtain ⟨j, rfl⟩ := exists_json_of_defaultValue hs ho v hv
    exact Value.hasNan_ofJson j

/-- The objects of a document hold data only, where that is left to the document. -/
theorem holdsData_of_mem (hs : D.resolve origin = .ok s) (ho : o ∈ s.objects) : o.HoldsData where
  attributes := by
    intro a ha
    obtain ⟨j, same⟩ := exists_json_of_mem_attributes hs ho a ha
    rw [same]
    exact Value.isData_ofJson j
  defaultValue := by
    rintro c rfl v hv
    obtain ⟨j, rfl⟩ := exists_json_of_defaultValue hs ho v hv
    exact Value.isData_ofJson j

end Document

end SchemaDelta
