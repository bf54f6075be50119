import Mathlib.Algebra.Order.BigOperators.Group.List
import SchemaDelta.Proofs.Arranged
import SchemaDelta.Proofs.Suppression
import SchemaDelta.Proofs.Totality
import SchemaDelta.Proofs.Written

/-!
# Reports that are read back

A report that can be stored is read back from its text, but for the fields of its differences:
they are written under their names, and a name stands for the well-known field that has it. So a
custom attribute that carries the name of a well-known field comes back as that field, and
everything else as it was.

## Main definitions

* `Report.reread` — a report as it is read back.
* `Report.Storable` — the numbers of a report have the size of the layout, and its parts are in
  order.
-/

namespace SchemaDelta

/-! ## Names -/

namespace Field

theorem ofText_text_eq_self_iff {f : Field} :
    ofText f.text = f ↔ ∀ key, f = custom key → key ∉ known.map text := by
  constructor
  · rintro same key rfl shadows
    -- the name finds a well-known field, which is no custom one
    obtain ⟨g, hg, named⟩ := List.mem_map.1 shadows
    have plain : ∀ g ∈ known, g.isCustom = false := by decide
    have found : ofText key = g := named ▸ ofText_text (plain g hg)
    have plain := plain g hg
    rw [← found] at plain
    rw [text] at same
    rw [same] at plain
    cases plain
  · intro apart
    rcases f.eq_ofText_or_shadows with same | ⟨custom, shadows⟩
    · exact same.symm
    · exact absurd shadows (apart _ custom)

end Field

theorem Kind.ofName?_name (k : Kind) : ofName? k.name = some k := by
  cases k <;> decide

namespace Report

variable {r : Report} {timestamp : String} {f : Findings}

/-! ## What is read back -/

def DifferenceEntry.reread (d : DifferenceEntry) : DifferenceEntry :=
  { d with field := .ofText d.field.text }

def Entry.reread (e : Entry) : Entry := { e with differences := e.differences.map .reread }

/-- A report as it is read back: the fields of its differences are those that their names stand
for. -/
def reread (r : Report) : Report :=
  { r with
    missing := r.missing.map .reread
    unexpected := r.unexpected.map .reread
    changed := r.changed.map .reread }

/-- The counts have the size of the layout. -/
structure Counts.Bounded (c : Counts) : Prop where
  missing : c.missing < bound
  unexpected : c.unexpected < bound
  changed : c.changed < bound

/-- Numbers have the size of the layout, kinds are in order, and metadata stands for itself. -/
structure Storable (r : Report) : Prop where
  major : r.version.major < UInt32.size
  minor : r.version.minor < UInt32.size
  total : r.total.Bounded
  counts : ∀ c ∈ r.byKind, c.2.Bounded
  sorted : Keyed.Sorted r.byKind
  metadata : ∀ j ∈ r.metadata, j.settle? = some j ∧ j ≠ .null

/-! ## The parts of a report -/

section Parts

variable {w : Json.Record} {name : String}

theorem required_text (t : String) (h : w.get? name = some (.string t)) :
    w.required name Json.string? = some t :=
  Json.Record.required_of_get? rfl h

theorem optional_text (t : Option String) (h : w.get? name = t.map .string) :
    w.optional name Json.string? = some t :=
  Json.Record.optional_of_get? h fun _ _ => ⟨rfl, by simp⟩

theorem required_nat {bound n : Nat} (hn : n < bound) (h : w.get? name = some (.integer n)) :
    w.required name (Json.natBelow? bound) = some n := by
  refine Json.Record.required_of_get? ?_ h
  rw [Json.natBelow?, if_pos (by simpa using hn), Int.toNat_natCast]

theorem sidesOfJson?_sidesToJson (s : Sides) : sidesOfJson? (sidesToJson s) = some s := by
  obtain ⟨reference, comparison⟩ := s
  cases reference <;> cases comparison <;> rfl

theorem Version.ofJson?_toJson {v : Version} (major : v.major < UInt32.size)
    (minor : v.minor < UInt32.size) : ofJson? v.toJson = some v := by
  simp only [toJson, Json.singleton_eq_present, Json.cons_present]
  rw [ofJson?]
  refine Json.bind_record?_present (by rfl) (by decide) fun w hw => ?_
  rw [required_nat major (hw.get? (by simp)), required_nat minor (hw.get? (by simp))]
  rfl

theorem Counts.ofRecord?_of_holds {c : Counts} {fields : List (String × Option Json)}
    (h : c.Bounded) (hw : w.Holds fields) (missing : ("missing", some (.integer c.missing)) ∈ fields)
    (unexpected : ("unexpected", some (.integer c.unexpected)) ∈ fields)
    (changed : ("changed", some (.integer c.changed)) ∈ fields) : ofRecord? w = some c := by
  rw [ofRecord?, required_nat h.missing (hw.get? missing),
    required_nat h.unexpected (hw.get? unexpected), required_nat h.changed (hw.get? changed)]
  rfl

theorem Counts.ofJson?_toJson {c : Counts} (h : c.Bounded) : ofJson? c.toJson = some c := by
  simp only [toJson, members, Json.singleton_eq_present, Json.cons_present]
  rw [ofJson?]
  refine Json.bind_record?_present (by rfl) (by decide) fun w hw => ?_
  exact ofRecord?_of_holds h hw (by simp) (by simp) (by simp)

theorem byKindOfJson?_byKindToJson {byKind : List (Kind × Counts)}
    (counts : ∀ c ∈ byKind, c.2.Bounded) (sorted : Keyed.Sorted byKind) :
    byKindOfJson? (byKindToJson byKind) = some byKind := by
  have read : ∀ c ∈ byKind, (do return (← Kind.ofName? c.1.name, ← Counts.ofJson? c.2.toJson)) =
      some (id c) := by
    intro c hc
    rw [Kind.ofName?_name, Counts.ofJson?_toJson (counts c hc)]
    rfl
  rw [byKindToJson, byKindOfJson?, Json.mapM_map read, List.map_id, Option.map_some,
    Keyed.ofList_of_sorted sorted]

theorem DifferenceEntry.ofJson?_toJson (d : DifferenceEntry) :
    ofJson? d.toJson = some d.reread := by
  simp only [toJson, ↓List.append_assoc, ↓List.cons_append, Json.textMember_eq_present,
    Json.singleton_eq_present, Json.cons_present, Json.present_append]
  rw [ofJson?]
  refine Json.bind_record?_present (by rfl) (by decide) fun w hw => ?_
  rw [hw.nullable, hw.nullable, required_text d.field.text (hw.get? (by simp)),
    optional_text d.reference (hw.get? (by simp)), optional_text d.comparison (hw.get? (by simp)),
    required_text d.message (hw.get? (by simp))]
  rfl

theorem Entry.ofJson?_toJson (e : Entry) : ofJson? e.toJson = some e.reread := by
  have member : (if e.differences.isEmpty then []
      else [("differences", Json.array (e.differences.map DifferenceEntry.toJson))]) =
      Json.present [("differences", if e.differences.isEmpty then none
        else some (.array (e.differences.map DifferenceEntry.toJson)))] := by
    split <;> rfl
  simp only [toJson, ↓List.cons_append, member, Json.textMember_eq_present,
    Json.cons_present, Json.present_append]
  rw [ofJson?]
  refine Json.bind_record?_present (by rfl) (by decide) fun w hw => ?_
  have kind : w.required "kind" (Json.choice? Kind.ofName?) = some e.kind :=
    Json.Record.required_of_get? (j := .string e.kind.name) e.kind.ofName?_name (hw.get? (by simp))
  have differences : w.defaulted "differences" [] (Json.listOf? DifferenceEntry.ofJson?) =
      some (e.differences.map .reread) := by
    have held : w.get? "differences" = if e.differences.isEmpty then none
        else some (.array (e.differences.map DifferenceEntry.toJson)) := hw.get? (by simp)
    split at held
    · next empty =>
      rw [Json.Record.defaulted, held, List.isEmpty_iff.1 empty]
      rfl
    · exact Json.Record.defaulted_of_get?
        (Json.listOf?_map fun d _ => DifferenceEntry.ofJson?_toJson d) held
  rw [hw.nullable, kind, required_text e.object (hw.get? (by simp)),
    optional_text e.comparison (hw.get? (by simp)), differences]
  rfl

theorem required_entries (es : List Entry)
    (h : w.get? name = some (.array (es.map Entry.toJson))) :
    w.required name (Json.listOf? Entry.ofJson?) = some (es.map .reread) :=
  Json.Record.required_of_get? (Json.listOf?_map fun e _ => Entry.ofJson?_toJson e) h

end Parts

/-! ## Reports -/

theorem ofJson?_toJson (h : r.Storable) : ofJson? r.toJson = some r.reread := by
  obtain ⟨s, hs, summary⟩ : ∃ s, (Json.object (Json.present
        [("missing", some (.integer r.total.missing)),
          ("unexpected", some (.integer r.total.unexpected)),
          ("changed", some (.integer r.total.changed)),
          ("by_kind", some (byKindToJson r.byKind))])).record?
      ["missing", "unexpected", "changed", "by_kind"] false = some s ∧ s.Holds _ :=
    Json.exists_record?_present (by rfl) (by decide) false
  simp only [toJson, Counts.members]
  simp only [↓List.cons_append, List.nil_append, Json.optionalMember_eq_present,
    Json.singleton_eq_present, Json.cons_present]
  rw [ofJson?]
  refine Json.bind_record?_present (by rfl) (by decide) fun w hw => ?_
  have version : w.required "version" Version.ofJson? = some r.version :=
    Json.Record.required_of_get? (Version.ofJson?_toJson h.major h.minor) (hw.get? (by simp))
  have productName : w.required "product_name" sidesOfJson? = some r.productName :=
    Json.Record.required_of_get? (sidesOfJson?_sidesToJson _) (hw.get? (by simp))
  have productVersion : w.required "product_version" sidesOfJson? = some r.productVersion :=
    Json.Record.required_of_get? (sidesOfJson?_sidesToJson _) (hw.get? (by simp))
  have total : Counts.ofRecord? s = some r.total :=
    Counts.ofRecord?_of_holds h.total summary (by simp) (by simp) (by simp)
  have byKind : s.required "by_kind" byKindOfJson? = some r.byKind :=
    Json.Record.required_of_get? (byKindOfJson?_byKindToJson h.counts h.sorted)
      (summary.get? (by simp))
  have metadata : w.optional "metadata" Json.settle? = some r.metadata :=
    Json.Record.optional_of_get? (hw.get? (by simp)) h.metadata
  rw [Json.Record.required_of_get? hs (hw.get? (by simp)), Option.bind_eq_bind, Option.bind_some]
  dsimp only
  rw [version, required_text r.timestamp (hw.get? (by simp)), productName, productVersion, total,
    byKind, required_entries r.missing (hw.get? (by simp)),
    required_entries r.unexpected (hw.get? (by simp)),
    required_entries r.changed (hw.get? (by simp)), hw.nullable, metadata]
  rfl

/-! ## What stays the same -/

theorem map_eq_self_iff {α : Type} {change : α → α} {xs : List α} :
    xs.map change = xs ↔ ∀ x ∈ xs, change x = x := by
  simpa using List.map_inj_left (f := change) (g := id) (l := xs)

theorem DifferenceEntry.reread_eq_self_iff {d : DifferenceEntry} :
    d.reread = d ↔ .ofText d.field.text = d.field := by
  constructor
  · exact congrArg field
  · intro h
    rw [reread, h]

theorem Entry.reread_eq_self_iff {e : Entry} :
    e.reread = e ↔ ∀ d ∈ e.differences, .ofText d.field.text = d.field := by
  simp only [← DifferenceEntry.reread_eq_self_iff, ← map_eq_self_iff]
  constructor
  · exact congrArg Entry.differences
  · intro h
    rw [reread, h]

theorem reread_eq_self_iff : r.reread = r ↔
    (∀ e ∈ r.missing, e.reread = e) ∧ (∀ e ∈ r.unexpected, e.reread = e) ∧
      ∀ e ∈ r.changed, e.reread = e := by
  simp only [← map_eq_self_iff]
  constructor
  · intro h
    exact ⟨congrArg missing h, congrArg unexpected h, congrArg changed h⟩
  · rintro ⟨hmissing, hunexpected, hchanged⟩
    rw [reread, hmissing, hunexpected, hchanged]

/-! ## The report of a run -/

section Run

variable {j : Judge} {p : Policy} {R C : Snapshot}

theorem mem_changed_ofFindings (h : compareSnapshots j p R C = .ok f) {e : Entry} :
    e ∈ (ofFindings f timestamp).changed ↔ ∃ c ∈ f.changed, .ofChanged c = e := by
  have perm := (arranges_arranged ChangedPair.reference (accounted_compareSnapshots h).changed).perm
  rw [changed_ofFindings h, List.mem_map]
  simp only [perm.mem_iff]

theorem map_field_ofChanged (c : ChangedPair) :
    (Entry.ofChanged c).differences.map (·.field) = c.ledger.fields := by
  simp only [Entry.ofChanged, Ledger.differences, List.map_map]
  rfl

theorem reread_ofChanged_eq_self_iff {c : ChangedPair} :
    (Entry.ofChanged c).reread = .ofChanged c ↔
      ∀ key, .custom key ∈ c.ledger.fields → key ∉ Field.known.map Field.text := by
  rw [Entry.reread_eq_self_iff, ← map_field_ofChanged]
  simp only [Field.ofText_text_eq_self_iff, List.mem_map]
  constructor
  · rintro apart key ⟨d, hd, custom⟩
    exact apart d hd key custom
  · intro apart d hd key custom
    exact apart key ⟨d, hd, custom⟩

/-- A report is read back as it was unless a difference is in a custom attribute that carries the
name of a well-known field. -/
theorem reread_ofFindings_eq_self_iff (h : compareSnapshots j p R C = .ok f) :
    (ofFindings f timestamp).reread = ofFindings f timestamp ↔
      ∀ c ∈ f.changed, ∀ key, .custom key ∈ c.ledger.fields → key ∉ Field.known.map Field.text := by
  have bare {found : List Object} :
      ∀ e ∈ (arranged id p.orderedKinds found).map .ofObject, Entry.reread e = e := by
    intro e he
    obtain ⟨o, -, rfl⟩ := List.mem_map.1 he
    rfl
  rw [reread_eq_self_iff, missing_ofFindings h, unexpected_ofFindings h]
  constructor
  · rintro ⟨-, -, same⟩ c hc
    exact reread_ofChanged_eq_self_iff.1 (same _ ((mem_changed_ofFindings h).2 ⟨c, hc, rfl⟩))
  · intro apart
    refine ⟨bare, bare, fun e he => ?_⟩
    obtain ⟨c, hc, rfl⟩ := (mem_changed_ofFindings h).1 he
    exact reread_ofChanged_eq_self_iff.2 (apart c hc)

/-- The parts of distinct keys are no more than the whole. -/
theorem sum_length_filter_le {α : Type} {key : α → Kind} {ks : List Kind} (distinct : ks.Nodup)
    (xs : List α) : (ks.map fun k => (xs.filter fun x => key x == k).length).sum ≤ xs.length := by
  induction ks generalizing xs with
  | nil => exact Nat.zero_le _
  | cons k ks ih =>
    obtain ⟨fresh, distinct⟩ := List.nodup_cons.1 distinct
    -- the other parts are parts of what is left without the first
    have rest (l : Kind) (hl : l ∈ ks) :
        (xs.filter fun x => !(key x == k)).filter (fun x => key x == l) =
          xs.filter fun x => key x == l := by
      rw [List.filter_filter]
      refine List.filter_congr fun x _ => ?_
      by_cases same : key x = l
      · have other : key x ≠ k := fun h => fresh (h ▸ same ▸ hl)
        simp [same, same ▸ other]
      · simp [same]
    have parts := ih distinct (xs.filter fun x => !(key x == k))
    rw [List.map_congr_left fun l hl => congrArg List.length (rest l hl)] at parts
    rw [List.map_cons, List.sum_cons,
      List.length_eq_length_filter_add (l := xs) fun x => key x == k]
    exact Nat.add_le_add_left parts _

theorem length_le_of_grouped {α : Type} {key : α → Kind} {xs : List α} {s : Snapshot}
    (h : Grouped key p.orderedKinds xs)
    (le : ∀ k ∈ p.orderedKinds, (xs.filter fun x => key x == k).length ≤ (s.ofKind k).length) :
    xs.length ≤ s.objects.length := by
  conv_lhs => rw [h, List.length_flatMap]
  exact (List.sum_le_sum le).trans (sum_length_filter_le (nodup_orderedKinds p) s.objects)

theorem length_missing_le (h : compareSnapshots j p R C = .ok f) :
    f.missing.length ≤ R.objects.length := by
  have accounted := accounted_compareSnapshots h
  refine length_le_of_grouped accounted.missing fun k hk => ?_
  obtain ⟨m, explains⟩ := accounted.explained k hk
  have told : (f.missingOf k).length ≤ m.unpairedReferences.length :=
    explains.missing ▸ List.length_filter_le ..
  have all := m.perm_references.length_eq
  rw [List.length_append] at all
  exact told.trans (by omega)

theorem length_unexpected_le (h : compareSnapshots j p R C = .ok f) :
    f.unexpected.length ≤ C.objects.length := by
  have accounted := accounted_compareSnapshots h
  refine length_le_of_grouped accounted.unexpected fun k hk => ?_
  obtain ⟨m, explains⟩ := accounted.explained k hk
  have told : (f.unexpectedOf k).length = m.unpairedObjects.length := by rw [explains.unexpected]
  have all := m.perm_objects.length_eq
  rw [List.length_append] at all
  exact told.trans_le (by omega)

theorem length_changed_le (h : compareSnapshots j p R C = .ok f) :
    f.changed.length ≤ R.objects.length := by
  have accounted := accounted_compareSnapshots h
  refine length_le_of_grouped accounted.changed fun k hk => ?_
  obtain ⟨m, explains⟩ := accounted.explained k hk
  obtain ⟨pairs, hpairs, changed⟩ := explains.changed
  have told : (f.changedOf k).length ≤ pairs.length := changed ▸ List.length_filter_le ..
  have paired := congrArg List.length (map_reference_of_compared hpairs)
  have all := m.perm_references.length_eq
  rw [List.length_append] at all
  rw [List.length_map] at paired
  exact told.trans (by omega)

/-- The report of a run can be stored. -/
theorem storable_ofFindings (h : compareSnapshots j p R C = .ok f)
    (hR : R.objects.length < UInt64.size) (hC : C.objects.length < UInt64.size)
    (timestamp : String) : (ofFindings f timestamp).Storable where
  major := (by decide : Version.current.major < UInt32.size)
  minor := (by decide : Version.current.minor < UInt32.size)
  total := by
    rw [total_ofFindings h]
    exact ⟨(length_missing_le h).trans_lt hR, (length_unexpected_le h).trans_lt hC,
      (length_changed_le h).trans_lt hR⟩
  counts := by
    rintro ⟨k, c⟩ hc
    obtain ⟨-, rfl, -⟩ := mem_byKind.1 hc
    exact ⟨(List.length_filter_le ..).trans_lt ((length_missing_le h).trans_lt hR),
      (List.length_filter_le ..).trans_lt ((length_unexpected_le h).trans_lt hC),
      (List.length_filter_le ..).trans_lt ((length_changed_le h).trans_lt hR)⟩
  sorted := Keyed.sorted_ofList _
  metadata _ hj := nomatch hj

/-- The report of the run of two documents is read back from its text, provided that a tree is
read from its own text. It comes back as it was unless a difference is in a custom attribute that
carries the name of a well-known field: that difference is then told of the well-known field. -/
theorem parse?_render_ofFindings {D E : Document} {n n' : Nat} (hR : D.resolve n = .ok R)
    (hC : E.resolve n' = .ok C) (countR : R.objects.length < UInt64.size)
    (countC : C.objects.length < UInt64.size) (d : Dialect) (p : Policy) (timestamp : String) :
    ∃ f, compareSnapshots ((Rulebook.builtin d).judge d p) p R C = .ok f ∧
      let r := ofFindings f timestamp
      ofJson? r.toJson = some r.reread ∧
        (Json.read? r.toJson.indented = some r.toJson → parse? r.render = some r.reread) ∧
        (r.reread = r ↔ ∀ c ∈ f.changed, ∀ key, .custom key ∈ c.ledger.fields →
          key ∉ Field.known.map Field.text) := by
  obtain ⟨f, run⟩ := exists_compareSnapshots_eq_ok (d := d) (p := p)
    (fun r hr => Document.holdsData_of_mem hR hr) fun c hc => Document.holdsData_of_mem hC hc
  have back := ofJson?_toJson (storable_ofFindings run countR countC timestamp)
  refine ⟨f, run, back, fun printed => ?_, reread_ofFindings_eq_self_iff run⟩
  rw [parse?, render, printed, Option.bind_some, back]

/-- A document of one table with a custom attribute `remarks`. -/
def noted (remarks : String) : Document where
  productName := none
  productVersion := none
  catalogs := []
  schemas := []
  tables := [⟨"t", none, none, none, none, [("remarks", .string remarks)]⟩]
  columns := []
  indexes := []
  primaryKeys := []
  foreignKeys := []
  uniqueConstraints := []

/-- The report of two such documents. -/
def notedReport : Report where
  version := .current
  timestamp := ""
  productName := ⟨none, none⟩
  productVersion := ⟨none, none⟩
  total := ⟨0, 0, 1⟩
  byKind := [(.table, ⟨0, 0, 1⟩)]
  missing := []
  unexpected := []
  changed := [⟨.table, "t", some "t",
    [⟨.custom "remarks", some "a", some "b", "remarks changed from 'a' to 'b'"⟩]⟩]
  metadata := none

theorem ofFindings_noted :
    ∃ R C, (noted "a").resolve 0 = .ok R ∧ (noted "b").resolve 1 = .ok C ∧
      R.objects.length = 1 ∧ C.objects.length = 1 ∧
      ∃ f, compareSnapshots ((Rulebook.builtin .postgres).judge .postgres .standard) .standard
          R C = .ok f ∧ ofFindings f "" = notedReport := by
  refine ⟨_, _, rfl, rfl, rfl, rfl, Fallible.map_eq_ok.1 ?_⟩
  rw [Rulebook.compareSnapshots_eq_scan (by decide +kernel)]
  decide +kernel

theorem read?_notedReport :
    Json.read? notedReport.toJson.indented = some notedReport.toJson := by
  -- the characters are put together as lists, which evaluate faster than texts
  rw [Json.read?, Json.tokens?]
  simp only [notedReport, toJson, Version.toJson, sidesToJson, Counts.members, Counts.toJson,
    byKindToJson, Entry.toJson, DifferenceEntry.toJson, Json.textMember, Json.optionalMember,
    List.isEmpty_cons, Bool.false_eq_true, ↓reduceIte, Json.indented, Json.indentedAt,
    Json.indentedMembers, Json.indentedItems, Json.block, String.toList_append,
    String.toList_intercalate, List.map_cons, List.map_nil, List.cons_append, List.nil_append]
  decide +kernel

theorem parse?_render_ofFindings_noted :
    ∃ R C f, (noted "a").resolve 0 = .ok R ∧ (noted "b").resolve 1 = .ok C ∧
      compareSnapshots ((Rulebook.builtin .postgres).judge .postgres .standard) .standard R C =
        .ok f ∧
      parse? (ofFindings f "").render = some (ofFindings f "").reread ∧
      (ofFindings f "").reread ≠ ofFindings f "" := by
  obtain ⟨R, C, hR, hC, countR, countC, f, run, report⟩ := ofFindings_noted
  obtain ⟨f', run', -, saved, -⟩ := parse?_render_ofFindings hR hC (by rw [countR]; decide)
    (by rw [countC]; decide) .postgres .standard ""
  obtain rfl := Except.ok.inj (run'.symm.trans run)
  refine ⟨R, C, f', hR, hC, run, ?_⟩
  rw [report] at saved ⊢
  exact ⟨saved read?_notedReport, by decide +kernel⟩

/-- A report is not read back as it was: a difference in a custom attribute `remarks` comes back as
one in the remarks. -/
theorem parse?_render_ne_noted :
    ∃ R C f, (noted "a").resolve 0 = .ok R ∧ (noted "b").resolve 1 = .ok C ∧
      compareSnapshots ((Rulebook.builtin .postgres).judge .postgres .standard) .standard R C =
        .ok f ∧
      parse? (ofFindings f "").render ≠ some (ofFindings f "") := by
  obtain ⟨R, C, hR, hC, -, -, f, run, report⟩ := ofFindings_noted
  refine ⟨R, C, f, hR, hC, run, ?_⟩
  rw [report, parse?, render, read?_notedReport]
  decide +kernel

end Run

end Report

end SchemaDelta
