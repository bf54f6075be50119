import SchemaDelta.Json.Record
import SchemaDelta.Proofs.Keyed

/-!
# Reading back what was written

A record is written as an object of the members that have a value, in which every name it
is read by is found again. So it reads back when its members do. A value of any JSON reads
back because it is settled already: its members are in order, and it has no part without a
value.

## Main definitions

* `Json.present` — the members that have a value.
* `Json.Record.Holds` — what a reader finds in a record.
* `Json.ReadsBack` — what was read once is read again when it is written.
-/

namespace SchemaDelta.Json

/-! ## Members that have a value -/

/-- The members that have a value. -/
def present (fields : List (String × Option Json)) : List (String × Json) :=
  fields.filterMap fun f => f.2.map (f.1, ·)

variable {fields : List (String × Option Json)} {name : String}

theorem cons_present (j : Json) : (name, j) :: present fields = present ((name, some j) :: fields) :=
  rfl

theorem singleton_eq_present (j : Json) : [(name, j)] = present [(name, some j)] := rfl

theorem present_append (f : String × Option Json) :
    present [f] ++ present fields = present (f :: fields) :=
  (List.filterMap_append (l := [f])).symm

theorem optionalMember_eq_present {α : Type} (value : Option α) (write : α → Json) :
    optionalMember name value write = present [(name, value.map write)] := by
  cases value <;> rfl

theorem textMember_eq_present (value : Option String) :
    textMember name value = present [(name, value.map .string)] :=
  optionalMember_eq_present value _

theorem flagMember_eq_present (value : Option Bool) :
    flagMember name value = present [(name, value.map .bool)] :=
  optionalMember_eq_present value _

theorem names_present (fields : List (String × Option Json)) :
    ((present fields).map Prod.fst).Sublist (fields.map Prod.fst) := by
  induction fields with
  | nil => exact .slnil
  | cons f rest ih =>
    obtain ⟨name, value⟩ := f
    cases value with
    | none => exact ih.cons name
    | some j => exact ih.cons_cons name

/-- Each member that has a value is found under its name. -/
theorem lookup_present {value : Option Json} (distinct : (fields.map Prod.fst).Nodup)
    (h : (name, value) ∈ fields) : (present fields).lookup name = value := by
  induction fields with
  | nil => cases h
  | cons f rest ih =>
    obtain ⟨first, held⟩ := f
    obtain ⟨fresh, others⟩ := List.nodup_cons.1 distinct
    rcases List.mem_cons.1 h with same | later
    · obtain ⟨rfl, rfl⟩ := Prod.mk.inj same
      cases value with
      | some j => exact List.lookup_cons_self
      | none =>
        refine List.lookup_eq_none_iff.2 fun m hm => bne_iff_ne.2 fun same => fresh ?_
        rw [same]
        exact (names_present rest).subset (List.mem_map_of_mem hm)
    · have other : name ≠ first := by
        rintro rfl
        exact fresh (List.mem_map.2 ⟨_, later, rfl⟩)
      cases held with
      | none => exact ih others later
      | some j =>
        rw [← cons_present, List.lookup_cons, beq_false_of_ne other]
        exact ih others later

/-- A record that was given as an object, with these members. -/
structure Record.Holds (w : Record) (fields : List (String × Option Json)) : Prop where
  named : w.positional = false
  get? {name : String} {value : Option Json} : (name, value) ∈ fields → w.get? name = value

/-- A record that is written has its members when it is read. -/
theorem exists_record?_present {names : List String} (order : fields.map Prod.fst = names)
    (distinct : names.Nodup) (loose : Bool) :
    ∃ w, (object (present fields)).record? names loose = some w ∧ w.Holds fields := by
  subst order
  have known : (present fields).filter (fun m => (fields.map Prod.fst).contains m.1) =
      present fields := by
    refine List.filter_eq_self.2 fun m hm => List.contains_iff_mem.2 ?_
    exact (names_present fields).subset (List.mem_map_of_mem hm)
  refine ⟨⟨false, present fields⟩, ?_, rfl, lookup_present distinct⟩
  rw [record?, known]
  exact if_pos ((names_present fields).nodup distinct)

theorem bind_record?_present {α : Type} {names : List String} {loose : Bool}
    {read : Record → Option α} {x : α} (order : fields.map Prod.fst = names)
    (distinct : names.Nodup) (h : ∀ w : Record, w.Holds fields → read w = some x) :
    ((object (present fields)).record? names loose).bind read = some x := by
  obtain ⟨w, hw, holds⟩ := exists_record?_present order distinct loose
  rw [hw, Option.bind_some, h w holds]

/-! ## Members that read back -/

/-- What was read once is read again when it is written, and only `null` is written as `null`. -/
structure ReadsBack {α : Type} (read : Json → Option α) (write : α → Json) : Prop where
  back {j : Json} {x : α} : read j = some x → read (write x) = some x
  null {j : Json} {x : α} : read j = some x → write x = .null → j = .null

namespace Record

variable {α : Type} {w : Record} {read : Json → Option α} {write : α → Json}

theorem required_of_get? {j : Json} {x : α} (h : read j = some x) (hw : w.get? name = some j) :
    w.required name read = some x := by
  rw [required, hw, Option.bind_some, h]

theorem defaulted_of_get? {j : Json} {x value : α} (h : read j = some x)
    (hw : w.get? name = some j) : w.defaulted name value read = some x := by
  rw [defaulted, hw]
  exact h

theorem optional_of_ne_null {j : Json} (h : w.get? name = some j) (hj : j ≠ .null) :
    w.optional name read = (read j).map some := by
  rw [optional, h]
  cases j with
  | null => exact absurd rfl hj
  | _ => rfl

/-- A member that was left out when it had no value is read as it was. -/
theorem optional_of_get? {value : Option α} (h : w.get? name = value.map write)
    (back : ∀ x ∈ value, read (write x) = some x ∧ write x ≠ .null) :
    w.optional name read = some value := by
  cases value with
  | none => rw [optional, h, Option.map_none]
  | some x =>
    obtain ⟨back, notNull⟩ := back x rfl
    rw [optional_of_ne_null h notNull, back, Option.map_some]

/-- From an object a member that may be `null` may also be missing. -/
theorem Holds.nullable (hw : w.Holds fields) (name : String) (read : Json → Option α) :
    w.nullable name read = w.optional name read := by
  rw [Record.nullable, hw.named]
  rfl

end Record

namespace ReadsBack

variable {α : Type} {r w : Record} {read : Json → Option α} {write : α → Json}

theorem required {x : α} (back : ReadsBack read write) (h : r.required name read = some x)
    (hw : w.get? name = some (write x)) : w.required name read = some x := by
  obtain ⟨j, -, hj⟩ := Option.bind_eq_some_iff.1 h
  exact Record.required_of_get? (back.back hj) hw

theorem optional {value : Option α} (back : ReadsBack read write)
    (h : r.optional name read = some value) (hw : w.get? name = value.map write) :
    w.optional name read = some value := by
  refine Record.optional_of_get? hw fun x hx => ?_
  obtain rfl := Option.mem_def.1 hx
  -- the member was there, and was not `null`
  obtain ⟨j, hj, notNull⟩ : ∃ j, read j = some x ∧ j ≠ .null := by
    unfold Record.optional at h
    split at h
    · cases h
    · cases h
    · next j notNull _ =>
      obtain ⟨x', hj, same⟩ := Option.map_eq_some_iff.1 h
      exact ⟨j, Option.some.inj same ▸ hj, notNull⟩
  exact ⟨back.back hj, fun isNull => notNull (back.null hj isNull)⟩

theorem defaulted {x value : α} (back : ReadsBack read write)
    (default : read (write value) = some value) (h : r.defaulted name value read = some x)
    (hw : w.get? name = some (write x)) : w.defaulted name value read = some x := by
  refine Record.defaulted_of_get? ?_ hw
  unfold Record.defaulted at h
  split at h
  · obtain rfl := Option.some.inj h
    exact default
  · exact back.back h

end ReadsBack

/-! ## Values that read back -/

/-- Items that are read as some values each are read as the list of them. -/
theorem mapM_map {α β γ : Type} {write : α → β} {read : β → Option γ} {value : α → γ} {xs : List α}
    (h : ∀ x ∈ xs, read (write x) = some (value x)) :
    (xs.map write).mapM read = some (xs.map value) := by
  induction xs with
  | nil => rfl
  | cons x rest ih =>
    have hrest := ih fun x hx => h x (List.mem_cons_of_mem _ hx)
    rw [List.map_cons, List.mapM_cons, h x List.mem_cons_self, hrest]
    rfl

theorem exists_of_mem_mapM {α β : Type} {f : α → Option β} {xs : List α} {ys : List β}
    (h : xs.mapM f = some ys) {y : β} (hy : y ∈ ys) : ∃ x ∈ xs, f x = some y := by
  induction xs generalizing ys with
  | nil =>
    cases h
    cases hy
  | cons x xs ih =>
    simp only [List.mapM_cons, Option.bind_eq_bind, Option.bind_eq_some_iff, Option.pure_def,
      Option.some.injEq] at h
    obtain ⟨z, hz, zs, hzs, rfl⟩ := h
    rcases List.mem_cons.1 hy with rfl | hy
    · exact ⟨x, List.mem_cons_self, hz⟩
    · obtain ⟨x, hx, hy⟩ := ih hzs hy
      exact ⟨x, List.mem_cons_of_mem _ hx, hy⟩

theorem listOf?_map {α β : Type} {write : α → Json} {read : Json → Option β} {value : α → β}
    {xs : List α} (h : ∀ x ∈ xs, read (write x) = some (value x)) :
    (array (xs.map write)).listOf? read = some (xs.map value) :=
  mapM_map h

namespace ReadsBack

theorem text : ReadsBack string? .string where
  back _ := rfl
  null _ h := by cases h

theorem flag : ReadsBack bool? .bool where
  back _ := rfl
  null _ h := by cases h

theorem int64 : ReadsBack int64? .integer where
  back {j n} h := by
    cases j with
    | integer m =>
      obtain ⟨-, same⟩ := Option.ite_none_right_eq_some.1 h
      exact Option.some.inj same ▸ h
    | _ => cases h
  null _ h := by cases h

variable {α : Type} {read : Json → Option α} {write : α → Json}

theorem list (back : ReadsBack read write) :
    ReadsBack (listOf? read) fun xs => .array (xs.map write) where
  back {j xs} h := by
    cases j with
    | array js =>
      have each : ∀ x ∈ xs, read (write x) = some (id x) := by
        intro x hx
        obtain ⟨j, -, hj⟩ := exists_of_mem_mapM h hx
        exact back.back hj
      rw [listOf?_map each, List.map_id]
    | _ => cases h
  null _ h := nomatch h

end ReadsBack

/-! ## Settled values -/

theorem settleItems?_eq_self {items : List Json} (h : ∀ j ∈ items, j.settle? = some j) :
    settleItems? items = some items := by
  induction items with
  | nil => rfl
  | cons j rest ih =>
    have hrest := ih fun j hj => h j (List.mem_cons_of_mem _ hj)
    rw [settleItems?, h j List.mem_cons_self, hrest]

theorem settleMembers?_eq_self {members : List (String × Json)}
    (h : ∀ m ∈ members, m.2.settle? = some m.2) : settleMembers? members = some members := by
  induction members with
  | nil => rfl
  | cons m rest ih =>
    have hrest := ih fun m hm => h m (List.mem_cons_of_mem _ hm)
    rw [settleMembers?, h m List.mem_cons_self, hrest]

/-- Members that are settled and in order make a settled value. -/
theorem settle?_object {members : List (String × Json)} (sorted : Keyed.Sorted members)
    (h : ∀ m ∈ members, m.2.settle? = some m.2) :
    (object members).settle? = some (.object members) := by
  rw [settle?, settleMembers?_eq_self h, Option.map_some, Keyed.ofList_of_sorted sorted]

mutual

/-- What a tree stands for stands for itself. -/
theorem settle?_of_settle? : (j : Json) → {v : Json} → j.settle? = some v → v.settle? = some v
  | .null, _, h | .bool _, _, h | .integer _, _, h | .float _ _, _, h | .string _, _, h => by
    obtain rfl := Option.some.inj h
    rfl
  | .array items, _, h => by
    obtain ⟨vs, hvs, rfl⟩ := Option.map_eq_some_iff.1 h
    have settled := settle?_of_settleItems? items hvs
    rw [settle?, settleItems?_eq_self settled, Option.map_some]
  | .object members, _, h => by
    obtain ⟨ms, hms, rfl⟩ := Option.map_eq_some_iff.1 h
    have settled := settle?_of_settleMembers? members hms
    exact settle?_object (Keyed.sorted_ofList ms) fun m hm =>
      settled m (Keyed.mem_of_mem_ofList hm)
  | .unreadable, _, h => nomatch h

theorem settle?_of_settleItems? : (items : List Json) → {vs : List Json} →
    settleItems? items = some vs → ∀ v ∈ vs, v.settle? = some v
  | [], _, h => by
    obtain rfl := Option.some.inj h
    exact fun _ hv => absurd hv List.not_mem_nil
  | j :: rest, _, h => by
    rw [settleItems?] at h
    split at h
    · next v vs hv hvs =>
      obtain rfl := Option.some.inj h
      exact List.forall_mem_cons.2
        ⟨settle?_of_settle? j hv, settle?_of_settleItems? rest hvs⟩
    · cases h

theorem settle?_of_settleMembers? : (members : List (String × Json)) →
    {ms : List (String × Json)} → settleMembers? members = some ms →
    ∀ m ∈ ms, m.2.settle? = some m.2
  | [], _, h => by
    obtain rfl := Option.some.inj h
    exact fun _ hm => absurd hm List.not_mem_nil
  | (k, j) :: rest, _, h => by
    rw [settleMembers?] at h
    split at h
    · next v ms hv hms =>
      obtain rfl := Option.some.inj h
      exact List.forall_mem_cons.2
        ⟨settle?_of_settle? j hv, settle?_of_settleMembers? rest hms⟩
    · cases h

end

theorem ReadsBack.settled : ReadsBack settle? id where
  back h := settle?_of_settle? _ h
  null {j v} h isNull := by
    cases j with
    | null => rfl
    | array items =>
      obtain ⟨vs, -, rfl⟩ := Option.map_eq_some_iff.1 h
      cases isNull
    | object members =>
      obtain ⟨ms, -, rfl⟩ := Option.map_eq_some_iff.1 h
      cases isNull
    | unreadable => cases h
    | _ =>
      obtain rfl := Option.some.inj h
      cases isNull

theorem mapOf?_settle? (members : List (String × Json)) :
    (object members).mapOf? settle? = (settleMembers? members).map Keyed.ofList := by
  suffices membersOf? settle? (object members) = settleMembers? members by rw [mapOf?, this]
  induction members with
  | nil => rfl
  | cons m rest ih =>
    obtain ⟨k, j⟩ := m
    rw [membersOf?] at ih ⊢
    rw [List.mapM_cons, ih, settleMembers?]
    cases j.settle? with
    | none => rfl
    | some v =>
      cases settleMembers? rest with
      | none => rfl
      | some vs => rfl

theorem ReadsBack.settledMembers : ReadsBack (mapOf? settle?) .object where
  back {j members} h := by
    cases j with
    | object ms =>
      rw [mapOf?_settle?] at h
      obtain ⟨vs, hvs, rfl⟩ := Option.map_eq_some_iff.1 h
      have settled := settle?_of_settleMembers? ms hvs
      rw [mapOf?_settle?, settleMembers?_eq_self fun m hm =>
        settled m (Keyed.mem_of_mem_ofList hm), Option.map_some,
        Keyed.ofList_of_sorted (Keyed.sorted_ofList vs)]
    | _ => cases h
  null _ h := by cases h

end SchemaDelta.Json
