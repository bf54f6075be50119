import SchemaDelta.Proofs.Folding
import SchemaDelta.Proofs.Owners

/-!
# Joined names

Foreign keys whose tables are all known go by the names of their columns, which are compared as
one text for each column list, the names set apart by commas. In that text a comma in a name is
like one between two names, and no column is like one without a name. So the lists agree when
the pieces between commas do, one by one. Case makes no difference to this: a comma is the image
of nothing else, and ends the look that decides what becomes of a capital sigma before it.

## Main definitions

* `Rule.ForeignKey.pieces` — what commas cut the names of some columns into.
* `Rule.ForeignKey.SameNames` — column lists of one length whose names agree pairwise.
* `Rule.ForeignKey.Legible` — joined names that tell where each of them ends.
-/

namespace SchemaDelta

variable {d : Dialect} {p : Policy}

/-! ## Texts and commas -/

namespace Text

/-- The pieces between the commas of a text. -/
def cut (s : String) : List String := (s.toList.splitOn ',').map String.ofList

theorem cut_of_not_mem {s : String} (h : ',' ∉ s.toList) : cut s = [s] := by
  rw [cut, List.splitOn_eq_singleton h, List.map_singleton, String.ofList_toList]

theorem cut_append (s t : String) : cut (s ++ "," ++ t) = cut s ++ cut t := by
  have text : (s ++ "," ++ t).toList = s.toList ++ ',' :: t.toList := by simp
  rw [cut, text, List.splitOn_append_cons_self, List.map_append, cut, cut]

theorem cut_injective {s t : String} (h : cut s = cut t) : s = t := by
  have pieces : s.toList.splitOn ',' = t.toList.splitOn ',' :=
    List.map_injective_iff.2 (fun _ _ => String.ofList_injective) h
  have joined := congrArg (List.intercalate [',']) pieces
  rw [List.intercalate_splitOn, List.intercalate_splitOn] at joined
  exact String.toList_inj.1 joined

theorem lower_append_comma (s t : String) : lower (s ++ "," ++ t) = lower s ++ "," ++ lower t := by
  have text : (s ++ "," ++ t).toList = s.toList ++ ',' :: t.toList := by simp
  rw [← String.toList_inj, lower, lower, lower, text, lowerChars,
    lowerFrom_append_caseless fixed_comma.caseless]
  simp [lowerChars]

end Text

/-! ## Names as the dialect compares them -/

/-- A name without the case that does not count. -/
def Dialect.folded (d : Dialect) (name : String) : String :=
  if d.caseSensitive then name else Text.lower name

namespace Dialect

variable {m n : String}

theorem namesEqual_iff : d.namesEqual m n = true ↔ d.folded m = d.folded n := by
  unfold namesEqual folded
  cases d.caseSensitive <;> simp [Text.sameIgnoringCase]

theorem folded_append_comma (m n : String) :
    d.folded (m ++ "," ++ n) = d.folded m ++ "," ++ d.folded n := by
  unfold folded
  split
  · rfl
  · exact Text.lower_append_comma m n

/-- A character that case leaves alone occurs as often whether or not case counts. -/
theorem count_folded {c : Char} (h : Text.Fixed c) (n : String) :
    (d.folded n).toList.count c = n.toList.count c := by
  unfold folded
  split
  · rfl
  · exact h.count_lower n

theorem comma_mem_folded (h : ',' ∈ (d.folded n).toList) : ',' ∈ n.toList := by
  rwa [← List.count_pos_iff, count_folded Text.fixed_comma, List.count_pos_iff] at h

theorem folded_empty : d.folded "" = "" := by
  unfold folded
  split <;> rfl

theorem folded_eq_empty (h : d.folded n = "") : n = "" := by
  unfold folded at h
  split at h
  · exact h
  · cases hn : n.toList with
    | nil => exact String.toList_inj.1 hn
    | cons c cs =>
      rw [Text.lower, Text.lowerChars, hn, Text.lowerFrom_cons] at h
      have image := (List.append_eq_nil_iff.1 (String.ofList_injective h)).1
      exact absurd image (Text.imageAt_ne_nil [] c cs)

/-- Commas cut a name at the same places whether or not its case counts. -/
theorem cut_folded (n : String) : Text.cut (d.folded n) = (Text.cut n).map d.folded := by
  induction hlength : n.toList.length using Nat.strong_induction_on generalizing n with
  | _ length ih =>
    by_cases comma : ',' ∈ n.toList
    · obtain ⟨s, t, split, -⟩ := List.eq_append_cons_of_mem comma
      have parted : n = String.ofList s ++ "," ++ String.ofList t := by
        rw [← String.toList_inj, split]
        simp
      have shorter := congrArg List.length split
      rw [List.length_append, List.length_cons] at shorter
      have hs := ih s.length (by omega) (String.ofList s) (by rw [String.toList_ofList])
      have ht := ih t.length (by omega) (String.ofList t) (by rw [String.toList_ofList])
      rw [parted, folded_append_comma, Text.cut_append, Text.cut_append, List.map_append, hs, ht]
    · rw [Text.cut_of_not_mem comma, Text.cut_of_not_mem (mt comma_mem_folded comma),
        List.map_singleton]

end Dialect

/-! ## Column lists -/

namespace Rule.ForeignKey

/-- The pieces that commas cut the names of some columns into. No column counts as one without a
name. -/
def pieces : List SchemaDelta.Column → List String
  | [] => [""]
  | c :: cs => (c :: cs).flatMap fun c => Text.cut c.plainName

/-- Pieces that agree pairwise, as the dialect has it. -/
def SamePieces (d : Dialect) (as bs : List SchemaDelta.Column) : Prop :=
  List.Forall₂ (fun m n => d.namesEqual m n = true) (pieces as) (pieces bs)

/-- Column lists of one length whose names agree pairwise, as the dialect has it. -/
def SameNames (d : Dialect) (as bs : List SchemaDelta.Column) : Prop :=
  List.Forall₂ (fun a b => d.namesEqual a.plainName b.plainName = true) as bs

/-- The joined names of both lists tell where each name ends: there is no comma in a name, and no
column does not face one without a name. -/
structure Legible (as bs : List SchemaDelta.Column) : Prop where
  left : ∀ a ∈ as, ',' ∉ a.plainName.toList
  right : ∀ b ∈ bs, ',' ∉ b.plainName.toList
  empty_left : as = [] → bs.map (·.plainName) ≠ [""]
  empty_right : bs = [] → as.map (·.plainName) ≠ [""]

variable {as bs cs : List SchemaDelta.Column}

theorem cut_nameList (cs : List SchemaDelta.Column) : Text.cut (nameList cs) = pieces cs := by
  unfold nameList
  induction cs with
  | nil => rfl
  | cons c cs ih =>
    cases cs with
    | nil => simp [pieces]
    | cons c' cs =>
      rw [List.map_cons, List.map_cons] at *
      rw [String.intercalate_cons_cons, Text.cut_append, ih]
      rfl

theorem samePieces_iff :
    SamePieces d as bs ↔ (pieces as).map d.folded = (pieces bs).map d.folded := by
  rw [← List.forall₂_eq_eq_eq, List.forall₂_map_left_iff, List.forall₂_map_right_iff, SamePieces]
  simp only [Dialect.namesEqual_iff]

theorem sameNames_iff : SameNames d as bs ↔
    as.map (fun c => d.folded c.plainName) = bs.map fun c => d.folded c.plainName := by
  rw [← List.forall₂_eq_eq_eq, List.forall₂_map_left_iff, List.forall₂_map_right_iff, SameNames]
  simp only [Dialect.namesEqual_iff]

/-- Joined names agree when the pieces do that commas cut them into. -/
theorem namesEqual_nameList_iff :
    d.namesEqual (nameList as) (nameList bs) = true ↔ SamePieces d as bs := by
  rw [samePieces_iff, ← cut_nameList, ← cut_nameList, ← Dialect.cut_folded, ← Dialect.cut_folded,
    Dialect.namesEqual_iff]
  exact ⟨congrArg Text.cut, Text.cut_injective⟩

theorem folded_nameList (cs : List SchemaDelta.Column) :
    d.folded (nameList cs) = ",".intercalate (cs.map fun c => d.folded c.plainName) := by
  unfold nameList
  induction cs with
  | nil => exact Dialect.folded_empty
  | cons c cs ih =>
    cases cs with
    | nil => simp
    | cons c' cs =>
      simp only [List.map_cons, String.intercalate_cons_cons, Dialect.folded_append_comma] at ih ⊢
      rw [ih]

theorem samePieces_of_sameNames (h : SameNames d as bs) : SamePieces d as bs := by
  rw [← namesEqual_nameList_iff, Dialect.namesEqual_iff, folded_nameList, folded_nameList,
    sameNames_iff.1 h]

/-- Without a comma in them the names are the pieces. -/
theorem pieces_of_not_mem (h : ∀ c ∈ cs, ',' ∉ c.plainName.toList) (hne : cs ≠ []) :
    pieces cs = cs.map (·.plainName) := by
  have whole : ∀ c ∈ cs, Text.cut c.plainName = [c.plainName] := fun c hc =>
    Text.cut_of_not_mem (h c hc)
  cases cs with
  | nil => exact absurd rfl hne
  | cons c cs => rw [pieces, List.flatMap_congr whole, ← List.map_eq_flatMap]

/-- Names that agree with the empty piece of no column are those of one column without a name. -/
theorem names_of_pieces_nil (h : ∀ c ∈ cs, ',' ∉ c.plainName.toList) (hne : cs ≠ [])
    (same : (pieces cs).map d.folded = (pieces []).map d.folded) :
    cs.map (·.plainName) = [""] := by
  rw [pieces_of_not_mem h hne] at same
  obtain ⟨n, hn, folded⟩ := List.map_eq_singleton_iff.1 same
  rw [hn, Dialect.folded_eq_empty (folded.trans Dialect.folded_empty)]

theorem sameNames_of_legible (legible : Legible as bs) (h : SamePieces d as bs) :
    SameNames d as bs := by
  rw [samePieces_iff] at h
  cases as with
  | nil =>
    cases bs with
    | nil => exact .nil
    | cons b bs =>
      exact absurd (names_of_pieces_nil legible.right (List.cons_ne_nil _ _) h.symm)
        (legible.empty_left rfl)
  | cons a as =>
    cases bs with
    | nil =>
      exact absurd (names_of_pieces_nil legible.left (List.cons_ne_nil _ _) h)
        (legible.empty_right rfl)
    | cons b bs =>
      rw [pieces_of_not_mem legible.left (List.cons_ne_nil _ _),
        pieces_of_not_mem legible.right (List.cons_ne_nil _ _),
        List.map_map, List.map_map] at h
      exact sameNames_iff.2 h

end Rule.ForeignKey

/-! ## Foreign keys with all tables known -/

open Rulebook Rule.ForeignKey

theorem Identity.foreignKeysAlike_iff_of_resolved {a b : ForeignKey} (ha : isResolved a)
    (hb : isResolved b) :
    foreignKeysAlike d p a b = true ↔
      SamePieces d a.foreignColumns b.foreignColumns ∧
        SamePieces d a.primaryColumns b.primaryColumns ∧
          tables d p a.foreignTable b.foreignTable = true ∧
            tables d p a.primaryTable b.primaryTable = true := by
  have resolved : (isResolved a && isResolved b) = true := by rw [ha, hb, Bool.and_self]
  rw [foreignKeysAlike, if_pos resolved, foreignKeysByLink]
  simp only [Bool.and_eq_true, namesEqual_nameList_iff, and_assoc]

theorem Identity.foreignKeysAlike_self {a : ForeignKey} (ha : isResolved a) :
    foreignKeysAlike d p a a = true :=
  (foreignKeysAlike_iff_of_resolved ha ha).2
    ⟨samePieces_iff.2 rfl, samePieces_iff.2 rfl, tables_refl _, tables_refl _⟩

/-- Foreign keys with all their tables known are the same exactly when the names of their columns
agree, cut at commas, and the tables they lead from and to are the same. Names that agree pairwise
will do, and nothing less will where the joined names tell where each of them ends. -/
theorem judge_same_of_resolved {a b : ForeignKey} (ha : isResolved a) (hb : isResolved b) :
    let j := (builtin d).judge d p
    let same := j.same (some (.foreignKey a)) (some (.foreignKey b)) = .ok true
    let tables := j.same (a.foreignTable.map .table) (b.foreignTable.map .table) = .ok true ∧
      j.same (a.primaryTable.map .table) (b.primaryTable.map .table) = .ok true
    (same ↔ SamePieces d a.foreignColumns b.foreignColumns ∧
      SamePieces d a.primaryColumns b.primaryColumns ∧ tables) ∧
    (SameNames d a.foreignColumns b.foreignColumns →
      SameNames d a.primaryColumns b.primaryColumns → tables → same) ∧
    (Legible a.foreignColumns b.foreignColumns → Legible a.primaryColumns b.primaryColumns →
      (same ↔ SameNames d a.foreignColumns b.foreignColumns ∧
        SameNames d a.primaryColumns b.primaryColumns ∧ tables)) := by
  intro j same tables
  have linked : tables ↔ Identity.tables d p a.foreignTable b.foreignTable = true ∧
      Identity.tables d p a.primaryTable b.primaryTable = true := by
    have answer (t u : Option Table) : j.same (t.map .table) (u.map .table) =
        .ok (Identity.tables d p t u) := same_tables (n := 3) t u
    simp only [tables, answer, Except.ok.injEq]
  have exact_iff : same ↔ SamePieces d a.foreignColumns b.foreignColumns ∧
      SamePieces d a.primaryColumns b.primaryColumns ∧ tables := by
    rw [linked, ← Identity.foreignKeysAlike_iff_of_resolved ha hb]
    simp only [same, j, judge_same, Except.ok.injEq, Identity.same, Bool.or_eq_true,
      decide_eq_true_iff, Identity.alike, or_iff_right_iff_imp]
    rintro ⟨⟩
    exact Identity.foreignKeysAlike_self ha
  refine ⟨exact_iff, ?_, ?_⟩
  · intro foreign primary known
    exact exact_iff.2 ⟨samePieces_of_sameNames foreign, samePieces_of_sameNames primary, known⟩
  · intro foreign primary
    have names {as bs : List Column} (legible : Legible as bs) :
        SamePieces d as bs ↔ SameNames d as bs :=
      ⟨sameNames_of_legible legible, samePieces_of_sameNames⟩
    rw [exact_iff, names foreign, names primary]

/-- A foreign key from `orders` to `users` by some columns, and to the same columns there. -/
def linkBy (origin : Nat) (columns : List String) : ForeignKey :=
  { namedLink origin "fk_user" "orders" "users" "" with
    foreignColumns := columns.map (namedColumn origin)
    primaryColumns := columns.map (namedColumn origin) }

/-- Letter case aside, three columns link as two do, of which one has a comma in its name. -/
theorem judge_same_of_resolved_threeByTwo :
    let a := linkBy 0 ["ID", "a", "b"]
    let b := linkBy 1 ["id", "A,B"]
    isResolved a ∧ isResolved b ∧ SamePieces .postgres a.foreignColumns b.foreignColumns ∧
      ((builtin .postgres).judge .postgres .standard).same (some (.foreignKey a))
        (some (.foreignKey b)) = .ok true := by
  intro a b
  have pieces : SamePieces .postgres a.foreignColumns b.foreignColumns := by
    rw [samePieces_iff]
    decide +kernel
  have tables : let j := (builtin .postgres).judge .postgres .standard
      j.same (a.foreignTable.map .table) (b.foreignTable.map .table) = .ok true ∧
        j.same (a.primaryTable.map .table) (b.primaryTable.map .table) = .ok true := by
    simp only [a, b, linkBy, namedLink, Option.map_some, judge_same]
    decide +kernel
  have linked := judge_same_of_resolved (d := .postgres) (p := .standard) (a := a) (b := b) rfl rfl
  exact ⟨rfl, rfl, pieces, linked.1.2 ⟨pieces, pieces, tables⟩⟩

/-- One column can link as two do, by lists of different lengths. -/
theorem same_of_oneByTwo :
    ((builtin .postgres).judge .postgres .standard).same (some (.foreignKey (linkBy 0 ["a,b"])))
        (some (.foreignKey (linkBy 1 ["a", "b"]))) = .ok true ∧
      (linkBy 0 ["a,b"]).foreignColumns.length ≠ (linkBy 1 ["a", "b"]).foreignColumns.length ∧
      ¬SameNames .postgres (linkBy 0 ["a,b"]).foreignColumns
        (linkBy 1 ["a", "b"]).foreignColumns := by
  refine ⟨?_, by decide, ?_⟩
  · rw [judge_same]
    decide +kernel
  · intro names
    exact absurd names.length_eq (by decide)

end SchemaDelta
