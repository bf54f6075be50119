import SchemaDelta.Proofs.ConfigTree
import SchemaDelta.Proofs.Sections

/-!
# Configurations in text

A configuration that is written is read as it was. Its text has a section for a dialect in full,
one for the comparison, one for the suppressed fields and one for each alias. Within the comparison
the members that are tables come after the others, so that the tree read is not the tree written; a
record does not ask for the order of its members.

## Main definitions

* `Config.sections` — the sections of the text.
* `Toml.arranged` — members in the order in which they are written.
-/

namespace SchemaDelta

open Toml

/-- Members in the order in which they are written, those with headers last. -/
def Toml.arranged (members : List (String × Toml)) : List (String × Toml) :=
  plainMembers members ++ members.filter fun m => m.2.hasHeader

theorem Toml.arranged_perm (members : List (String × Toml)) : (arranged members).Perm members := by
  have := List.filter_append_perm (fun m : String × Toml => !m.2.hasHeader) members
  simpa [arranged, plainMembers] using this

/-! ## Writing -/

theorem Dialect.leaf_members (d : Dialect) : ∀ m ∈ d.members, Leaf m.2 :=
  fun m hm => .scalar (d.scalar_members m hm)

namespace Config

theorem leaf_namesToToml (names : List String) : Leaf (namesToToml names) := by
  refine .array fun t ht => ?_
  obtain ⟨s, -, rfl⟩ := List.mem_map.1 ht
  exact .string s

theorem AliasEntry.leaf_members (e : AliasEntry) : ∀ m ∈ e.members, Leaf m.2 := by
  simp [AliasEntry.members, Leaf.scalar, Scalar.string]

variable (c : Config)

theorem leaf_suppressedMembers : ∀ m ∈ c.suppressedMembers, Leaf m.2 := by
  intro m hm
  obtain ⟨e, -, rfl⟩ := List.mem_map.1 hm
  exact leaf_namesToToml e.2

theorem nodup_suppressedMembers : (c.suppressedMembers.map Prod.fst).Nodup := by
  rw [suppressedMembers, List.map_map, List.Nodup, List.pairwise_map]
  refine c.sorted.imp fun {e e'} before same => ?_
  replace same : e.1 = e'.1 := same
  rw [same, Std.ReflOrd.compare_self] at before
  cases before

theorem plainMembers_compareMembers : plainMembers c.compareMembers =
    ("types", namesToToml c.kinds) ::
      ((if c.aliases = [] then [("schema_comparisons", .array [])] else []) ++
        [("include_catalog", .boolean c.includeCatalog),
         ("diff_column_order", .boolean c.columnOrder)]) := by
  simp only [plainMembers, compareMembers, List.filter_cons, List.filter_nil, hasHeader_table,
    hasHeader_boolean, hasHeader_rows, (leaf_namesToToml c.kinds).hasHeader]
  cases c.aliases <;> simp

/-- The section of a dialect in full. -/
def DialectChoice.sections : DialectChoice → List Section
  | preset _ => []
  | custom d => [⟨false, ["dialect", "custom"], d.members⟩]

/-- The section of an alias. -/
def AliasEntry.section (e : AliasEntry) : Section :=
  ⟨true, ["compare", "schema_comparisons"], e.members⟩

/-- The sections of a configuration. -/
def sections : List Section :=
  c.dialect.sections ++ [⟨false, ["compare"], c.compareMembers⟩] ++
    [⟨false, ["compare", "suppressed_fields"], c.suppressedMembers⟩] ++
    c.aliases.map AliasEntry.section

theorem blocks_dialect (choice : DialectChoice) :
    blocks ["dialect"] choice.toToml = choice.sections.map Section.text := by
  cases choice with
  | preset name => rfl
  | custom d =>
    change memberBlocks ["dialect"] [("custom", .table d.members)] = _
    rw [memberBlocks, blocks_table_of_leaves d.leaf_members]
    rfl

theorem blocks_aliases : blocks ["compare", "schema_comparisons"]
    (.array ((c.aliases.map AliasEntry.members).map .table)) =
      (c.aliases.map AliasEntry.section).map Section.text := by
  have leaves : ∀ members ∈ c.aliases.map AliasEntry.members, ∀ m ∈ members, Leaf m.2 :=
    List.forall_mem_map.2 fun e _ => e.leaf_members
  rw [blocks, if_pos (by simp [isTable]), itemBlocks_of_leaves leaves, List.map_map, List.map_map,
    List.map_map]
  rfl

theorem memberBlocks_members : memberBlocks [] c.members = c.sections.map Section.text := by
  have boolean (path : List String) (b : Bool) : blocks path (.boolean b) = [] := rfl
  have compare : blocks ["compare"] (.table c.compareMembers) =
      (⟨false, ["compare"], c.compareMembers⟩ : Section).text ::
        memberBlocks ["compare"] c.compareMembers :=
    blocks_table (by simp [plainMembers_compareMembers])
  rw [members_eq, memberBlocks, memberBlocks, memberBlocks, List.nil_append, List.nil_append,
    blocks_dialect, compare, List.append_nil]
  simp only [compareMembers, memberBlocks, List.cons_append, List.nil_append, List.append_nil,
    (leaf_namesToToml c.kinds).blocks, blocks_table_of_leaves c.leaf_suppressedMembers,
    blocks_aliases, boolean, sections, List.map_append, List.map_cons,
    List.append_assoc]

theorem leaf_plainMembers_compare : ∀ m ∈ plainMembers c.compareMembers, Leaf m.2 := by
  have none : Leaf (.array []) := .array fun t ht => absurd ht List.not_mem_nil
  rw [plainMembers_compareMembers]
  split <;> simp [leaf_namesToToml, none, Leaf.scalar, Scalar.boolean]

theorem readable_sections : ∀ s ∈ c.sections, s.Readable := by
  have readable {s : Section} (named : s.path ≠ []) (short : s.path.length < depthLimit)
      (leaves : ∀ m ∈ s.members, Leaf m.2) : s.Readable :=
    ⟨named, short, fun m hm => leaves m (List.mem_of_mem_filter hm)⟩
  simp only [sections, List.forall_mem_append, List.forall_mem_singleton, List.forall_mem_map]
  refine ⟨⟨⟨?_, ?_⟩, ?_⟩, fun e _ => ?_⟩
  · cases c.dialect with
    | preset name => simp [DialectChoice.sections]
    | custom d =>
      simpa [DialectChoice.sections] using readable (by simp) (by simp [depthLimit]) d.leaf_members
  · exact ⟨by simp, by simp [depthLimit], c.leaf_plainMembers_compare⟩
  · exact readable (by simp) (by simp [depthLimit]) c.leaf_suppressedMembers
  · exact readable (by simp [AliasEntry.section]) (by simp [AliasEntry.section, depthLimit])
      e.leaf_members

/-! ## Reading the sections -/

/-- The root table while the comparison is read: the dialect, and what the comparison has. -/
def root (dialect : Draft) (compare : Toml.Members) : Toml.Members :=
  [("dialect", dialect), ("compare", .table .stated compare)]

/-- Aliases as members of the comparison, the last one first; none are no member. -/
def rows (aliases : List AliasEntry) : Toml.Members :=
  if aliases = [] then []
  else [("schema_comparisons", .row (aliases.map fun e => drafts e.members))]

variable (dialect : Draft) {compare : Toml.Members}

theorem turns_custom (d : Dialect) : Turns [⟨false, ["dialect", "custom"], d.members⟩] []
    [("dialect", .table .passed [("custom", .table .stated (drafts d.members))])] := by
  have plain := plainMembers_eq_self d.leaf_members
  refine .singleton [("dialect", .table .passed [])] (fun desk h => ?_) ?_ ?_
  · simp [Section.open?, Desk.openTable?, h, Desk.openTable?.find?, Draft.changeAt]
  · rw [plain]
    unfold Dialect.members
    cases d.defaultCatalog <;> cases d.defaultSchema <;> simp
  · simp [plain, Desk.close?, Draft.changeAt, Draft.replace]

theorem turns_compare : Turns [⟨false, ["compare"], c.compareMembers⟩] [("dialect", dialect)]
    (root dialect (drafts (plainMembers c.compareMembers))) := by
  refine .singleton [("dialect", dialect)] (fun desk h => ?_) ?_ ?_
  · simp [Section.open?, Desk.openTable?, h, Desk.openTable?.find?, Draft.changeAt,
      List.lookup_cons]
  · rw [plainMembers_compareMembers]
    split <;> simp
  · simp [Desk.close?, Draft.changeAt, root]

/-- A change within the comparison leaves the dialect as it is. -/
theorem changeAt_root (change : Form → Toml.Members → Option Toml.Members) :
    Draft.changeAt .passed change ["compare"] .stated (root dialect compare) =
      (change .stated compare).map (root dialect) := by
  have found : (root dialect compare).lookup "compare" = some (.table .stated compare) := by
    simp [root, List.lookup_cons]
  have placed : (fun inner => Draft.replace "compare" (.table .stated inner)
      (root dialect compare)) = root dialect := by
    funext inner
    simp [root, Draft.replace]
  rw [Draft.changeAt, found]
  change Option.map _ (change .stated compare) = _
  rw [placed]

theorem find?_root (look : Form → Toml.Members → Option Toml.Members) :
    Desk.openTable?.find? ["compare"] look (root dialect compare) = look .stated compare := rfl

section

variable {k : String} (fresh : compare.lookup k = none)
include fresh

theorem ne_of_fresh : ∀ m ∈ compare, m.1 ≠ k := fun m hm same => by
  simpa [same] using List.lookup_eq_none_iff.1 fresh m hm

theorem replace_append (x y : Draft) :
    Draft.replace k y (compare ++ [(k, x)]) = compare ++ [(k, y)] := by
  have kept : compare.map (fun m => if m.1 == k then (k, y) else m) = compare.map id :=
    List.map_congr_left fun m hm => if_neg (by simpa using ne_of_fresh fresh m hm)
  rw [Draft.replace, List.map_append, kept, List.map_id]
  simp

theorem lookup_append_new (x : Draft) : (compare ++ [(k, x)]).lookup k = some x := by
  simp [List.lookup_append, fresh]

end

theorem turns_suppressed (fresh : compare.lookup "suppressed_fields" = none) :
    Turns [⟨false, ["compare", "suppressed_fields"], c.suppressedMembers⟩] (root dialect compare)
      (root dialect (compare ++
        [("suppressed_fields", .table .stated (drafts c.suppressedMembers))])) := by
  have kept : (compare.filter fun m => m.1 != "suppressed_fields") = compare :=
    List.filter_eq_self.2 fun m hm => by simpa using ne_of_fresh fresh m hm
  have plain := plainMembers_eq_self c.leaf_suppressedMembers
  refine .singleton (root dialect compare) (fun desk h => ?_) ?_ ?_
  · simp [Section.open?, Desk.openTable?, h, find?_root, changeAt_root, fresh, kept]
  · rw [plain]
    exact c.nodup_suppressedMembers
  · simp [Desk.close?, changeAt_root, plain]

/-- A further alias goes in front of the others. -/
theorem turns_alias (fresh : compare.lookup "schema_comparisons" = none) (e : AliasEntry)
    (others : List AliasEntry) : Turns [e.section] (root dialect (compare ++ rows others))
      (root dialect (compare ++ rows (e :: others))) := by
  have plain := plainMembers_eq_self e.leaf_members
  refine .singleton (root dialect (compare ++
    [("schema_comparisons", .row (others.map fun e => drafts e.members))])) (fun desk h => ?_) ?_ ?_
  · cases others with
    | nil =>
      rw [rows, if_pos rfl, List.append_nil] at h
      simp [AliasEntry.section, Section.open?, Desk.openRow?, h, changeAt_root, fresh]
    | cons e' others =>
      rw [rows, if_neg (by simp)] at h
      simp only [AliasEntry.section, Section.open?, if_pos, Desk.openRow?, h, Option.bind_eq_bind,
        Option.bind_some, List.reverse_cons, List.reverse_nil, List.nil_append,
        List.singleton_append, changeAt_root, lookup_append_new fresh]
      rfl
  · change ((plainMembers e.members).map Prod.fst).Nodup
    rw [plain]
    simp [AliasEntry.members]
  · change Desk.close? ⟨_, _, _, drafts (plainMembers e.members)⟩ = _
    rw [plain]
    simp only [AliasEntry.section, Desk.close?, List.reverse_cons, List.reverse_nil,
      List.nil_append, List.singleton_append, changeAt_root, lookup_append_new fresh,
      replace_append fresh, if_pos]
    rfl

theorem turns_aliases (fresh : compare.lookup "schema_comparisons" = none)
    (aliases others : List AliasEntry) :
    Turns (aliases.map AliasEntry.section) (root dialect (compare ++ rows others))
      (root dialect (compare ++ rows (aliases.reverse ++ others))) := by
  induction aliases generalizing others with
  | nil => exact .nil _
  | cons e aliases ih =>
    have first := turns_alias dialect fresh e others
    rw [List.reverse_cons, List.append_assoc]
    exact first.append (ih (e :: others))

/-- What was read of the dialect. -/
def DialectChoice.draft : DialectChoice → Draft
  | preset name => .value (.string name)
  | custom d => .table .passed [("custom", .table .stated (drafts d.members))]

theorem finish_draft (choice : DialectChoice) : choice.draft.finish = choice.toToml := by
  cases choice with
  | preset name => rfl
  | custom d =>
    rw [DialectChoice.draft, Draft.finish, Draft.finishMembers, Draft.finish, finishMembers_drafts]
    rfl

theorem finishMembers_rows (aliases : List AliasEntry) :
    Draft.finishMembers (rows aliases) = if aliases = [] then [] else
      [("schema_comparisons", .array ((aliases.reverse.map AliasEntry.members).map .table))] := by
  have tables : Draft.finishRow (aliases.map fun e => drafts e.members) =
      (aliases.map AliasEntry.members).map .table := by
    rw [← finishRow_drafts, List.map_map]
    rfl
  unfold rows
  split
  · rfl
  · rw [Draft.finishMembers, Draft.finish, tables, ← List.map_reverse, ← List.map_reverse]
    rfl

/-- The tables of the comparison, as they are read. -/
def headed : Toml.Members :=
  ("suppressed_fields", .table .stated (drafts c.suppressedMembers)) :: rows c.aliases.reverse

theorem finishMembers_headed :
    Draft.finishMembers c.headed = c.compareMembers.filter fun m => m.2.hasHeader := by
  simp only [headed, Draft.finishMembers, Draft.finish, finishMembers_drafts, finishMembers_rows,
    compareMembers, List.filter_cons, List.filter_nil, hasHeader_table, hasHeader_boolean,
    hasHeader_rows, (leaf_namesToToml c.kinds).hasHeader, List.reverse_reverse]
  cases c.aliases <;> simp

/-- From a root table that has the dialect, the sections of the comparison lead to the whole. -/
theorem turns_sections :
    Turns ([⟨false, ["compare"], c.compareMembers⟩] ++
      [⟨false, ["compare", "suppressed_fields"], c.suppressedMembers⟩] ++
      c.aliases.map AliasEntry.section) [("dialect", dialect)]
      (root dialect (drafts (plainMembers c.compareMembers) ++ c.headed)) := by
  have noSuppressed :
      (drafts (plainMembers c.compareMembers)).lookup "suppressed_fields" = none := by
    rw [plainMembers_compareMembers]
    split <;> simp [drafts, List.lookup_cons]
  have first := c.turns_compare dialect
  have second := c.turns_suppressed dialect noSuppressed
  refine (first.append second).append ?_
  by_cases none : c.aliases = []
  · simp [none, headed, rows, Turns.nil]
  · have noAliases : (drafts (plainMembers c.compareMembers) ++
        [("suppressed_fields", Draft.table .stated (drafts c.suppressedMembers))]).lookup
          "schema_comparisons" = Option.none := by
      rw [plainMembers_compareMembers, if_neg none]
      simp [drafts, List.lookup_cons]
    have third := turns_aliases dialect noAliases c.aliases []
    rw [rows, if_pos rfl, List.append_nil, List.append_nil, List.append_assoc] at third
    exact third

theorem plainMembers_members : plainMembers c.members =
    if c.dialect.toToml.hasHeader then [] else [("dialect", c.dialect.toToml)] := by
  rw [members_eq]
  cases h : c.dialect.toToml.hasHeader <;> simp [plainMembers, h, hasHeader_table]

theorem leaf_plainMembers : ∀ m ∈ plainMembers c.members, Leaf m.2 := by
  rw [plainMembers_members]
  cases c.dialect with
  | preset name => simpa [DialectChoice.toToml, Toml.hasHeader] using .scalar (.string name)
  | custom d => simp [DialectChoice.toToml, Toml.hasHeader]

/-- The members of the root table and the sections lead to the whole. -/
theorem take?_sections : ∃ desk,
    (Desk.start.fill (plainMembers c.members)).bind (·.take? c.sections) = some desk ∧
      desk.close? = some (root c.dialect.draft
        (drafts (plainMembers c.compareMembers) ++ c.headed)) := by
  have others := c.turns_sections c.dialect.draft
  rw [plainMembers_members, sections]
  cases h : c.dialect with
  | preset name =>
    rw [h] at others
    exact others ⟨[], [], false, [("dialect", .value (.string name))]⟩ rfl
  | custom d =>
    rw [h] at others
    have whole := (turns_custom d).append others
    rw [List.append_assoc, List.append_assoc]
    rw [List.append_assoc] at whole
    exact whole Desk.start rfl

/-- The text of a configuration is read as its members, those of the comparison arranged. -/
theorem read?_render : Toml.read? c.render = some (.table
    [("dialect", c.dialect.toToml), ("compare", .table (arranged c.compareMembers))]) := by
  obtain ⟨desk, taken, closed⟩ := c.take?_sections
  rw [render, Toml.read?_render c.memberBlocks_members c.leaf_plainMembers c.readable_sections,
    taken, Option.bind_some, closed]
  simp [root, Draft.finishMembers, Draft.finish, finish_draft, finishMembers_append,
    finishMembers_headed, arranged]

/-- A configuration that is written as text is read from the text as it was. -/
theorem parse?_render_self : parse? c.render = some c := by
  rw [parse?, read?_render, Option.bind_some, c.ofToml?_perm (arranged_perm _)]

end Config

end SchemaDelta
