import SchemaDelta.Proofs.Lines

/-!
# Reading a document section by section

A document is written as the plain members of its root table and then one section after the other,
each a header with plain members under it. Reading such a text comes to going through the sections:
the header opens a table, and the members are put into it.

## Main definitions

* `Section` — a header with its plain members, as text and as a step of reading.
* `Desk.take?` — going through some sections.
-/

namespace SchemaDelta.Toml

variable {cs rest : List Char}

/-! ## Sections -/

/-- The members that are written in lines of their own. -/
def plainMembers (members : List (String × Toml)) : List (String × Toml) :=
  members.filter fun m => !m.2.hasHeader

/-- A header with the plain members under it. -/
structure Section where
  inRow : Bool
  path : List String
  members : List (String × Toml)

namespace Section

def header (s : Section) : String :=
  if s.inRow then "[[" ++ pathText s.path ++ "]]\n" else "[" ++ pathText s.path ++ "]\n"

def text (s : Section) : String := s.header ++ plainLines s.members

/-- Open the table of the header. -/
def open? (s : Section) (d : Desk) : Option Desk :=
  if s.inRow then d.openRow? s.path else d.openTable? s.path

/-- Open the table of the header and put the members into it. -/
def add? (s : Section) (d : Desk) : Option Desk :=
  (s.open? d).bind fun d => d.fill (plainMembers s.members)

/-- A header that names a table, and members that can be read. -/
structure Readable (s : Section) : Prop where
  named : s.path ≠ []
  short : s.path.length < depthLimit
  leaves : ∀ m ∈ plainMembers s.members, Leaf m.2

variable {s : Section}

theorem dottedKey?_path (h : s.Readable) (rest : List Char) :
    dottedKey? ((pathText s.path).toList ++ ']' :: rest) = some (s.path, ']' :: rest) := by
  obtain ⟨k, ks, path⟩ := List.exists_cons_of_ne_nil h.named
  have short := h.short
  rw [path] at short ⊢
  rw [List.length_cons, ← Nat.lt_sub_iff_add_lt] at short
  exact readKey?_path short (by rintro _ ⟨⟩; decide) (by rintro t ⟨⟩)

theorem pathText_head? (h : s.Readable) : ∃ c u, (pathText s.path).toList = c :: u ∧ c ≠ '[' := by
  obtain ⟨k, ks, path⟩ := List.exists_cons_of_ne_nil h.named
  obtain ⟨c, u, head, starts⟩ := quoteKey_head? k
  rw [path, pathText_cons, head]
  exact ⟨c, _, rfl, starts.ne_bracket⟩

/-- What stands behind the first bracket of a header, up to the end of its line. -/
def headerLine (s : Section) : List Char :=
  if s.inRow then '[' :: ((pathText s.path).toList ++ [']', ']'])
  else (pathText s.path).toList ++ [']']

theorem header_toList (s : Section) : s.header.toList = '[' :: (s.headerLine ++ ['\n']) := by
  unfold header headerLine
  split <;> simp

theorem readLine?_header (h : s.Readable) (d : Desk) :
    readLine? d ('[' :: (s.headerLine ++ '\n' :: rest)) =
      (s.open? d).map fun d => (d, '\n' :: rest) := by
  unfold headerLine open?
  split
  · have key := dottedKey?_path h (']' :: '\n' :: rest)
    simp only [List.cons_append, List.append_assoc, List.nil_append]
    rw [readLine?, key]
    rfl
  · have key := dottedKey?_path h ('\n' :: rest)
    obtain ⟨c, u, head, notBracket⟩ := pathText_head? h
    simp only [List.cons_append, List.append_assoc, List.nil_append]
    rw [readLine?, key]
    · rfl
    · intro t same
      rw [head, List.cons_append, List.cons.injEq] at same
      exact notBracket same.1

/-- A section is read by opening its table and filling it. -/
theorem readLines?_text (h : s.Readable) (d : Desk)
    (skip : skipLines? false cs = some (s.text.toList ++ rest)) :
    readLines? d cs = (s.add? d).bind fun d => readLines? d rest := by
  have long := skipLines?_length_le skip
  rw [Section.text, String.toList_append, header_toList, plainLines_toList] at skip long
  simp only [List.cons_append, List.append_assoc, List.nil_append] at skip long
  rw [readLines?_line skip (readLine?_header h d) (by simp at long ⊢; omega), add?,
    Option.bind_assoc]
  congr 1
  funext d
  exact readLines?_members h.leaves d

end Section

variable {sections : List Section}

/-- The text of some sections, with an empty line between them. -/
def sectionsText (sections : List Section) : List Char :=
  ("\n".intercalate (sections.map Section.text)).toList

theorem sectionsText_singleton (s : Section) : sectionsText [s] = s.text.toList := by
  simp [sectionsText]

theorem sectionsText_cons_cons (s s' : Section) (sections : List Section) :
    sectionsText (s :: s' :: sections) =
      s.text.toList ++ '\n' :: sectionsText (s' :: sections) := by
  simp only [sectionsText, List.map_cons, String.intercalate_cons_cons, String.toList_append,
    List.append_assoc]
  rfl

theorem sectionsText_head? (s : Section) (sections : List Section) :
    ∃ t, sectionsText (s :: sections) = '[' :: t := by
  have text : s.text.toList = '[' :: (s.headerLine ++ ['\n'] ++ (plainLines s.members).toList) := by
    rw [Section.text, String.toList_append, Section.header_toList, List.cons_append]
  cases sections with
  | nil => exact ⟨_, by rw [sectionsText_singleton, text]⟩
  | cons s' sections => exact ⟨_, by rw [sectionsText_cons_cons, text, List.cons_append]⟩

theorem skipLines?_sectionsText (sections : List Section) :
    skipLines? false (sectionsText sections) = some (sectionsText sections) := by
  cases sections with
  | nil => rfl
  | cons s sections =>
    obtain ⟨t, text⟩ := sectionsText_head? s sections
    rw [text]
    exact skipLines?_of_starts (by unfold Starts; decide)

/-- Go through some sections. -/
def Desk.take? (d : Desk) (sections : List Section) : Option Desk :=
  sections.foldlM (fun d s => s.add? d) d

/-- The sections of a text are taken one after the other. -/
theorem readLines?_sections (readable : ∀ s ∈ sections, s.Readable) (d : Desk)
    (skip : skipLines? false cs = some (sectionsText sections)) :
    readLines? d cs = d.take? sections := by
  induction sections generalizing d cs with
  | nil =>
    change _ = some [] at skip
    rw [readLines?, skip]
    rfl
  | cons s sections ih =>
    obtain ⟨first, others⟩ := List.forall_mem_cons.1 readable
    rw [Desk.take?, List.foldlM_cons]
    cases sections with
    | nil =>
      rw [sectionsText_singleton, ← List.append_nil s.text.toList] at skip
      rw [Section.readLines?_text first d skip]
      congr 1
      funext d
      rw [readLines?, skipLines?]
      rfl
    | cons s' sections =>
      rw [sectionsText_cons_cons] at skip
      rw [Section.readLines?_text first d skip]
      congr 1
      funext d
      exact ih others d (skipLines?_sectionsText (s' :: sections))

/-! ## Documents -/

variable {members : List (String × Toml)}

theorem plainLines_eq_empty_iff : plainLines members = "" ↔ plainMembers members = [] := by
  rw [← String.toList_inj, plainLines_toList, ← plainMembers]
  constructor
  · intro empty
    cases h : plainMembers members with
    | nil => rfl
    | cons m ms => simp [h, memberLine] at empty
  · intro none
    rw [none]
    rfl

/-- A document is written as the plain members of its root table and its sections. -/
theorem render_toList (blocks : memberBlocks [] members = sections.map Section.text) :
    ∃ rest, (render members).toList = (plainMembers members).flatMap memberLine ++ rest ∧
      skipLines? false rest = some (sectionsText sections) := by
  rw [render, blocks]
  have text := plainLines_toList members
  rw [← plainMembers] at text
  by_cases empty : plainLines members = ""
  · refine ⟨sectionsText sections, ?_, skipLines?_sectionsText sections⟩
    rw [plainLines_eq_empty_iff.1 empty, if_pos (String.isEmpty_iff.2 empty)]
    rfl
  · rw [if_neg (mt String.isEmpty_iff.1 empty), List.singleton_append]
    cases sections with
    | nil => exact ⟨[], by simp [text], rfl⟩
    | cons s sections =>
      refine ⟨'\n' :: sectionsText (s :: sections), ?_, skipLines?_sectionsText (s :: sections)⟩
      rw [List.map_cons, String.intercalate_cons_cons, String.toList_append, String.toList_append,
        text, List.append_assoc]
      rfl

/-- No byte order mark is written. -/
theorem render_ne_mark (blocks : memberBlocks [] members = sections.map Section.text)
    (t : List Char) : (render members).toList ≠ '\ufeff' :: t := by
  obtain ⟨rest, text, skip⟩ := render_toList blocks
  rw [text]
  cases h : plainMembers members with
  | nil =>
    rintro rfl
    change skipLines? false ('\ufeff' :: t) = _ at skip
    rw [skipLines?_of_starts (by unfold Starts; decide)] at skip
    cases sections with
    | nil => cases skip
    | cons s sections =>
      obtain ⟨u, head⟩ := sectionsText_head? s sections
      rw [head] at skip
      cases skip
  | cons m ms =>
    obtain ⟨c, u, head, starts⟩ := quoteKey_head? m.1
    have notMark : c ≠ '\ufeff' := by
      rintro rfl
      rcases starts with h | h | h <;> exact absurd h (by decide)
    simp [memberLine, head, notMark]

/-- A document whose tables are written as some sections is read by filling its root table and
going through the sections. -/
theorem read?_render (blocks : memberBlocks [] members = sections.map Section.text)
    (leaves : ∀ m ∈ plainMembers members, Leaf m.2) (readable : ∀ s ∈ sections, s.Readable) :
    read? (render members) =
      (((Desk.start.fill (plainMembers members)).bind (·.take? sections)).bind Desk.close?).map
        fun members => .table (Draft.finishMembers members) := by
  obtain ⟨rest, text, skip⟩ := render_toList blocks
  have unmarked := render_ne_mark blocks
  rw [text] at unmarked
  have lines : readLines? .start ((plainMembers members).flatMap memberLine ++ rest) =
      (Desk.start.fill (plainMembers members)).bind (·.take? sections) := by
    rw [readLines?_members leaves]
    congr 1
    funext d
    exact readLines?_sections readable d skip
  rw [read?, text]
  split
  · next same => exact absurd same (unmarked _)
  · rw [lines, Option.map_bind]
    rfl

/-! ## Tables as sections -/

theorem hasHeader_table : (Toml.table members).hasHeader = true := rfl

theorem hasHeader_boolean (b : Bool) : (Toml.boolean b).hasHeader = false := rfl

/-- Tables in a row have headers when there are some. -/
theorem hasHeader_rows (rows : List (List (String × Toml))) :
    (Toml.array (rows.map .table)).hasHeader = !rows.isEmpty := by
  cases rows <;> simp [Toml.hasHeader, isTable]

theorem Leaf.hasHeader {t : Toml} (h : Leaf t) : t.hasHeader = false := by
  cases h with
  | scalar h => cases h <;> rfl
  | @array items scalars =>
    cases items with
    | nil => rfl
    | cons t items => cases scalars t List.mem_cons_self <;> simp [Toml.hasHeader, isTable]

theorem Leaf.blocks {path : List String} {t : Toml} (h : Leaf t) : blocks path t = [] := by
  cases h with
  | scalar h => cases h <;> rfl
  | @array items scalars =>
    cases items with
    | nil => rfl
    | cons t items => cases scalars t List.mem_cons_self <;> simp [Toml.blocks, isTable]

section

variable {path : List String} (leaves : ∀ m ∈ members, Leaf m.2)
include leaves

theorem plainMembers_eq_self : plainMembers members = members :=
  List.filter_eq_self.2 fun m hm => by simp [(leaves m hm).hasHeader]

theorem memberBlocks_eq_nil : memberBlocks path members = [] := by
  induction members with
  | nil => rfl
  | cons m members ih =>
    obtain ⟨leaf, leaves⟩ := List.forall_mem_cons.1 leaves
    rw [memberBlocks, leaf.blocks, ih leaves, List.append_nil]

end

/-- A table that has plain members, or none at all, is written with its header. -/
theorem blocks_table {path : List String} (plain : plainMembers members = [] → members = []) :
    blocks path (.table members) =
      (⟨false, path, members⟩ : Section).text :: memberBlocks path members := by
  rw [blocks, if_neg]
  · rfl
  · simp only [Bool.and_eq_true, String.isEmpty_iff, plainLines_eq_empty_iff]
    rintro ⟨none, some⟩
    simp [plain none] at some

theorem blocks_table_of_leaves {path : List String} (leaves : ∀ m ∈ members, Leaf m.2) :
    blocks path (.table members) = [(⟨false, path, members⟩ : Section).text] := by
  rw [blocks_table (by rw [plainMembers_eq_self leaves]; exact id), memberBlocks_eq_nil leaves]

/-- Tables in a row are written as a section each. -/
theorem itemBlocks_of_leaves {path : List String} {rows : List (List (String × Toml))}
    (leaves : ∀ members ∈ rows, ∀ m ∈ members, Leaf m.2) : itemBlocks path (rows.map .table) =
      (rows.map fun members => (⟨true, path, members⟩ : Section)).map Section.text := by
  induction rows with
  | nil => rfl
  | cons members rows ih =>
    obtain ⟨first, others⟩ := List.forall_mem_cons.1 leaves
    rw [List.map_cons, itemBlocks, memberBlocks_eq_nil first, ih others]
    rfl

/-! ## Tables under construction -/

/-- Members as they stand in an open table. -/
def drafts (members : List (String × Toml)) : Members := members.map fun m => (m.1, .value m.2)

theorem finishMembers_append (ms ns : Members) : Draft.finishMembers (ms ++ ns) =
    Draft.finishMembers ms ++ Draft.finishMembers ns := by
  induction ms with
  | nil => rfl
  | cons m ms ih => simp [Draft.finishMembers, ih]

@[simp] theorem finishMembers_drafts (members : List (String × Toml)) :
    Draft.finishMembers (drafts members) = members := by
  induction members with
  | nil => rfl
  | cons m members ih => simpa [drafts, Draft.finishMembers, Draft.finish] using ih

theorem finishRow_drafts (rows : List (List (String × Toml))) :
    Draft.finishRow (rows.map drafts) = rows.map .table := by
  induction rows with
  | nil => rfl
  | cons members rows ih => simp [Draft.finishRow, ih]

namespace Desk

variable {d : Desk}

theorem assign?_singleton {k : String} (t : Toml) (h : d.members.lookup k = none) :
    d.assign? [k] t = some { d with members := d.members ++ [(k, .value t)] } := by
  change (Draft.addNew k (.value t) d.members).map _ = _
  rw [Draft.addNew, h]
  rfl

/-- Members of different names, none of which the open table has, go into it in order. -/
theorem fill_eq (distinct : (members.map Prod.fst).Nodup)
    (fresh : ∀ m ∈ members, d.members.lookup m.1 = none) :
    d.fill members = some { d with members := d.members ++ drafts members } := by
  induction members generalizing d with
  | nil => simp [fill, drafts]
  | cons m members ih =>
    obtain ⟨first, others⟩ := List.forall_mem_cons.1 fresh
    obtain ⟨new, distinct⟩ := List.nodup_cons.1 distinct
    rw [fill, List.foldlM_cons, assign?_singleton m.2 first]
    change fill _ members = _
    rw [ih distinct]
    · simp [drafts]
    · intro n hn
      have other : n.1 ≠ m.1 := fun same => new (same ▸ List.mem_map_of_mem hn)
      simp [List.lookup_append, others n hn, List.lookup_cons, beq_false_of_ne other]

end Desk

/-- Going through the sections turns the one root table into the other. -/
def Turns (sections : List Section) (before after : Members) : Prop :=
  ∀ d : Desk, d.close? = some before → ∃ d', d.take? sections = some d' ∧ d'.close? = some after

namespace Turns

variable {before between after : Members}

theorem nil (root : Members) : Turns [] root root := fun d h => ⟨d, rfl, h⟩

theorem append {more : List Section} (h : Turns sections before between)
    (hmore : Turns more between after) : Turns (sections ++ more) before after := by
  intro d hd
  obtain ⟨d₁, take, close⟩ := h d hd
  obtain ⟨d₂, take', close'⟩ := hmore d₁ close
  refine ⟨d₂, ?_, close'⟩
  rw [Desk.take?, List.foldlM_append]
  rw [Desk.take?] at take take'
  rw [take]
  exact take'

/-- A section turns the root table as far as its header does and its members fill the table. -/
theorem singleton {s : Section} (root : Members)
    (opens : ∀ d : Desk, d.close? = some before → s.open? d = some ⟨root, s.path, s.inRow, []⟩)
    (distinct : ((plainMembers s.members).map Prod.fst).Nodup)
    (closes : (⟨root, s.path, s.inRow, drafts (plainMembers s.members)⟩ : Desk).close? =
      some after) : Turns [s] before after := by
  intro d hd
  have added : s.add? d = some ⟨root, s.path, s.inRow, drafts (plainMembers s.members)⟩ := by
    rw [Section.add?, opens d hd, Option.bind_some, Desk.fill_eq distinct fun _ _ => rfl]
    rfl
  refine ⟨_, ?_, closes⟩
  rw [Desk.take?, List.foldlM_cons, added]
  rfl

end Turns

end SchemaDelta.Toml
