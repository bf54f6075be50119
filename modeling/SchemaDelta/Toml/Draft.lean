import SchemaDelta.Toml

/-!
# Tables under construction

While a document is read its tables are open. A table can be stated in a header, come
about because a header leads through it, or be laid out by dotted keys. Which of these
it is decides what may still be added to it: nothing is stated twice, and dotted keys
add only to tables of their own.
-/

namespace SchemaDelta.Toml

/-- How a table came about. -/
inductive Form where
  /-- Stated in a header. -/
  | stated
  /-- On the way to a stated table. -/
  | passed
  /-- Laid out by dotted keys. -/
  | dotted
  deriving DecidableEq

/-- A part of a document under construction. -/
inductive Draft where
  | value (t : Toml)
  | table (form : Form) (members : List (String × Draft))
  /-- Tables in a row, the last one first. -/
  | row (tables : List (List (String × Draft)))

abbrev Members := List (String × Draft)

namespace Draft

/-- Replace the member of a name. -/
def replace (k : String) (d : Draft) (members : Members) : Members :=
  members.map fun m => if m.1 == k then (k, d) else m

/-- Change the table at a path, which is laid out on the way in the given form. A row stands for its
last table. -/
def changeAt (way : Form) (change : Form → Members → Option Members) :
    List String → Form → Members → Option Members
  | [], form, members => change form members
  | k :: path, _, members =>
    match members.lookup k with
    | none =>
      (changeAt way change path way []).map fun inner => members ++ [(k, .table way inner)]
    | some (.value _) => none
    | some (.row []) => none
    | some (.row (last :: others)) =>
      (changeAt way change path .stated last).map fun inner =>
        replace k (.row (inner :: others)) members
    | some (.table form inner) =>
      if way == .dotted && form == .stated then none
      else
        (changeAt way change path form inner).map fun inner =>
          replace k (.table form inner) members

/-- Add a member that is not there yet. -/
def addNew (k : String) (d : Draft) (members : Members) : Option Members :=
  if (members.lookup k).isSome then none else some (members ++ [(k, d)])

/-- Give a value to a dotted key. A key of several parts adds to a table of dotted keys only, a key
of one part never does. -/
def assign (path : List String) (k : String) (t : Toml) (members : Members) : Option Members :=
  changeAt .dotted
    (fun form inner =>
      if (form == .dotted) == path.isEmpty then none else addNew k (.value t) inner)
    path .stated members

mutual

/-- The finished value. -/
def finish : Draft → Toml
  | .value t => t
  | .table _ members => .table (finishMembers members)
  | .row tables => .array (finishRow tables).reverse

def finishMembers : List (String × Draft) → List (String × Toml)
  | [] => []
  | (k, d) :: rest => (k, d.finish) :: finishMembers rest

def finishRow : List (List (String × Draft)) → List Toml
  | [] => []
  | members :: rest => .table (finishMembers members) :: finishRow rest

end

end Draft

/-- A document while it is read: all finished tables, and the open one with its header. -/
structure Desk where
  root : Members
  /-- The path of the open table; the root table has none. -/
  path : List String
  inRow : Bool
  members : Members

namespace Desk

def start : Desk := ⟨[], [], false, []⟩

/-- Put the open table into its place. -/
def close? (d : Desk) : Option Members :=
  match d.path.reverse with
  | [] => some d.members
  | k :: way =>
    Draft.changeAt .passed
      (fun _ outer =>
        if d.inRow then
          match outer.lookup k with
          | some (.row tables) => some (Draft.replace k (.row (d.members :: tables)) outer)
          | some _ => none
          | none => some (outer ++ [(k, .row [d.members])])
        else some (outer ++ [(k, .table .stated d.members)]))
      way.reverse .stated d.root

/-- Open the table of a header. A table that headers only led through is taken up again. -/
def openTable? (d : Desk) (path : List String) : Option Desk := do
  let root ← d.close?
  match path.reverse with
  | [] => none
  | k :: way =>
    let lookAt (_ : Form) (outer : Members) : Option Members :=
      match outer.lookup k with
      | none => some []
      | some (.table .passed members) => some members
      | some _ => none
    let remove (_ : Form) (outer : Members) : Option Members :=
      some (outer.filter fun m => m.1 != k)
    let members ← find? way.reverse lookAt root
    let root ← Draft.changeAt .passed remove way.reverse .stated root
    return ⟨root, path, false, members⟩
where
  /-- What a look at the table of a path tells; a path that is not there leads to an empty table. -/
  find? : List String → (Form → Members → Option Members) → Members → Option Members
    | [], look, members => look .stated members
    | k :: path, look, members =>
      match members.lookup k with
      | none => find? path look []
      | some (.value _) => none
      | some (.row []) => none
      | some (.row (last :: _)) => find? path look last
      | some (.table _ inner) => find? path look inner

/-- Open a further table of a row. -/
def openRow? (d : Desk) (path : List String) : Option Desk := do
  let root ← d.close?
  match path.reverse with
  | [] => none
  | k :: way =>
    let begin (_ : Form) (outer : Members) : Option Members :=
      match outer.lookup k with
      | none => some (outer ++ [(k, .row [])])
      | some (.row _) => some outer
      | some _ => none
    let root ← Draft.changeAt .passed begin way.reverse .stated root
    return ⟨root, path, true, []⟩

/-- Give a value to a key of the open table. -/
def assign? (d : Desk) (key : List String) (t : Toml) : Option Desk :=
  match key.reverse with
  | [] => none
  | k :: way => (Draft.assign way.reverse k t d.members).map fun members => { d with members }

end Desk

end SchemaDelta.Toml
