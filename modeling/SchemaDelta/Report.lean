import SchemaDelta.Findings
import SchemaDelta.Json.Reader
import SchemaDelta.Json.Record
import SchemaDelta.Json.Writer

/-!
# Reports

The findings of a run as data that can be stored: every object by its kind and name,
every difference by its text. Entries are grouped by kind, containers first, and sorted
by name within a kind; the summary counts them.
-/

namespace SchemaDelta

namespace Report

structure Version where
  major : Nat
  minor : Nat
  deriving DecidableEq

/-- The version of the layout that is written. -/
def Version.current : Version := ⟨1, 0⟩

def Version.text (v : Version) : String := s!"{v.major}.{v.minor}"

structure Counts where
  missing : Nat
  unexpected : Nat
  changed : Nat
  deriving DecidableEq

def Counts.total (c : Counts) : Nat := c.missing + c.unexpected + c.changed

structure DifferenceEntry where
  field : Field
  reference : Option String
  comparison : Option String
  message : String
  deriving DecidableEq

structure Entry where
  kind : Kind
  /-- The name on the reference side where there is one. -/
  object : String
  /-- The name on the comparison side of a changed pair. -/
  comparison : Option String
  differences : List DifferenceEntry
  deriving DecidableEq

end Report

open Report in
structure Report where
  version : Version
  timestamp : String
  productName : Sides
  productVersion : Sides
  total : Counts
  /-- The counts of the kinds that anything was found of, in rank order. -/
  byKind : List (Kind × Counts)
  missing : List Entry
  unexpected : List Entry
  changed : List Entry
  metadata : Option Json
  deriving DecidableEq

namespace Report

def DifferenceEntry.ofDifference (d : Difference) : DifferenceEntry :=
  { field := d.field
    reference := d.change.reference.map Value.display
    comparison := d.change.comparison.map Value.display
    message := d.text }

def Entry.ofObject (o : Object) : Entry := ⟨o.kind, o.display, none, []⟩

def Entry.ofChanged (c : ChangedPair) : Entry :=
  { kind := c.reference.kind
    object := c.reference.display
    comparison := some c.comparison.display
    differences := c.ledger.differences.map .ofDifference }

/-- The kinds reported on, containers first. -/
def reportedKinds (f : Findings) : List Kind := Kind.all.filter f.kinds.contains

def countsOf (f : Findings) (k : Kind) : Counts :=
  ⟨(f.missingOf k).length, (f.unexpectedOf k).length, (f.changedOf k).length⟩

/-- The report of some findings. -/
def ofFindings (f : Findings) (timestamp : String) : Report :=
  let kinds := reportedKinds f
  let missing := kinds.flatMap fun k =>
    (Findings.sortBy id Findings.displayOrder (f.missingOf k)).map .ofObject
  let unexpected := kinds.flatMap fun k =>
    (Findings.sortBy id Findings.displayOrder (f.unexpectedOf k)).map .ofObject
  let changed := kinds.flatMap fun k =>
    (Findings.sortBy (·.reference) Findings.displayOrder (f.changedOf k)).map .ofChanged
  let counted := (kinds.map fun k => (k, countsOf f k)).filter fun c => c.2.total != 0
  { version := .current
    timestamp
    productName := f.productName
    productVersion := f.productVersion
    total := ⟨missing.length, unexpected.length, changed.length⟩
    byKind := Keyed.ofList counted
    missing
    unexpected
    changed
    metadata := none }

def hasDifferences (r : Report) : Bool := r.total.total != 0

def sidesToJson (s : Sides) : Json :=
  let side (t : Option String) : Json := match t with
    | some t => .string t
    | none => .null
  .object [("reference", side s.reference), ("comparison", side s.comparison)]

def sidesOfJson? (j : Json) : Option Sides := do
  let r ← j.record? ["reference", "comparison"] false
  return { reference := ← r.nullable "reference" Json.string?
           comparison := ← r.nullable "comparison" Json.string? }

namespace Version

def toJson (v : Version) : Json :=
  .object [("major", .integer v.major), ("minor", .integer v.minor)]

def ofJson? (j : Json) : Option Version := do
  let r ← j.record? ["major", "minor"] false
  return { major := ← r.required "major" (Json.natBelow? UInt32.size)
           minor := ← r.required "minor" (Json.natBelow? UInt32.size) }

end Version

namespace Counts

/-- Counts stay below this bound. -/
def bound : Nat := UInt64.size

def members (c : Counts) : List (String × Json) :=
  [("missing", .integer c.missing), ("unexpected", .integer c.unexpected),
   ("changed", .integer c.changed)]

def toJson (c : Counts) : Json := .object c.members

def ofRecord? (r : Json.Record) : Option Counts := do
  return { missing := ← r.required "missing" (Json.natBelow? bound)
           unexpected := ← r.required "unexpected" (Json.natBelow? bound)
           changed := ← r.required "changed" (Json.natBelow? bound) }

def ofJson? (j : Json) : Option Counts :=
  (j.record? ["missing", "unexpected", "changed"] false).bind ofRecord?

end Counts

def byKindToJson (byKind : List (Kind × Counts)) : Json :=
  .object (byKind.map fun c => (c.1.name, c.2.toJson))

/-- Counts by kind; of two for one kind the later counts. -/
def byKindOfJson? : Json → Option (List (Kind × Counts))
  | .object members =>
    (members.mapM fun (m : String × Json) => do
      return (← Kind.ofName? m.1, ← Counts.ofJson? m.2)).map Keyed.ofList
  | _ => none

namespace DifferenceEntry

def toJson (d : DifferenceEntry) : Json :=
  .object (("field", .string d.field.text) :: Json.textMember "reference" d.reference ++
    Json.textMember "comparison" d.comparison ++ [("message", .string d.message)])

def ofJson? (j : Json) : Option DifferenceEntry := do
  let r ← j.record? ["field", "reference", "comparison", "message"] false
  return { field := Field.ofText (← r.required "field" Json.string?)
           reference := ← r.nullable "reference" Json.string?
           comparison := ← r.nullable "comparison" Json.string?
           message := ← r.required "message" Json.string? }

end DifferenceEntry

namespace Entry

def toJson (e : Entry) : Json :=
  let differences : List (String × Json) :=
    if e.differences.isEmpty then []
    else [("differences", .array (e.differences.map DifferenceEntry.toJson))]
  .object (("kind", .string e.kind.name) :: ("object", .string e.object) ::
    Json.textMember "comparison" e.comparison ++ differences)

def ofJson? (j : Json) : Option Entry := do
  let r ← j.record? ["kind", "object", "comparison", "differences"] false
  return { kind := ← r.required "kind" (Json.choice? Kind.ofName?)
           object := ← r.required "object" Json.string?
           comparison := ← r.nullable "comparison" Json.string?
           differences :=
             ← r.defaulted "differences" [] (Json.listOf? DifferenceEntry.ofJson?) }

end Entry

/-- The tree of a report. -/
def toJson (r : Report) : Json :=
  .object ([("version", r.version.toJson), ("timestamp", .string r.timestamp),
    ("product_name", sidesToJson r.productName),
    ("product_version", sidesToJson r.productVersion),
    ("summary", .object (r.total.members ++ [("by_kind", byKindToJson r.byKind)])),
    ("missing", .array (r.missing.map Entry.toJson)),
    ("unexpected", .array (r.unexpected.map Entry.toJson)),
    ("changed", .array (r.changed.map Entry.toJson))] ++
      Json.optionalMember "metadata" r.metadata id)

/-- Read a report from its tree. -/
def ofJson? (j : Json) : Option Report := do
  let r ← j.record?
    ["version", "timestamp", "product_name", "product_version", "summary", "missing",
     "unexpected", "changed", "metadata"] false
  let summary ← r.required "summary" fun s =>
    s.record? ["missing", "unexpected", "changed", "by_kind"] false
  let entries (name : String) : Option (List Entry) := r.required name (Json.listOf? Entry.ofJson?)
  return { version := ← r.required "version" Version.ofJson?
           timestamp := ← r.required "timestamp" Json.string?
           productName := ← r.required "product_name" sidesOfJson?
           productVersion := ← r.required "product_version" sidesOfJson?
           total := ← Counts.ofRecord? summary
           byKind := ← summary.required "by_kind" byKindOfJson?
           missing := ← entries "missing"
           unexpected := ← entries "unexpected"
           changed := ← entries "changed"
           metadata := ← r.nullable "metadata" Json.settle? }

/-- Read a report from its text. -/
def parse? (text : String) : Option Report := (Json.read? text).bind ofJson?

/-- The text of a report, indented. -/
def render (r : Report) : String := r.toJson.indented

end Report

end SchemaDelta
