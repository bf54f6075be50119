import SchemaDelta.CommandLine.Style
import SchemaDelta.Report

/-!
# Summaries

What is printed about a report: the products where they differ, the counts, and every
entry under a heading for its list and one for its kind.
-/

namespace SchemaDelta.CommandLine

/-- How text is painted. -/
abbrev Painter := Style → String → String

def ruler (paint : Painter) : String :=
  paint .brightBlue (String.ofList (List.replicate 60 '=')) ++ "\n"

/-- The two sides of a text of both snapshots, where they differ. -/
def sidesLine (label : String) (s : Sides) : String :=
  if s.areEqual then ""
  else label ++ ": " ++ s.reference.getD "-" ++ " -> " ++ s.comparison.getD "-" ++ "\n"

def countLine (paint : Painter) (label : String) (n : Nat) : String :=
  label ++ paint (if n == 0 then .green else .boldRed) (toString n) ++ "\n"

/-- An entry with its differences, one to a line. -/
def entryLines (paint : Painter) (e : Report.Entry) : String :=
  let name := match e.comparison with
    | some c => if c == e.object then e.object else e.object ++ " (as " ++ c ++ ")"
    | none => e.object
  let differences := e.differences.map fun d => "      " ++ paint .yellow d.message ++ "\n"
  "    " ++ name ++ "\n" ++ String.join differences

/-- Entries in order, with a heading wherever a new kind begins. -/
def entriesByKind (paint : Painter) (current : Option Kind) : List Report.Entry → String
  | [] => ""
  | e :: rest =>
    let heading := if current == some e.kind then "" else "  " ++ paint .cyan e.kind.name ++ ":\n"
    heading ++ entryLines paint e ++ entriesByKind paint (some e.kind) rest

/-- A list of entries, if there are any. -/
def entryBlock (paint : Painter) (heading : String) (entries : List Report.Entry) : String :=
  if entries.isEmpty then ""
  else paint .bold heading ++ "\n" ++ entriesByKind paint none entries ++ "\n"

/-- What is printed about a report. -/
def summary (paint : Painter) (r : Report) : String :=
  "\n" ++ ruler paint ++ paint .boldBrightBlue "Schema Diff Report" ++ "\n" ++
    ruler paint ++ "\n" ++
    sidesLine "Product name" r.productName ++ sidesLine "Product version" r.productVersion ++
    paint .bold "Summary:" ++ "\n" ++
    countLine paint "  Missing:    " r.total.missing ++
    countLine paint "  Unexpected: " r.total.unexpected ++
    countLine paint "  Changed:    " r.total.changed ++ "\n" ++
    (if r.hasDifferences then
      entryBlock paint "Missing objects:" r.missing ++
        entryBlock paint "Unexpected objects:" r.unexpected ++
        entryBlock paint "Changed objects:" r.changed
    else paint .boldGreen "✓ No differences found!" ++ "\n") ++
    "\n" ++ ruler paint

/-- A text filled up with blanks to a width. -/
def padded (width : Nat) (s : String) : String :=
  s ++ String.ofList (List.replicate (width - s.length) ' ')

/-- The list of presets. -/
def dialectList (paint : Painter) : String :=
  let flag (b : Bool) : String := padded 5 (if b then "true" else "false")
  let line (d : Dialect) : String :=
    "  " ++ paint .cyan (padded 8 d.shortName) ++ " catalogs: " ++ flag d.hasCatalogs ++
      " schemas: " ++ flag d.hasSchemas ++ " default schema: " ++ d.defaultSchema.getD "-" ++ "\n"
  paint .bold "Dialect presets:" ++ "\n" ++ String.join (Dialect.presets.map line)

end SchemaDelta.CommandLine
