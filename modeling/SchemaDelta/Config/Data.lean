import SchemaDelta.Config
import SchemaDelta.Json.Reader
import SchemaDelta.Json.Record
import SchemaDelta.Toml.Reader
import SchemaDelta.Toml.Writer

/-!
# Configurations as data

A configuration is written as a TOML document and read from TOML or from JSON. All of
its parts may be left out but the name of a dialect given in full. Records given as
arrays may run on past their last member in TOML, not in JSON.
-/

namespace SchemaDelta

namespace Dialect

/-- Read a dialect that is given in full. -/
def ofJson? (j : Json) : Option Dialect := do
  let r ← j.record?
    ["short_name", "dialect", "supports_catalogs", "supports_schemas", "default_catalog",
     "default_schema", "case_sensitive", "name_case"] false
  return { shortName := ← r.required "short_name" Json.string?
           family := ← r.defaulted "dialect" .generic (Json.choice? Family.ofName?)
           hasCatalogs := ← r.defaulted "supports_catalogs" true Json.bool?
           hasSchemas := ← r.defaulted "supports_schemas" true Json.bool?
           defaultCatalog := ← r.optional "default_catalog" Json.string?
           defaultSchema := ← r.optional "default_schema" Json.string?
           caseSensitive := ← r.defaulted "case_sensitive" false Json.bool?
           nameCase := ← r.defaulted "name_case" .upper (Json.choice? NameCase.ofName?) }

/-- The members of a dialect; default names are left out when there are none. -/
def members (d : Dialect) : List (String × Toml) :=
  let nameMember (key : String) (name : Option String) : List (String × Toml) :=
    match name with
    | some s => [(key, .string s)]
    | none => []
  [("short_name", .string d.shortName), ("dialect", .string d.family.name),
   ("supports_catalogs", .boolean d.hasCatalogs), ("supports_schemas", .boolean d.hasSchemas)] ++
    nameMember "default_catalog" d.defaultCatalog ++ nameMember "default_schema" d.defaultSchema ++
    [("case_sensitive", .boolean d.caseSensitive), ("name_case", .string d.nameCase.name)]

def toToml (d : Dialect) : Toml := .table d.members

end Dialect

namespace Config

namespace DialectChoice

/-- A name, or a table with a dialect in full; nothing in the table is skipped unread. -/
def ofJson? (j : Json) : Option DialectChoice :=
  match j with
  | .string s => some (.preset s)
  | .object members => do
    let _ ← (Json.object members).settle?
    let r ← (Json.object members).record? ["custom"] false
    return .custom (← r.required "custom" Dialect.ofJson?)
  | _ => none

def toToml : DialectChoice → Toml
  | preset name => .string name
  | custom d => .table [("custom", d.toToml)]

end DialectChoice

def namesOfJson? (j : Json) : Option (List String) := j.listOf? Json.string?

def namesToToml (names : List String) : Toml := .array (names.map .string)

namespace AliasEntry

def ofJson? (loose : Bool) (j : Json) : Option AliasEntry := do
  let r ← j.record? ["reference", "comparison"] loose
  return { reference := ← r.required "reference" Json.string?
           comparison := ← r.required "comparison" Json.string? }

def toToml (e : AliasEntry) : Toml :=
  .table [("reference", .string e.reference), ("comparison", .string e.comparison)]

end AliasEntry

/-- Read a configuration; `loose` lets arrays run on past the last member of a record. -/
def ofJson? (loose : Bool) (j : Json) : Option Config := do
  let r ← j.record? ["dialect", "compare"] loose
  let dialect ← r.defaulted "dialect" (.preset "generic") DialectChoice.ofJson?
  let r ← r.defaulted "compare" ⟨false, []⟩ fun j =>
    j.record?
      ["types", "suppressed_fields", "schema_comparisons", "include_catalog",
       "diff_column_order"] loose
  let kinds ← r.defaulted "types" [] namesOfJson?
  let suppressed ← r.defaulted "suppressed_fields" [] (Json.membersOf? namesOfJson?)
  let aliases ← r.defaulted "schema_comparisons" [] (Json.listOf? (AliasEntry.ofJson? loose))
  let includeCatalog ← r.defaulted "include_catalog" false Json.bool?
  let columnOrder ← r.defaulted "diff_column_order" false Json.bool?
  return { dialect, kinds, suppressed := Keyed.ofList suppressed,
           sorted := Keyed.sorted_ofList suppressed, aliases, includeCatalog, columnOrder }

/-- The members of a configuration. -/
def members (c : Config) : List (String × Toml) :=
  [("dialect", c.dialect.toToml),
   ("compare", .table
     [("types", namesToToml c.kinds),
      ("suppressed_fields", .table (c.suppressed.map fun e => (e.1, namesToToml e.2))),
      ("schema_comparisons", .array (c.aliases.map AliasEntry.toToml)),
      ("include_catalog", .boolean c.includeCatalog),
      ("diff_column_order", .boolean c.columnOrder)])]

def toToml (c : Config) : Toml := .table c.members

/-- Read a configuration from a TOML tree. -/
def ofToml? (t : Toml) : Option Config := ofJson? true t.toJson

/-- Read a configuration from the text of a TOML document. -/
def parse? (text : String) : Option Config := (Toml.read? text).bind ofToml?

/-- The text of a configuration as a TOML document. -/
def render (c : Config) : String := Toml.render c.members

end Config

end SchemaDelta
