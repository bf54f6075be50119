import SchemaDelta.Kind

/-!
# Database dialects

What a comparison needs to know about a database: which levels of containers it has,
what their default names are, and how names are spelled and compared.
-/

namespace SchemaDelta

/-- How a database spells the names of containers. -/
inductive NameCase where
  | asWritten
  | upper
  | lower
  deriving DecidableEq

namespace NameCase

def all : List NameCase := [asWritten, upper, lower]

def name : NameCase → String
  | asWritten => "original"
  | upper => "upper"
  | lower => "lower"

def ofName? (s : String) : Option NameCase := all.find? fun c => c.name == s

def apply (c : NameCase) (s : String) : String :=
  match c with
  | asWritten => s
  | upper => Text.upper s
  | lower => Text.lower s

end NameCase

namespace Dialect

/-- The product a dialect belongs to. -/
inductive Family where
  | postgres
  | mysql
  | mariadb
  | oracle
  | mssql
  | h2
  | generic
  deriving DecidableEq

def Family.all : List Family := [.postgres, .mysql, .mariadb, .oracle, .mssql, .h2, .generic]

def Family.name : Family → String
  | .postgres => "postgres"
  | .mysql => "mysql"
  | .mariadb => "mariadb"
  | .oracle => "oracle"
  | .mssql => "mssql"
  | .h2 => "h2"
  | .generic => "generic"

def Family.ofName? (s : String) : Option Family := Family.all.find? fun f => f.name == s

end Dialect

/-- A dialect, a preset or one of the user's own. -/
structure Dialect where
  shortName : String
  family : Dialect.Family
  hasCatalogs : Bool
  hasSchemas : Bool
  defaultCatalog : Option String
  defaultSchema : Option String
  /-- Whether names that differ in case only are different. -/
  caseSensitive : Bool
  nameCase : NameCase
  deriving DecidableEq

namespace Dialect

/-- The dialect assumed when none is named. -/
def generic : Dialect :=
  { shortName := "generic", family := .generic, hasCatalogs := true, hasSchemas := true,
    defaultCatalog := none, defaultSchema := none, caseSensitive := false, nameCase := .upper }

def postgres : Dialect :=
  { generic with
    shortName := "postgres", family := .postgres, defaultSchema := some "public"
    nameCase := .lower }

def mysql : Dialect :=
  { generic with
    shortName := "mysql", family := .mysql, hasSchemas := false, nameCase := .asWritten }

def mariadb : Dialect := { mysql with shortName := "mariadb", family := .mariadb }

def oracle : Dialect :=
  { generic with shortName := "oracle", family := .oracle, hasSchemas := false }

def mssql : Dialect :=
  { generic with
    shortName := "mssql", family := .mssql, defaultSchema := some "dbo", nameCase := .asWritten }

def h2 : Dialect :=
  { generic with shortName := "h2", family := .h2, defaultSchema := some "PUBLIC" }

/-- The presets, in the order in which they are listed. -/
def presets : List Dialect := [postgres, mysql, mariadb, oracle, mssql, h2, generic]

/-- The preset of a name, whatever its case; two products have a second name. -/
def preset? (name : String) : Option Dialect :=
  let folded := Text.lower name
  let folded :=
    if folded == "postgresql" then "postgres"
    else if folded == "sqlserver" then "mssql"
    else folded
  presets.find? fun d => d.shortName == folded

/-- The spelling under which a name is compared. -/
def correctName (d : Dialect) (name : String) : String :=
  if d.caseSensitive then name else d.nameCase.apply name

/-- Whether two names are the same to the database. -/
def namesEqual (d : Dialect) (a b : String) : Bool :=
  if d.caseSensitive then a == b else Text.sameIgnoringCase a b

end Dialect

end SchemaDelta
