import SchemaDelta.Json

/-!
# TOML

TOML values as trees. A table keeps its members in order, no name twice.
-/

namespace SchemaDelta

inductive Toml where
  | string (s : String)
  | integer (n : Int)
  | float (x : Double)
  | boolean (b : Bool)
  /-- A date, a time or both, as written. -/
  | datetime (written : String)
  | array (items : List Toml)
  | table (members : List (String × Toml))

namespace Toml

mutual

/-- The tree as records are read from it. A date is a record of its own, with no member that another
record has. No record has a member that is a floating point number, so one that is not finite may
stand as a zero. -/
def toJson : Toml → Json
  | .string s => .string s
  | .integer n => .integer n
  | .float x => if h : x.isFinite then .float x h else .float (.zero false) rfl
  | .boolean b => .bool b
  | .datetime s => .object [("datetime", .string s)]
  | .array items => .array (toJsonItems items)
  | .table members => .object (toJsonMembers members)

def toJsonItems : List Toml → List Json
  | [] => []
  | t :: rest => t.toJson :: toJsonItems rest

def toJsonMembers : List (String × Toml) → List (String × Json)
  | [] => []
  | (k, t) :: rest => (k, t.toJson) :: toJsonMembers rest

end

def isTable : Toml → Bool
  | .table _ => true
  | _ => false

/-- A member that is written under a header of its own: a table, or some tables in a row. -/
def hasHeader : Toml → Bool
  | .table _ => true
  | .array items => !items.isEmpty && items.all isTable
  | _ => false

end Toml

end SchemaDelta
