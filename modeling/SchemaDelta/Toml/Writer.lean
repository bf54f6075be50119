import SchemaDelta.Double.Text
import SchemaDelta.Toml.Text

/-!
# Writing TOML

A table is written with its plain members first, one to a line, and then its tables in
order, each under a header with its full path and after an empty line. A table that has
nothing but tables goes without a header. An array of several items has one item to a
line.
-/

namespace SchemaDelta.Toml

mutual

/-- A value in place. -/
def inline : Toml → String
  | .string s => quote s
  | .integer n => toString n
  | .float x => x.data
  | .boolean b => if b then "true" else "false"
  | .datetime s => s
  | .array items => "[" ++ ", ".intercalate (inlineItems items) ++ "]"
  | .table members => "\x7b " ++ ", ".intercalate (inlineMembers members) ++ " \x7d"

def inlineItems : List Toml → List String
  | [] => []
  | t :: rest => inline t :: inlineItems rest

def inlineMembers : List (String × Toml) → List String
  | [] => []
  | (k, t) :: rest => (quoteKey k ++ " = " ++ inline t) :: inlineMembers rest

end

/-- A value behind its key; an array of several items has one item to a line. -/
def value : Toml → String
  | .array (a :: b :: rest) =>
    "[\n" ++ String.join ((inlineItems (a :: b :: rest)).map fun s => "    " ++ s ++ ",\n") ++ "]"
  | t => inline t

/-- The lines of the plain members. -/
def plainLines (members : List (String × Toml)) : String :=
  String.join ((members.filter fun m => !m.2.hasHeader).map fun m =>
    quoteKey m.1 ++ " = " ++ value m.2 ++ "\n")

def pathText (path : List String) : String := ".".intercalate (path.map quoteKey)

mutual

/-- The blocks of a member that has a header: its heading, if it needs one, and its lines. -/
def blocks (path : List String) : Toml → List String
  | .table members =>
    let lines := plainLines members
    let nested := memberBlocks path members
    if lines.isEmpty && !members.isEmpty then nested
    else ("[" ++ pathText path ++ "]\n" ++ lines) :: nested
  | .array items => if items.all isTable then itemBlocks path items else []
  | _ => []

/-- The blocks of tables in a row. -/
def itemBlocks (path : List String) : List Toml → List String
  | [] => []
  | .table members :: rest =>
    ("[[" ++ pathText path ++ "]]\n" ++ plainLines members) :: memberBlocks path members ++
      itemBlocks path rest
  | _ :: rest => itemBlocks path rest

def memberBlocks (path : List String) : List (String × Toml) → List String
  | [] => []
  | (k, t) :: rest => blocks (path ++ [k]) t ++ memberBlocks path rest

end

/-- The text of a document, the members of its root table. -/
def render (members : List (String × Toml)) : String :=
  let lines := plainLines members
  "\n".intercalate ((if lines.isEmpty then [] else [lines]) ++ memberBlocks [] members)

end SchemaDelta.Toml
