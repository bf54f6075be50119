import SchemaDelta.Json

/-!
# Records in JSON

A record is an object with known member names, or an array of its members in order.
Members of other names are skipped, whatever they hold; a known name may not be
repeated. A reader says for each member whether it may be missing and whether `null`
stands for its absence. A record is written without the members that are not set.
-/

namespace SchemaDelta.Json

/-- The members of a record that are present. -/
structure Record where
  /-- Given as an array, in which only members with a default may be left out. -/
  positional : Bool
  members : List (String × Json)

/-- The record with the given member names; `loose` lets an array run on past the last member. -/
def record? (names : List String) (loose : Bool) : Json → Option Record
  | .object members =>
    let known := members.filter fun m => names.contains m.1
    if (known.map (·.1)).Nodup then some ⟨false, known⟩ else none
  | .array items =>
    if items.length ≤ names.length || loose then some ⟨true, names.zip items⟩ else none
  | _ => none

namespace Record

def get? (r : Record) (name : String) : Option Json := r.members.lookup name

/-- A member that must be there. -/
def required {α : Type} (r : Record) (name : String) (read : Json → Option α) : Option α :=
  (r.get? name).bind read

/-- A member with a default. -/
def defaulted {α : Type} (r : Record) (name : String) (value : α) (read : Json → Option α) :
    Option α :=
  match r.get? name with
  | none => some value
  | some j => read j

/-- A member that may be missing or `null`. -/
def optional {α : Type} (r : Record) (name : String) (read : Json → Option α) :
    Option (Option α) :=
  match r.get? name with
  | none | some .null => some none
  | some j => (read j).map some

/-- A member that may be `null`, and missing only from an object. -/
def nullable {α : Type} (r : Record) (name : String) (read : Json → Option α) :
    Option (Option α) :=
  if r.positional && (r.get? name).isNone then none else r.optional name read

end Record

/-- A member that is left out when there is no value. -/
def optionalMember {α : Type} (name : String) (value : Option α) (write : α → Json) :
    List (String × Json) :=
  match value with
  | some v => [(name, write v)]
  | none => []

def textMember (name : String) (value : Option String) : List (String × Json) :=
  optionalMember name value .string

def flagMember (name : String) (value : Option Bool) : List (String × Json) :=
  optionalMember name value .bool

end SchemaDelta.Json
