/-!
# Texts from files

What reading a file gives, and why nothing could be made of it.
-/

namespace SchemaDelta

/-- The bytes of a file, or why they could not be read, as the system words it. -/
abbrev FileBytes := Except String ByteArray

inductive FileError where
  /-- The file could not be read. -/
  | unreadable (reason : String)
  /-- The text is not of the form that is asked for. -/
  | malformed (expected : String)
  deriving DecidableEq

def FileError.message : FileError → String
  | unreadable reason => s!"IO error: {reason}"
  | malformed expected => s!"Parse error: the text is no {expected}"

/-- The text of a file, which is UTF-8. -/
def FileBytes.text (file : FileBytes) : Except FileError String :=
  match file with
  | .error reason => .error (.unreadable reason)
  | .ok bytes =>
    match String.fromUTF8? bytes with
    | some text => .ok text
    | none => .error (.unreadable "stream did not contain valid UTF-8")

/-- What the text of a file stands for. -/
def FileBytes.parse {α : Type} (file : FileBytes) (expected : String) (read : String → Option α) :
    Except FileError α := do
  match read (← file.text) with
  | some a => return a
  | none => throw (.malformed expected)

end SchemaDelta
