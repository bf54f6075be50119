import SchemaDelta.Comparison
import SchemaDelta.Document.Json
import SchemaDelta.Document.Resolve
import SchemaDelta.FileText
import SchemaDelta.Rulebook

/-!
# Sources

A source is one side of a run: a name for messages, and the snapshot that loading it
gives. A run loads the reference first and stops at the first source that fails.
-/

namespace SchemaDelta

inductive SnapshotError where
  | file (e : FileError)
  | unresolved (e : UnresolvedReference)
  deriving DecidableEq

def SnapshotError.message : SnapshotError → String
  | file e => e.message
  | unresolved e => e.message

/-- The snapshot that a document stands for. -/
def Snapshot.ofDocument (d : Document) (origin : Nat) : Except SnapshotError Snapshot :=
  (d.resolve origin).mapError .unresolved

/-- The snapshot of a document that is given as text. -/
def Snapshot.ofText (text : String) (origin : Nat) : Except SnapshotError Snapshot :=
  match Document.parse? text with
  | some d => ofDocument d origin
  | none => .error (.file (.malformed "snapshot document"))

/-- The snapshot of a document in a file. -/
def Snapshot.ofFile (file : FileBytes) (origin : Nat) : Except SnapshotError Snapshot := do
  ofText (← file.text.mapError .file) origin

structure Source where
  name : String
  snapshot : Except SnapshotError Snapshot

/-- Why a run failed. -/
inductive RunError where
  | source (name : String) (e : SnapshotError)
  | comparison (e : CompareError)

namespace RunError

/-- What lies behind the failure. -/
def cause? : RunError → Option String
  | source _ e => some e.message
  | comparison _ => none

def message : RunError → String
  | source name e =>
    let reason := e.message
    s!"Failed to load snapshot '{name}': {reason}"
  | comparison e => e.message

end RunError

/-- The source that is the document in a file. -/
def Source.ofFile (name : String) (file : FileBytes) (origin : Nat) : Source :=
  ⟨name, Snapshot.ofFile file origin⟩

def Source.load (s : Source) : Except RunError Snapshot := s.snapshot.mapError (.source s.name)

/-- Compare two sources under the rules that come with the library. -/
def compareSources (d : Dialect) (p : Policy) (reference comparison : Source) :
    Except RunError Findings := do
  let r ← reference.load
  let c ← comparison.load
  (compareSnapshots ((Rulebook.builtin d).judge d p) p r c).mapError .comparison

end SchemaDelta
