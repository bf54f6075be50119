import SchemaDelta.CommandLine.Arguments
import SchemaDelta.CommandLine.Summary
import SchemaDelta.Config.Data
import SchemaDelta.Source

/-!
# Command line

A comparison of two snapshot files. Its exit code is 0 if nothing was found, and 1 if
something was or the run failed; arguments that make no sense end with 2. Settings come
from a configuration file and are overridden by options. The report is stored before
anything is printed about it.
-/

namespace SchemaDelta.CommandLine

/-- What a run needs of its surroundings. -/
structure Host (m : Type → Type) where
  read : String → m FileBytes
  /-- Whether there is anything of this name. -/
  hasEntry : String → m Bool
  /-- Store a text; otherwise, why not, as the system words it. -/
  write : String → String → m (Except String Unit)
  out : String → m Unit
  err : String → m Unit
  /-- The time, as reports give it. -/
  now : m String
  colored : Bool

/-- Why a run ends early. -/
structure Failure where
  message : String
  cause : Option String

namespace Failure

/-- What is said about a failure; what lies behind it follows, indented. -/
def text (f : Failure) : String :=
  let cause := match f.cause with
    | some cause => "\n\nCaused by:\n    " ++ cause.replace "\n" "\n    "
    | none => ""
  "Error: " ++ f.message ++ cause ++ "\n"

def ofFile (e : FileError) : Failure := ⟨e.message, none⟩

def ofUnknownName (e : Config.UnknownName) : Failure := ⟨e.message, none⟩

def ofRun (e : RunError) : Failure := ⟨e.message, e.cause?⟩

end Failure

/-- The configuration file that is used, if it exists, when none is named. -/
def defaultConfigFile : String := "schemadiff.toml"

/-- The settings of a request over those of a configuration. -/
def DiffRequest.override (r : DiffRequest) (c : Config) : Config :=
  { c with
    dialect := (r.dialect.map .preset).getD c.dialect
    includeCatalog := c.includeCatalog || r.includeCatalog
    columnOrder := c.columnOrder || r.columnOrder }

/-- What a report says about the run it comes from. -/
def runMetadata (r : DiffRequest) (d : Dialect) : Json :=
  .object [("comparison", .string r.comparison), ("dialect", .string d.shortName),
    ("reference", .string r.reference)]

section

variable {m : Type → Type} [Monad m]

/-- Go on with a result, or end with the failure that an error amounts to. -/
def orFail {ε α : Type} (failure : ε → Failure) (r : Except ε α) : ExceptT Failure m α :=
  .mk (pure (r.mapError failure))

def Host.paint (h : Host m) : Painter := Style.paint h.colored

/-- Read the configuration of a file. -/
def Host.readConfig (h : Host m) (path : String) : ExceptT Failure m Config := do
  let file ← h.read path
  orFail .ofFile (file.parse "configuration" Config.parse?)

/-- The configuration of the named file, else of the default one, else the one with no settings. -/
def Host.config (h : Host m) (verbose : Bool) : Option String → ExceptT Failure m Config
  | some path => h.readConfig path
  | none => do
    if ← h.hasEntry defaultConfigFile then h.readConfig defaultConfigFile
    else
      if verbose then h.err (h.paint .yellow "No config file found, using defaults" ++ "\n")
      return {}

/-- Compare two files, store the report where that is asked for, and print a summary. -/
def Host.diff (h : Host m) (verbose : Bool) (r : DiffRequest) : ExceptT Failure m UInt32 := do
  let config := r.override (← h.config verbose r.config)
  let dialect ← orFail .ofUnknownName config.dialect?
  let policy ← orFail .ofUnknownName config.policy?
  if verbose then
    h.err (h.paint .cyan "Using" ++ " dialect: " ++ dialect.shortName ++ "\n")
    h.err (h.paint .cyan "Comparing" ++ " " ++ r.reference ++ " -> " ++ r.comparison ++ "\n")
  let reference := Source.ofFile r.reference (← h.read r.reference) 0
  let comparison := Source.ofFile r.comparison (← h.read r.comparison) 1
  let findings ← orFail .ofRun (compareSources dialect policy reference comparison)
  let report :=
    { Report.ofFindings findings (← h.now) with metadata := some (runMetadata r dialect) }
  match r.output with
  | none => pure ()
  | some path =>
    orFail (⟨·, none⟩) (← h.write path report.render)
    if verbose then h.err (h.paint .green "Report saved to:" ++ " " ++ path ++ "\n")
  h.out (summary h.paint report)
  return if report.hasDifferences then 1 else 0

/-- How the program is used. -/
def usage : String :=
  "Usage: schemadiff [-v] diff [-c CONFIG] [-d DIALECT] [-o OUTPUT] [--include-catalog]\n" ++
    "         [--diff-column-order] REFERENCE COMPARISON\n" ++
    "       schemadiff dialects\n" ++
    "       schemadiff --version\n"

/-- Do what a command line asks for; the exit code. -/
def Host.run (h : Host m) (arguments : List String) : m UInt32 := do
  match Request.ofArguments arguments with
  | .diff verbose r =>
    match ← (h.diff verbose r).run with
    | .ok code => return code
    | .error f => do
      h.err f.text
      return 1
  | .dialects => do
    h.out (dialectList h.paint)
    return 0
  | .version => do
    h.out "schemadiff 0.1.0\n"
    return 0
  | .help => do
    h.out usage
    return 0
  | .misuse => do
    h.err usage
    return 2

end

end SchemaDelta.CommandLine
