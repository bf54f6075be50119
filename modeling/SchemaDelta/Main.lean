import SchemaDelta.CommandLine
import Std.Time

/-!
# The program

The command line on the real file system and terminal.
-/

namespace SchemaDelta.CommandLine

/-- An error number and its text in the usual form. -/
def systemError (code : UInt32) (text : String) : String :=
  let n := code.toInt32.toInt.natAbs
  s!"{text.capitalize} (os error {n})"

/-- The system's word on an error. -/
def systemReason : IO.Error → String
  | .alreadyExists _ code text | .invalidArgument _ code text | .permissionDenied _ code text
  | .resourceExhausted _ code text | .inappropriateType _ code text | .noSuchThing _ code text =>
    systemError code text
  | .interrupted _ code text | .noFileOrDirectory _ code text => systemError code text
  | .otherError code text | .resourceBusy code text | .resourceVanished code text
  | .unsupportedOperation code text | .hardwareFault code text
  | .unsatisfiedConstraints code text | .illegalOperation code text | .protocolError code text
  | .timeExpired code text => systemError code text
  | .unexpectedEof => "end of file"
  | .userError text => text

/-- What an action gives, or the system's word on why it failed. -/
def attempt {α : Type} (action : IO α) : IO (Except String α) := do
  match ← action.toBaseIO with
  | .ok a => return .ok a
  | .error e => return .error (systemReason e)

/-- Whether the environment sets a variable to something but `0`. -/
def isSet (name : String) : IO (Option Bool) := do
  return (← IO.getEnv name).map fun value => value != "0"

/-- Whether to write in color: where it is forced, or else on a terminal unless it is refused. -/
def wantsColor : IO Bool := do
  if (← isSet "CLICOLOR_FORCE") == some true then return true
  if (← isSet "NO_COLOR").isSome then return false
  return ((← isSet "CLICOLOR").getD true) && (← (← IO.getStdout).isTty)

def now : IO String := do
  let time := Std.Time.DateTime.ofTimestamp (← Std.Time.Timestamp.now) .UTC
  return time.format "uuuu-MM-dd'T'HH:mm:ss.SSSSSSSSS" ++ "+00:00"

def systemHost (colored : Bool) : Host IO where
  read path := attempt (IO.FS.readBinFile path)
  hasEntry path := return (← attempt (IO.FS.Handle.mk path .read)).isOk
  write path text := attempt (IO.FS.writeFile path text)
  out := IO.print
  err := IO.eprint
  now := now
  colored

end SchemaDelta.CommandLine

def main (arguments : List String) : IO UInt32 := do
  (SchemaDelta.CommandLine.systemHost (← SchemaDelta.CommandLine.wantsColor)).run arguments
