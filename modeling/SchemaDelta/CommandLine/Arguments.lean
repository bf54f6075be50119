/-!
# Arguments

What the arguments of a command line ask for. Options may stand anywhere among the
operands, short ones may share a hyphen, and a value may be joined to its option. After
`--` everything is an operand. No option is given twice. The first argument that asks for
help or makes no sense settles what is asked for.
-/

namespace SchemaDelta.CommandLine

/-- What to compare, and how. -/
structure DiffRequest where
  reference : String
  comparison : String
  config : Option String
  dialect : Option String
  output : Option String
  includeCatalog : Bool
  columnOrder : Bool
  deriving DecidableEq

inductive Request where
  | diff (verbose : Bool) (r : DiffRequest)
  | dialects
  | version
  | help
  /-- The arguments make no sense. -/
  | misuse
  deriving DecidableEq

/-- An option by its long name and, perhaps, its letter. -/
structure OptionForm where
  long : String
  short : Option Char
  /-- Whether a value follows; an option without one is a switch. -/
  takesValue : Bool
  /-- Whether the value may be empty. -/
  mayBeEmpty : Bool

def verboseForm : OptionForm := ⟨"verbose", some 'v', false, false⟩

/-- What may stand behind the name of a command. -/
structure CommandForm where
  options : List OptionForm
  /-- The number of operands. -/
  operands : Nat

def diffForm : CommandForm := ⟨
  [verboseForm, ⟨"config", some 'c', true, false⟩, ⟨"dialect", some 'd', true, true⟩,
   ⟨"output", some 'o', true, false⟩, ⟨"include-catalog", none, false, false⟩,
   ⟨"diff-column-order", none, false, false⟩], 2⟩

def dialectsForm : CommandForm := ⟨[verboseForm], 0⟩

/-- What has been taken from the arguments. -/
structure Taken where
  /-- The options given, by long name; a switch has an empty value. -/
  options : List (String × String)
  operands : List String

namespace Taken

def none : Taken := ⟨[], []⟩

def has (t : Taken) (form : OptionForm) : Bool := (t.options.lookup form.long).isSome

/-- Take an option, which must be the first of its name. -/
def option? (t : Taken) (form : OptionForm) (value : String) : Option Taken :=
  if t.has form || (form.takesValue && !form.mayBeEmpty && value.isEmpty) then Option.none
  else some { t with options := t.options ++ [(form.long, value)] }

/-- Take an operand, which is not empty, if there are fewer than `limit` already. -/
def operand? (limit : Nat) (t : Taken) (value : String) : Option Taken :=
  if value.isEmpty || limit ≤ t.operands.length then Option.none
  else some { t with operands := t.operands ++ [value] }

end Taken

/-- What an argument that is not an operand means. -/
inductive Meaning where
  | taken (t : Taken)
  /-- The value of this option is the next argument. -/
  | awaits (form : OptionForm) (t : Taken)
  | help
  | version
  | misuse

def Meaning.ofTaken : Option Taken → Meaning
  | some t => .taken t
  | none => .misuse

/-- An argument is an operand, or the value of an option, unless a hyphen begins it; a lone hyphen
is one. -/
def isOperand (argument : String) : Bool := argument == "-" || argument.toList.head? != some '-'

/-- The meaning of a long option, given without its hyphens. -/
def readLong (forms : List OptionForm) (hasVersion : Bool) (t : Taken) (cs : List Char) : Meaning :=
  let name := String.ofList (cs.takeWhile fun c => c != '=')
  let value? := match cs.dropWhile fun c => c != '=' with
    | [] => none
    | _ :: value => some (String.ofList value)
  match forms.find? fun f => f.long == name, value? with
  | some form, none => if form.takesValue then .awaits form t else .ofTaken (t.option? form "")
  | some form, some value => if form.takesValue then .ofTaken (t.option? form value) else .misuse
  | none, none => if name == "help" then .help
    else if name == "version" && hasVersion then .version
    else .misuse
  | none, some _ => .misuse

/-- The meaning of some letters behind one hyphen. -/
def readLetters (forms : List OptionForm) (hasVersion : Bool) (t : Taken) : List Char → Meaning
  | [] => .taken t
  | c :: cs =>
    match forms.find? fun f => f.short == some c with
    | none => if c == 'h' then .help else if c == 'V' && hasVersion then .version else .misuse
    | some form =>
      if form.takesValue then
        match cs with
        | [] => .awaits form t
        | '=' :: value => .ofTaken (t.option? form (String.ofList value))
        | value => .ofTaken (t.option? form (String.ofList value))
      else
        match t.option? form "" with
        | some t => readLetters forms hasVersion t cs
        | none => .misuse

/-- The meaning of an argument that a hyphen begins. -/
def readOption (forms : List OptionForm) (hasVersion : Bool) (t : Taken) (argument : String) :
    Meaning :=
  match argument.toList with
  | '-' :: '-' :: cs => readLong forms hasVersion t cs
  | '-' :: cs => readLetters forms hasVersion t cs
  | _ => .misuse

/-- Take all arguments of a command; otherwise, what they ask for instead. -/
def takeAll (form : CommandForm) (t : Taken) : List String → Except Request Taken
  | [] => .ok t
  | "--" :: rest =>
    match rest.foldlM (Taken.operand? form.operands) t with
    | some t => .ok t
    | none => .error .misuse
  | a :: rest =>
    if isOperand a then
      match t.operand? form.operands a with
      | some t => takeAll form t rest
      | none => .error .misuse
    else
      match readOption form.options false t a with
      | .taken t => takeAll form t rest
      | .awaits option t =>
        match rest with
        | [] => .error .misuse
        | value :: rest =>
          if isOperand value then
            match t.option? option value with
            | some t => takeAll form t rest
            | none => .error .misuse
          else .error .misuse
      | .help => .error .help
      | .version => .error .version
      | .misuse => .error .misuse

/-- What the arguments behind the name of a command ask for. -/
def readCommand (verbose : Bool) (command : String) (arguments : List String) : Request :=
  match command with
  | "diff" =>
    match takeAll diffForm .none arguments with
    | .error request => request
    | .ok t =>
      match t.operands with
      | [reference, comparison] =>
        let has (long : String) : Bool := (t.options.lookup long).isSome
        .diff (verbose || has "verbose")
          { reference, comparison
            config := t.options.lookup "config"
            dialect := t.options.lookup "dialect"
            output := t.options.lookup "output"
            includeCatalog := has "include-catalog"
            columnOrder := has "diff-column-order" }
      | _ => .misuse
  | "dialects" =>
    match takeAll dialectsForm .none arguments with
    | .error request => request
    | .ok _ => .dialects
  | "help" =>
    if arguments.isEmpty || [["diff"], ["dialects"], ["help"]].contains arguments then .help
    else .misuse
  | _ => .misuse

/-- What the arguments in front of the name of a command, and those behind it, ask for. -/
def readArguments (t : Taken) : List String → Request
  | [] => .misuse
  | a :: rest =>
    if isOperand a then readCommand (t.has verboseForm) a rest
    else
      match readOption [verboseForm] true t a with
      | .taken t => readArguments t rest
      | .awaits _ _ => .misuse
      | .help => .help
      | .version => .version
      | .misuse => .misuse

/-- What a command line asks for. -/
def Request.ofArguments (arguments : List String) : Request := readArguments .none arguments

end SchemaDelta.CommandLine
