import SchemaDelta.Text.Class

/-!
# Column data types

A type name with an optional size and an optional number of decimal digits, as in
`numeric(10,2)`. Reading accepts blanks around every part; a text of any other form
is a type name as a whole.
-/

namespace SchemaDelta

structure DataType where
  name : String
  size : Option UInt32
  digits : Option UInt32
  deriving DecidableEq

namespace DataType

def bare (name : String) : DataType := ⟨name, none, none⟩

/-- Whether the written form has parameters. -/
def hasParameters (t : DataType) : Bool := t.size.isSome

/-- The written form; digits are shown only after a size. -/
def text (t : DataType) : String :=
  match t.size, t.digits with
  | some size, some digits => s!"{t.name}({size.toNat},{digits.toNat})"
  | some size, none => s!"{t.name}({size.toNat})"
  | none, _ => t.name

def isParenthesis (c : Char) : Bool := c == '(' || c == ')'

def skipBlanks (cs : List Char) : List Char := cs.dropWhile Text.isBlank

/-- A parameter of 32 bits in ASCII digits. Digits of another script and larger numbers have no
value. -/
def parameter? (digits : List Char) : Option UInt32 :=
  (Text.natBelow? UInt32.size digits).map UInt32.ofNat

/-- The closing parenthesis, with nothing but blanks after it. -/
def closes (cs : List Char) : Bool :=
  match skipBlanks cs with
  | ')' :: rest => (skipBlanks rest).isEmpty
  | _ => false

/-- The digit runs between the parentheses, from after the opening one. -/
def parameterRuns? (cs : List Char) : Option (List Char × Option (List Char)) :=
  let cs := skipBlanks cs
  let first := cs.takeWhile Text.isAnyDigit
  let rest := skipBlanks (cs.dropWhile Text.isAnyDigit)
  if first.isEmpty then none
  else match rest with
    | ',' :: rest =>
      let rest := skipBlanks rest
      let second := rest.takeWhile Text.isAnyDigit
      if !second.isEmpty && closes (rest.dropWhile Text.isAnyDigit) then some (first, some second)
      else none
    | rest => if closes rest then some (first, none) else none

/-- The name in front of the parameters: trimmed, or its last blank when it has nothing else. -/
def parameterName? (cs : List Char) : Option (List Char) :=
  match Text.trimChars cs, cs.getLast? with
  | _, none => none
  | [], some c => some [c]
  | trimmed, some _ => some trimmed

/-- The parts of a text of the form `name(size)` or `name(size,digits)`. -/
def parameterized? (cs : List Char) : Option DataType :=
  match cs.dropWhile fun c => !isParenthesis c with
  | '(' :: rest =>
    match parameterName? (cs.takeWhile fun c => !isParenthesis c), parameterRuns? rest with
    | some name, some (size, digits) =>
      some ⟨String.ofList name, parameter? size, digits.bind parameter?⟩
    | _, _ => none
  | _ => none

/-- Read a written type. -/
def parse (s : String) : DataType := (parameterized? s.toList).getD (bare (Text.trim s))

end DataType

/-- What is known about a column that counts on its own. -/
structure AutoIncrement where
  start : Option Int
  step : Option Int
  deriving DecidableEq

namespace AutoIncrement

def text (a : AutoIncrement) : String :=
  let start := match a.start with
    | some n => s!" START WITH {n}"
    | none => ""
  let step := match a.step with
    | some n => s!" INCREMENT BY {n}"
    | none => ""
  "AUTO INCREMENT" ++ start ++ step

end AutoIncrement

end SchemaDelta
