import SchemaDelta.Text.Class
import SchemaDelta.Toml.Text

/-!
# Numbers and dates in TOML

A scalar is a run of letters, digits and signs that is read as a whole: a truth value, a
whole number, a floating point number, or a date, a time or both.
-/

namespace SchemaDelta.Toml

/-- Digits that may be set apart by single underscores; the digits alone. -/
def underscored? (isDigit : Char → Bool) : List Char → Option (List Char)
  | [] => none
  | [c] => if isDigit c then some [c] else none
  | c :: '_' :: rest => if isDigit c then (underscored? isDigit rest).map (c :: ·) else none
  | c :: rest => if isDigit c then (underscored? isDigit rest).map (c :: ·) else none

/-- Digits of a whole part: no leading zeros. -/
def wholeDigits? (cs : List Char) : Option (List Char) :=
  match cs with
  | ['0'] => some ['0']
  | '0' :: _ => none
  | cs => underscored? Char.isDigit cs

/-- A whole number of 64 bits with a sign. -/
def int64? (n : Int) : Option Toml :=
  if Int64.minValue.toInt ≤ n && n ≤ Int64.maxValue.toInt then some (.integer n) else none

/-- The value of digits to a base. -/
def basedValue? (base : Nat) (cs : List Char) : Option Toml :=
  let isDigit (c : Char) : Bool := match hexValue? c with
    | some d => d < base
    | none => false
  (underscored? isDigit cs).bind fun ds =>
    (ds.mapM hexValue?).bind fun vs =>
      let n : Nat := vs.foldl (fun n d => base * n + d) 0
      int64? n

def splitSign : List Char → Bool × List Char
  | '-' :: cs => (true, cs)
  | '+' :: cs => (false, cs)
  | cs => (false, cs)

def integer? (cs : List Char) : Option Toml :=
  match cs with
  | '0' :: 'x' :: ds => basedValue? 16 ds
  | '0' :: 'o' :: ds => basedValue? 8 ds
  | '0' :: 'b' :: ds => basedValue? 2 ds
  | cs =>
    let (negative, ds) := splitSign cs
    (wholeDigits? ds).bind fun ds =>
      (Text.digitsValue? ds).bind fun n => int64? (if negative then -n else n)

/-- A floating point number; one too large has no value. -/
def float? (cs : List Char) : Option Toml :=
  let (negative, cs) := splitSign cs
  match String.ofList cs with
  | "inf" => some (.float (.infinite negative))
  | "nan" => some (.float .nan)
  | _ =>
    let isMark (c : Char) : Bool := c == 'e' || c == 'E'
    let mantissa := cs.takeWhile fun c => !isMark c
    let exponent? : Option Int :=
      match cs.dropWhile fun c => !isMark c with
      | [] => some 0
      | _ :: ds =>
        let (down, ds) := splitSign ds
        (underscored? Char.isDigit ds).bind fun ds =>
          (Text.digitsValue? ds).map fun n => if down then -(n : Int) else n
    let fraction? : Option (List Char) :=
      match mantissa.dropWhile fun c => c != '.' with
      | [] => some []
      | _ :: ds => underscored? Char.isDigit ds
    let hasForm := mantissa.contains '.' || cs.any isMark
    match hasForm, wholeDigits? (mantissa.takeWhile fun c => c != '.'), fraction?, exponent? with
    | true, some whole, some fraction, some x =>
      (Text.digitsValue? (whole ++ fraction)).bind fun n =>
        match Double.ofScientific negative n (x - fraction.length) with
        | .infinite false => none
        | y => some (.float y)
    | _, _, _, _ => none

/-- A number of exactly two digits within bounds. -/
def twoDigits? (low high : Nat) (a b : Char) : Option Nat :=
  (Text.digitsValue? [a, b]).filter fun n => low ≤ n && n ≤ high

def isLeapYear (y : Nat) : Bool := (y % 4 == 0 && y % 100 != 0) || y % 400 == 0

def daysIn (year month : Nat) : Nat :=
  if month == 2 then (if isLeapYear year then 29 else 28)
  else if month == 4 || month == 6 || month == 9 || month == 11 then 30
  else 31

/-- A date, and what follows it. -/
def date? : List Char → Option (List Char)
  | a :: b :: c :: d :: '-' :: e :: f :: '-' :: g :: h :: rest =>
    match Text.digitsValue? [a, b, c, d], twoDigits? 1 12 e f with
    | some year, some month => (twoDigits? 1 (daysIn year month) g h).map fun _ => rest
    | _, _ => none
  | _ => none

/-- A time of day with an optional fraction of a second, and what follows it. -/
def time? : List Char → Option (List Char)
  | a :: b :: ':' :: c :: d :: ':' :: e :: f :: rest =>
    match twoDigits? 0 23 a b, twoDigits? 0 59 c d, twoDigits? 0 60 e f with
    | some _, some _, some _ =>
      match rest with
      | '.' :: x :: rest => if x.isDigit then some (rest.dropWhile Char.isDigit) else none
      | rest => some rest
    | _, _, _ => none
  | _ => none

/-- The distance from universal time, or nothing. -/
def isOffset : List Char → Bool
  | [] => true
  | ['Z'] => true
  | ['z'] => true
  | [s, a, b, ':', c, d] =>
    (s == '+' || s == '-') && (twoDigits? 0 23 a b).isSome && (twoDigits? 0 59 c d).isSome
  | _ => false

def datetime? (cs : List Char) : Option Toml :=
  let written := Toml.datetime (String.ofList cs)
  match date? cs with
  | some [] => some written
  | some (t :: rest) =>
    if t == 'T' || t == 't' || t == ' ' then
      match time? rest with
      | some rest => if isOffset rest then some written else none
      | none => none
    else none
  | none =>
    match time? cs with
    | some [] => some written
    | _ => none

/-- The value of a scalar. -/
def scalar? (cs : List Char) : Option Toml :=
  match String.ofList cs with
  | "true" => some (.boolean true)
  | "false" => some (.boolean false)
  | _ => ((integer? cs).or (float? cs)).or (datetime? cs)

def isScalarChar (c : Char) : Bool :=
  c.isAlphanum || c == '+' || c == '-' || c == '_' || c == '.' || c == ':'

/-- A scalar in front of a text. A date takes along the time of day behind a blank. -/
def readScalar? (cs : List Char) : Option (Toml × List Char) :=
  let run := cs.takeWhile isScalarChar
  let rest := cs.dropWhile isScalarChar
  match date? run, rest with
  | some [], ' ' :: more =>
    let time := more.takeWhile isScalarChar
    if (time.head?.map Char.isDigit).getD false then
      (scalar? (run ++ ' ' :: time)).map fun t => (t, more.dropWhile isScalarChar)
    else (scalar? run).map fun t => (t, rest)
  | _, _ => (scalar? run).map fun t => (t, rest)

end SchemaDelta.Toml
