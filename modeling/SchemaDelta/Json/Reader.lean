import SchemaDelta.Json
import SchemaDelta.Text.Class

/-!
# Reading JSON

A text is cut into tokens by an automaton that takes one character at a time, and the
tokens are put together by a second one that keeps the open arrays and objects on a
stack. Both refuse whatever is not strict JSON.

Numbers are read in two steps: the leading digits that fit in 64 bits are kept as a
whole number, which is rounded to a double and then scaled by a power of ten, with a
rounding of its own. So the last bit of a number of many digits may differ from the
nearest double.
-/

namespace SchemaDelta.Json

/-- The greatest decimal exponent that a double is scaled by at once. -/
def maxScale : Nat := 308

/-- `x · 10 ^ exponent`, a very small one in steps; none when it is too large. -/
def scale? (x : Double) (exponent : Int) : Option Double :=
  if 0 ≤ exponent then
    if exponent ≤ maxScale then
      let y := x.timesTenPow exponent.toNat
      if y.isInfinite then none else some y
    else if x.isZero then some x
    else none
  else if -exponent ≤ maxScale then some (x.overTenPow (-exponent).toNat)
  else if x.isZero then some x
  else scale? (x.overTenPow maxScale) (exponent + maxScale)
termination_by exponent.natAbs
decreasing_by simp only [maxScale] at *; omega

/-- The number that leading digits make as long as it stays below 2⁶⁴, and the digits left over. -/
def takeDigits (n : Nat) : List Char → Nat × List Char
  | [] => (n, [])
  | c :: cs =>
    let next := 10 * n + (c.toNat - 48)
    if next < UInt64.size then takeDigits next cs else (n, c :: cs)

/-- A float from its kept digits; beyond the doubles it has no value. -/
def floatOf (negative : Bool) (significand : Nat) (exponent : Int) : Json :=
  match scale? (.ofNat significand) exponent with
  | some x => .ofDouble (if negative then x.neg else x)
  | none => .unreadable

/-- Exponents from here on are not computed with. -/
def exponentBound : Nat := twoPow 31

/-- A number from its sign, its digits before and after the point, and its exponent. -/
def numberOf (negative : Bool) (whole : List Char) (fraction : Option (List Char))
    (exponent : Option (Bool × List Char)) : Json :=
  let (n, left) := takeDigits 0 whole
  let start : Int := left.length
  match fraction, exponent with
  | none, none =>
    if !left.isEmpty then floatOf negative n start
    else if !negative then .integer n
    else if n == 0 || twoPow 63 < n then .ofDouble (Double.ofNat n).neg
    else .integer (-n)
  | fraction, exponent =>
    let places := fraction.getD []
    let (n, left) := takeDigits n places
    let start := if fraction.isSome then start - (places.length - left.length) else start
    match exponent with
    | none => floatOf negative n start
    | some (down, digits) =>
      match Text.natBelow? exponentBound digits with
      | some e => floatOf negative n (if down then start - e else start + e)
      | none =>
        if n != 0 && !down then .unreadable else .float (Double.zero negative) rfl

/-- Read a number: no leading zeros, digits on both sides of a point and after an exponent mark. -/
def numberOfText? (cs : List Char) : Option Json :=
  let (negative, cs) : Bool × List Char := match cs with
    | '-' :: cs => (true, cs)
    | cs => (false, cs)
  let whole := cs.takeWhile Char.isDigit
  let wholeOk := match whole with
    | [] => false
    | ['0'] => true
    | '0' :: _ => false
    | _ => true
  let rest := cs.dropWhile Char.isDigit
  let (fraction, rest) := match rest with
    | '.' :: rest => (some (rest.takeWhile Char.isDigit), rest.dropWhile Char.isDigit)
    | rest => (none, rest)
  let exponent? : Option (Option (Bool × List Char)) := match rest with
    | [] => some none
    | m :: rest =>
      let (down, digits) : Bool × List Char := match rest with
        | '-' :: ds => (true, ds)
        | '+' :: ds => (false, ds)
        | ds => (false, ds)
      if (m == 'e' || m == 'E') && !digits.isEmpty && digits.all Char.isDigit then
        some (some (down, digits))
      else none
  match exponent? with
  | some exponent =>
    if wholeOk && fraction != some [] then some (numberOf negative whole fraction exponent)
    else none
  | none => none

/-- A piece of a string: a character, or a code unit written as an escape. -/
inductive Piece where
  | char (c : Char)
  | unit (n : Nat)

/-- The text of some pieces; a half of a surrogate pair without the other has none. -/
def textOf? : List Piece → Option (List Char)
  | [] => some []
  | .char c :: rest => (textOf? rest).map (c :: ·)
  | .unit n :: rest =>
    if 0xd800 ≤ n && n < 0xdc00 then
      match rest with
      | .unit m :: rest =>
        if 0xdc00 ≤ m && m < 0xe000 then
          (textOf? rest).map (Char.ofNat (0x10000 + (n - 0xd800) * 0x400 + (m - 0xdc00)) :: ·)
        else none
      | _ => none
    else if 0xdc00 ≤ n && n < 0xe000 then none
    else (textOf? rest).map (Char.ofNat n :: ·)

inductive Token where
  | openArray
  | closeArray
  | openObject
  | closeObject
  | comma
  | colon
  /-- A string, or none when it stands for no text. -/
  | text (s : Option String)
  /-- Any other value that is no array and no object. -/
  | scalar (j : Json)

/-- What the automaton has begun to read, with the characters it has so far in reverse. -/
inductive Lexeme where
  | between
  | word (cs : List Char)
  | number (cs : List Char)
  | string (pieces : List Piece)
  | escape (pieces : List Piece)
  | unit (pieces : List Piece) (digits : List Nat)

def isBlank (c : Char) : Bool := c == ' ' || c == '\t' || c == '\n' || c == '\x0d'

def isNumberChar (c : Char) : Bool :=
  c.isDigit || c == '-' || c == '+' || c == '.' || c == 'e' || c == 'E'

def hexValue? (c : Char) : Option Nat :=
  if c.isDigit then some (c.toNat - 48)
  else if 'a' ≤ c && c ≤ 'f' then some (c.toNat - 87)
  else if 'A' ≤ c && c ≤ 'F' then some (c.toNat - 55)
  else none

def wordToken? (cs : List Char) : Option Token :=
  match String.ofList cs with
  | "null" => some (.scalar .null)
  | "true" => some (.scalar (.bool true))
  | "false" => some (.scalar (.bool false))
  | _ => none

/-- Begin a lexeme, or take a character that is a token by itself. -/
def begin? (c : Char) (out : List Token) : Option (Lexeme × List Token) :=
  if isBlank c then some (.between, out)
  else match c with
    | '[' => some (.between, .openArray :: out)
    | ']' => some (.between, .closeArray :: out)
    | '\x7b' => some (.between, .openObject :: out)
    | '\x7d' => some (.between, .closeObject :: out)
    | ',' => some (.between, .comma :: out)
    | ':' => some (.between, .colon :: out)
    | '"' => some (.string [], out)
    | c =>
      if c.isDigit || c == '-' then some (.number [c], out)
      else if c.isLower then some (.word [c], out)
      else none

/-- The character that a short escape stands for. -/
def shortEscape? : Char → Option Char
  | '"' => some '"'
  | '\\' => some '\\'
  | '/' => some '/'
  | 'b' => some '\x08'
  | 'f' => some '\x0c'
  | 'n' => some '\n'
  | 'r' => some '\x0d'
  | 't' => some '\t'
  | _ => none

/-- Take one character. -/
def take? (c : Char) : Lexeme → List Token → Option (Lexeme × List Token)
  | .between, out => begin? c out
  | .word cs, out =>
    if c.isLower then some (.word (c :: cs), out)
    else (wordToken? cs.reverse).bind fun t => begin? c (t :: out)
  | .number cs, out =>
    if isNumberChar c then some (.number (c :: cs), out)
    else (numberOfText? cs.reverse).bind fun j => begin? c (.scalar j :: out)
  | .string ps, out =>
    if c == '"' then some (.between, .text ((textOf? ps.reverse).map String.ofList) :: out)
    else if c == '\\' then some (.escape ps, out)
    else if c.toNat < 0x20 then none
    else some (.string (.char c :: ps), out)
  | .escape ps, out =>
    if c == 'u' then some (.unit ps [], out)
    else (shortEscape? c).map fun d => (.string (.char d :: ps), out)
  | .unit ps ds, out =>
    (hexValue? c).map fun d =>
      match ds with
      | [x, y, z] => (.string (.unit (((z * 16 + y) * 16 + x) * 16 + d) :: ps), out)
      | ds => (.unit ps (d :: ds), out)

def tokensFrom? : List Char → Lexeme → List Token → Option (List Token)
  | [], .between, out => some out.reverse
  | [], .word cs, out => (wordToken? cs.reverse).map fun t => (t :: out).reverse
  | [], .number cs, out => (numberOfText? cs.reverse).map fun j => (.scalar j :: out).reverse
  | [], _, _ => none
  | c :: cs, l, out => (take? c l out).bind fun (l, out) => tokensFrom? cs l out

/-- The tokens of a text. -/
def tokens? (s : String) : Option (List Token) := tokensFrom? s.toList .between []

/-- An array or object that is still open, with what it has so far in reverse. -/
inductive Frame where
  | array (items : List Json)
  /-- The members, the name of the one being read, and whether all names stand for texts. -/
  | object (members : List (String × Json)) (name : String) (named : Bool)

/-- What may come next. -/
inductive Expect where
  | value
  | valueOrClose
  | name
  | nameOrClose
  | colon
  | commaOrClose
  deriving DecidableEq

structure State where
  stack : List Frame
  expect : Expect
  result : Option Json

/-- The deepest nesting that is read. -/
def maxDepth : Nat := 127

/-- Put a finished value where it belongs. -/
def State.place (s : State) (j : Json) : State :=
  match s.stack with
  | [] => ⟨[], .commaOrClose, some j⟩
  | .array items :: rest => ⟨.array (j :: items) :: rest, .commaOrClose, none⟩
  | .object members name named :: rest =>
    ⟨.object ((name, j) :: members) name named :: rest, .commaOrClose, none⟩

/-- Whether a value inside the open arrays and objects is still read. -/
def withinDepth (stack : List Frame) : Bool := (stack.drop (maxDepth - 1)).isEmpty

theorem withinDepth_iff {stack : List Frame} :
    withinDepth stack ↔ stack.length < maxDepth := by
  simp only [withinDepth, maxDepth, List.isEmpty_iff, List.drop_eq_nil_iff]
  omega

/-- Close an array or object; nested too deep, it has no value. -/
def State.close (s : State) (j : Json) (rest : List Frame) : State :=
  State.place { s with stack := rest } (if withinDepth rest then j else .unreadable)

def State.expectsValue (s : State) : Bool := s.expect == .value || s.expect == .valueOrClose

/-- Take one token. -/
def State.take? (s : State) : Token → Option State
  | .openArray =>
    if s.expectsValue then some { s with stack := .array [] :: s.stack, expect := .valueOrClose }
    else none
  | .openObject =>
    if s.expectsValue then
      some { s with stack := .object [] "" true :: s.stack, expect := .nameOrClose }
    else none
  | .closeArray =>
    match s.stack with
    | .array items :: rest =>
      if s.expect == .commaOrClose || s.expect == .valueOrClose then
        some (s.close (.array items.reverse) rest)
      else none
    | _ => none
  | .closeObject =>
    match s.stack with
    | .object members _ named :: rest =>
      if s.expect == .commaOrClose || s.expect == .nameOrClose then
        some (s.close (if named then .object members.reverse else .unreadable) rest)
      else none
    | _ => none
  | .comma =>
    if s.expect == .commaOrClose then
      match s.stack with
      | [] => none
      | .array _ :: _ => some { s with expect := .value }
      | .object _ _ _ :: _ => some { s with expect := .name }
    else none
  | .colon => if s.expect == .colon then some { s with expect := .value } else none
  | .text t =>
    if s.expectsValue then some (s.place ((t.map .string).getD .unreadable))
    else if s.expect == .name || s.expect == .nameOrClose then
      match s.stack with
      | .object members _ named :: rest =>
        some { s with
          stack := .object members (t.getD "") (named && t.isSome) :: rest, expect := .colon }
      | _ => none
    else none
  | .scalar j => if s.expectsValue then some (s.place j) else none

/-- Read a text that holds one value and nothing else. -/
def read? (text : String) : Option Json :=
  (tokens? text).bind fun ts =>
    (ts.foldlM State.take? ⟨[], .value, none⟩).bind (·.result)

end SchemaDelta.Json
