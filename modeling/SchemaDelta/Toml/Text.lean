import SchemaDelta.Toml

/-!
# Strings in TOML

Basic strings have escapes, literal strings have none, and both have a form that runs
over several lines. Reading takes the text after an opening quote. A string is written
in the first form that can hold it without escapes, and in a basic form with escapes if
there is none.
-/

namespace SchemaDelta.Toml

def isSpace (c : Char) : Bool := c == ' ' || c == '\t'

/-- Characters of comments and strings: all but control characters, tabs apart. -/
def isPlain (c : Char) : Bool := c == '\t' || (0x20 ≤ c.toNat && c.toNat != 0x7f)

/-- Characters of a literal string in one line. -/
def isLiteral (c : Char) : Bool := isPlain c && c != '\''

/-- Characters of a key without quotes. -/
def isBare (c : Char) : Bool := c.isAlphanum || c == '-' || c == '_'

def hexValue? (c : Char) : Option Nat :=
  if c.isDigit then some (c.toNat - 48)
  else if 'a' ≤ c && c ≤ 'f' then some (c.toNat - 87)
  else if 'A' ≤ c && c ≤ 'F' then some (c.toNat - 55)
  else none

/-- The character of some hexadecimal digits; surrogates are none. -/
def codePoint? (digits : List Char) : Option Char :=
  (digits.mapM hexValue?).bind fun ds =>
    let n := ds.foldl (fun n d => 16 * n + d) 0
    if n < 0xd800 || (0xdfff < n && n < 0x110000) then some (Char.ofNat n) else none

def shortEscape? : Char → Option Char
  | 'b' => some '\x08'
  | 't' => some '\t'
  | 'n' => some '\n'
  | 'f' => some '\x0c'
  | 'r' => some '\x0d'
  | '"' => some '"'
  | '\\' => some '\\'
  | _ => none

/-- Put a character in front of what was read. -/
def push (c : Char) (r : Option (List Char × List Char)) : Option (List Char × List Char) :=
  r.map fun (cs, rest) => (c :: cs, rest)

/-- A basic string in one line, after its opening quote. -/
def basicString? : List Char → Option (List Char × List Char)
  | [] => none
  | '"' :: rest => some ([], rest)
  | '\\' :: 'u' :: a :: b :: c :: d :: rest =>
    (codePoint? [a, b, c, d]).bind fun x => push x (basicString? rest)
  | '\\' :: 'U' :: a :: b :: c :: d :: e :: f :: g :: h :: rest =>
    (codePoint? [a, b, c, d, e, f, g, h]).bind fun x => push x (basicString? rest)
  | '\\' :: c :: rest => (shortEscape? c).bind fun x => push x (basicString? rest)
  | c :: rest => if isPlain c && c != '\\' then push c (basicString? rest) else none

/-- A literal string in one line, after its opening quote. -/
def literalString? : List Char → Option (List Char × List Char)
  | [] => none
  | '\'' :: rest => some ([], rest)
  | c :: rest => if isLiteral c then push c (literalString? rest) else none

/-- Whether only blanks stand before the end of the line. -/
def endsLine (cs : List Char) : Bool :=
  match cs.dropWhile isSpace with
  | '\n' :: _ => true
  | '\x0d' :: '\n' :: _ => true
  | _ => false

/-- A basic string over several lines. While `folding`, which a backslash at the end of a line
begins, blanks and line breaks are skipped. Up to two quotes may stand before the closing three. -/
def basicLines? (folding : Bool) : List Char → Option (List Char × List Char)
  | [] => none
  | '"' :: '"' :: '"' :: '"' :: '"' :: rest => some (['"', '"'], rest)
  | '"' :: '"' :: '"' :: '"' :: rest => some (['"'], rest)
  | '"' :: '"' :: '"' :: rest => some ([], rest)
  | '\x0d' :: '\n' :: rest =>
    if folding then basicLines? true rest else push '\n' (basicLines? false rest)
  | '\\' :: 'u' :: a :: b :: c :: d :: rest =>
    (codePoint? [a, b, c, d]).bind fun x => push x (basicLines? false rest)
  | '\\' :: 'U' :: a :: b :: c :: d :: e :: f :: g :: h :: rest =>
    (codePoint? [a, b, c, d, e, f, g, h]).bind fun x => push x (basicLines? false rest)
  | '\\' :: c :: rest =>
    if endsLine (c :: rest) then
      if c == '\x0d' then basicLines? true rest.tail else basicLines? true rest
    else (shortEscape? c).bind fun x => push x (basicLines? false rest)
  | c :: rest =>
    if folding && (isSpace c || c == '\n') then basicLines? true rest
    else if c == '\n' || (isPlain c && c != '\\') then push c (basicLines? false rest)
    else none
termination_by cs => cs.length
decreasing_by all_goals simp_wf; try omega

/-- A literal string over several lines. -/
def literalLines? : List Char → Option (List Char × List Char)
  | [] => none
  | '\'' :: '\'' :: '\'' :: '\'' :: '\'' :: rest => some (['\'', '\''], rest)
  | '\'' :: '\'' :: '\'' :: '\'' :: rest => some (['\''], rest)
  | '\'' :: '\'' :: '\'' :: rest => some ([], rest)
  | '\x0d' :: '\n' :: rest => push '\n' (literalLines? rest)
  | c :: rest => if c == '\n' || isPlain c then push c (literalLines? rest) else none

/-- A line break directly after the opening quotes is not part of the string. -/
def skipFirstBreak : List Char → List Char
  | '\n' :: rest => rest
  | '\x0d' :: '\n' :: rest => rest
  | cs => cs

/-- A string of any form. -/
def string? : List Char → Option (List Char × List Char)
  | '"' :: '"' :: '"' :: rest => basicLines? false (skipFirstBreak rest)
  | '\'' :: '\'' :: '\'' :: rest => literalLines? (skipFirstBreak rest)
  | '"' :: rest => basicString? rest
  | '\'' :: rest => literalString? rest
  | _ => none

def hexDigit (n : Nat) : Char := (Nat.toDigits 16 n).headD '0' |>.toUpper

/-- A character of a basic string, quotes apart; in a string over several lines a line break stands
for itself. -/
def escapeChar (lines : Bool) (c : Char) : List Char :=
  match c with
  | '\x08' => ['\\', 'b']
  | '\t' => ['\\', 't']
  | '\n' => if lines then ['\n'] else ['\\', 'n']
  | '\x0c' => ['\\', 'f']
  | '\x0d' => ['\\', 'r']
  | '\\' => ['\\', '\\']
  | c =>
    if c.toNat < 0x20 || c.toNat == 0x7f then
      ['\\', 'u', '0', '0', hexDigit (c.toNat / 16), hexDigit (c.toNat % 16)]
    else [c]

/-- The inside of a basic string, `run` quotes after the last other character. Over several lines two
quotes in a row stand for themselves, since only three end the string. -/
def escape (lines : Bool) (run : Nat) : List Char → List Char
  | [] => []
  | '"' :: rest =>
    if lines && run < 2 then '"' :: escape lines (run + 1) rest
    else '\\' :: '"' :: escape lines 0 rest
  | c :: rest => escapeChar lines c ++ escape lines 0 rest

/-- The greatest number of times that `q` occurs in a row, `run` of them before the text. -/
def longestRun (q : Char) (run : Nat) : List Char → Nat
  | [] => run
  | c :: rest => if c == q then longestRun q (run + 1) rest else max run (longestRun q 0 rest)

/-- The forms of a string. -/
inductive StringForm where
  | basic
  | literal
  | basicLines
  | literalLines
  deriving DecidableEq

namespace StringForm

/-- The form that a text is written in: the first of basic, literal, basic over several lines and
literal over several lines that holds it without escapes, else a basic form with escapes. -/
def ofChars (cs : List Char) : StringForm :=
  let breaks := cs.contains '\n'
  let quotes := longestRun '"' 0 cs
  let apostrophes := longestRun '\'' 0 cs
  let plain := cs.all fun c => isPlain c || c == '\n'
  let unescaped := plain && !cs.contains '\\'
  if unescaped && quotes == 0 && !breaks then .basic
  else if plain && apostrophes == 0 && !breaks then .literal
  else if unescaped && quotes ≤ 2 then .basicLines
  else if plain && apostrophes ≤ 2 then .literalLines
  else if breaks then .basicLines
  else .basic

/-- The opening and closing quotes. -/
def quotes : StringForm → List Char
  | basic => ['"']
  | literal => ['\'']
  | basicLines => ['"', '"', '"']
  | literalLines => ['\'', '\'', '\'']

/-- What stands between the quotes; a text with line breaks begins on a line of its own. -/
def inside (f : StringForm) (cs : List Char) : List Char :=
  let start := if cs.contains '\n' then ['\n'] else []
  match f with
  | basic => escape false 0 cs
  | literal => cs
  | basicLines => start ++ escape true 0 cs
  | literalLines => start ++ cs

/-- A text in one form. -/
def write (f : StringForm) (cs : List Char) : String :=
  String.ofList (f.quotes ++ f.inside cs ++ f.quotes)

end StringForm

/-- A string value. -/
def quote (s : String) : String := (StringForm.ofChars s.toList).write s.toList

/-- A key, in quotes if need be; keys do not run over several lines. -/
def quoteKey (s : String) : String :=
  let cs := s.toList
  if !cs.isEmpty && cs.all isBare then s
  else if (cs.contains '"' || cs.contains '\\') && cs.all isLiteral then
    StringForm.literal.write cs
  else StringForm.basic.write cs

end SchemaDelta.Toml
