import SchemaDelta.Toml.Draft
import SchemaDelta.Toml.Number
import SchemaDelta.Toml.Text

/-!
# Reading TOML

A document is read line by line: headers open tables, and every other line gives a value
to a key of the open table. Arrays run over lines, tables within braces do not. Each step
of reading a value goes on with a shorter text, which is what ends the recursion.
-/

namespace SchemaDelta.Toml

/-- Arrays and braces nest to less than this depth, and keys have fewer parts. -/
def depthLimit : Nat := 80

def skipSpaces (cs : List Char) : List Char := cs.dropWhile isSpace

theorem skipSpaces_length_le (cs : List Char) : (skipSpaces cs).length ≤ cs.length :=
  (List.dropWhile_suffix _).length_le

/-- Skip blanks, line breaks and comments; none if a comment holds a control character. -/
def skipLines? (inComment : Bool) : List Char → Option (List Char)
  | [] => some []
  | '\n' :: rest => skipLines? false rest
  | '\x0d' :: '\n' :: rest => skipLines? false rest
  | '#' :: rest => skipLines? true rest
  | c :: rest =>
    if inComment then (if isPlain c then skipLines? true rest else none)
    else if isSpace c then skipLines? false rest
    else some (c :: rest)

theorem skipLines?_length_le {inComment : Bool} {cs rest : List Char}
    (h : skipLines? inComment cs = some rest) : rest.length ≤ cs.length := by
  fun_induction skipLines? inComment cs <;> grind

/-- The end of a line, before which nothing but a comment may stand. -/
def endLine? (inComment : Bool) : List Char → Option (List Char)
  | [] => some []
  | '\n' :: rest => some rest
  | '\x0d' :: '\n' :: rest => some rest
  | '#' :: rest => endLine? true rest
  | c :: rest =>
    if (if inComment then isPlain c else isSpace c) then endLine? inComment rest else none

/-- One part of a key. -/
def simpleKey? (cs : List Char) : Option (String × List Char) :=
  match cs with
  | '"' :: rest => (basicString? rest).map fun (k, rest) => (String.ofList k, rest)
  | '\'' :: rest => (literalString? rest).map fun (k, rest) => (String.ofList k, rest)
  | cs =>
    let k := cs.takeWhile isBare
    if k.isEmpty then none else some (String.ofList k, cs.dropWhile isBare)

/-- A key of at most `limit` parts joined by points; blanks may stand around the parts. -/
def readKey? (cs : List Char) (limit : Nat) : Option (List String × List Char) :=
  match limit with
  | 0 => none
  | limit + 1 =>
    match simpleKey? (skipSpaces cs) with
    | none => none
    | some (k, rest) =>
      match skipSpaces rest with
      | '.' :: rest => (readKey? rest limit).map fun (ks, rest) => (k :: ks, rest)
      | rest => some ([k], rest)

def dottedKey? (cs : List Char) : Option (List String × List Char) := readKey? cs (depthLimit - 1)

mutual

/-- A value, inside `depth` arrays and braces. -/
def readValue? (depth : Nat) (cs : List Char) : Option (Toml × List Char) :=
  match cs with
  | [] => none
  | '"' :: _ => (string? cs).map fun (s, rest) => (.string (String.ofList s), rest)
  | '\'' :: _ => (string? cs).map fun (s, rest) => (.string (String.ofList s), rest)
  | '[' :: rest =>
    if depth + 1 < depthLimit then
      (readItems? (depth + 1) rest).map fun (items, rest) => (.array items, rest)
    else none
  | '\x7b' :: rest =>
    if depth + 1 < depthLimit then
      match h : skipSpaces rest with
      | '\x7d' :: rest => some (.table [], rest)
      | inner =>
        have : inner.length ≤ rest.length := h ▸ skipSpaces_length_le rest
        (readPairs? (depth + 1) inner []).map fun (members, rest) =>
          (.table (Draft.finishMembers members), rest)
    else none
  | cs => readScalar? cs
termination_by 2 * cs.length

/-- The items of an array up to its closing bracket; a comma may follow the last one. -/
def readItems? (depth : Nat) (cs : List Char) : Option (List Toml × List Char) :=
  match h : skipLines? false cs with
  | none => none
  | some (']' :: rest) => some ([], rest)
  | some item =>
    have := skipLines?_length_le h
    match readValue? depth item with
    | none => none
    | some (t, rest) =>
      match skipLines? false rest with
      | some (']' :: rest) => some ([t], rest)
      | some (',' :: rest) =>
        if rest.length < cs.length then
          (readItems? depth rest).map fun (ts, rest) => (t :: ts, rest)
        else none
      | _ => none
termination_by 2 * cs.length + 1

/-- The members between braces, added to those already read. -/
def readPairs? (depth : Nat) (cs : List Char) (members : Members) : Option (Members × List Char) :=
  match dottedKey? cs with
  | none => none
  | some (key, rest) =>
    match rest with
    | '=' :: rest =>
      if (skipSpaces rest).length < cs.length then
        match readValue? depth (skipSpaces rest) with
        | none => none
        | some (t, rest) =>
          match key.reverse with
          | [] => none
          | k :: way =>
            match Draft.assign way.reverse k t members with
            | none => none
            | some members =>
              match skipSpaces rest with
              | '\x7d' :: rest => some (members, rest)
              | ',' :: rest =>
                if rest.length < cs.length then readPairs? depth rest members else none
              | _ => none
      else none
    | _ => none
termination_by 2 * cs.length + 1

end

/-- Take one line that holds something. -/
def readLine? (d : Desk) (cs : List Char) : Option (Desk × List Char) :=
  match cs with
  | '[' :: '[' :: rest =>
    match dottedKey? rest with
    | some (path, ']' :: ']' :: rest) => (d.openRow? path).map fun d => (d, rest)
    | _ => none
  | '[' :: rest =>
    match dottedKey? rest with
    | some (path, ']' :: rest) => (d.openTable? path).map fun d => (d, rest)
    | _ => none
  | cs =>
    match dottedKey? cs with
    | some (key, '=' :: rest) =>
      (readValue? 0 (skipSpaces rest)).bind fun (t, rest) =>
        (d.assign? key t).map fun d => (d, rest)
    | _ => none

/-- Take the lines of a document. -/
def readLines? (d : Desk) (cs : List Char) : Option Desk :=
  match skipLines? false cs with
  | none => none
  | some [] => some d
  | some line =>
    match readLine? d line with
    | none => none
    | some (d, rest) =>
      match endLine? false rest with
      | none => none
      | some rest => if rest.length < cs.length then readLines? d rest else none
termination_by cs.length

/-- Read a document; a byte order mark may stand in front. -/
def read? (text : String) : Option Toml :=
  let cs := match text.toList with
    | '\ufeff' :: rest => rest
    | cs => cs
  (readLines? .start cs).bind fun d =>
    d.close?.map fun members => .table (Draft.finishMembers members)

end SchemaDelta.Toml
