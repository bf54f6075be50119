import SchemaDelta.Text.CaseData
import SchemaDelta.Text.Class

/-!
# Upper and lower case

Full Unicode case mapping of texts. A character may have an image of several
characters. Capital sigma is the one letter whose lowercase form depends on its
neighbors: it is final when a letter stands before it and none follows it.
-/

namespace SchemaDelta.Text

/-- The images of one character by its range or its expansion, itself when it has neither. -/
def mapCode (ranges : List CaseRange) (expansions : List (Nat × List Nat)) (n : Nat) : List Nat :=
  match ranges.findSome? (·.image? n) with
  | some m => [m]
  | none => (expansions.lookup n).getD [n]

def lowerChar (c : Char) : List Char :=
  if c.toNat < 128 then [c.toLower]
  else (mapCode lowerRanges lowerExpansions c.toNat).map Char.ofNat

def upperChar (c : Char) : List Char :=
  if c.toNat < 128 then [c.toUpper]
  else (mapCode upperRanges upperExpansions c.toNat).map Char.ofNat

/-- Whether the first character that counts has a case. -/
def startsCased (cs : List Char) : Bool :=
  match cs.dropWhile (fun c => inRanges ignorableRanges c.toNat) with
  | [] => false
  | c :: _ => inRanges casedRanges c.toNat

def capitalSigma : Char := Char.ofNat 0x3a3

/-- Lowercase of `cs`, where `before` holds the characters ahead of them, nearest first. -/
def lowerFrom (before : List Char) : List Char → List Char
  | [] => []
  | c :: rest =>
    let image :=
      if c == capitalSigma then
        [Char.ofNat (if startsCased before && !startsCased rest then 0x3c2 else 0x3c3)]
      else
        lowerChar c
    image ++ lowerFrom (c :: before) rest

def lowerChars (cs : List Char) : List Char := lowerFrom [] cs

def upperChars (cs : List Char) : List Char := cs.flatMap upperChar

/-- The text in lower case. -/
def lower (s : String) : String := String.ofList (lowerChars s.toList)

/-- The text in upper case. -/
def upper (s : String) : String := String.ofList (upperChars s.toList)

/-- Equal up to letter case: the lowercase forms are equal. -/
def sameIgnoringCase (a b : String) : Bool := lower a == lower b

end SchemaDelta.Text
