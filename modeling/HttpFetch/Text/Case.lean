import HttpFetch.Text.CaseTable
import HttpFetch.Text.Table

/-!
# Letter case

Full case mapping: a character may become several, and the capital sigma becomes its final form
at the end of a word. ASCII needs no table.
-/

namespace HttpFetch.Text

def lowerMap : CharMap := .ofRows CaseTable.lowerRuns CaseTable.lowerExpansions

def upperMap : CharMap := .ofTables CaseTable.upperRuns CaseTable.upperExpansions

def casedSet : CharSet := .ofTable CaseTable.casedRuns

def ignorableSet : CharSet := .ofTable CaseTable.ignorableRuns

/-- The lower-case form of a character on its own. -/
def lowerChar (c : Char) : Text :=
  if c.toNat < 128 then [c.toLower] else (lowerMap.find? c).getD [c]

/-- The upper-case form of a character. -/
def upperChar (c : Char) : Text :=
  if c.toNat < 128 then [c.toUpper] else (upperMap.find? c).getD [c]

/-- Whether a word goes on: the first character that case mapping does not ignore is cased. -/
def startsCased (s : Text) : Bool :=
  match s.dropWhile ignorableSet.contains with
  | [] => false
  | c :: _ => casedSet.contains c

/-- The lower-case form of the rest of a text, given what precedes it in reverse. -/
def lowerAfter (before : Text) : Text → List Text
  | [] => []
  | c :: rest =>
    (if c.toNat = 0x3a3 then
        [Char.ofNat (if startsCased before && !startsCased rest then 0x3c2 else 0x3c3)]
      else lowerChar c) :: lowerAfter (c :: before) rest

/-- The lower-case form of a text. -/
def lower (s : Text) : Text :=
  if s.any (·.toNat = 0x3a3) then (lowerAfter [] s).flatten else s.flatMap lowerChar

/-- The upper-case form of a text. -/
def upper (s : Text) : Text := s.flatMap upperChar

/-- Whether two texts have one lower-case form. -/
def sameLower (s t : Text) : Bool := s.lower == t.lower

end HttpFetch.Text
