import HttpFetch.Host.DirectionTable
import HttpFetch.Host.LabelTable
import HttpFetch.Text.Punycode
import HttpFetch.Text.Case
import HttpFetch.Text.Normal

/-!
# Labels of internationalised host names

A label is valid when it is composed, keeps the rules on hyphens, does not start with a mark,
holds only letters, digits and marks or punctuation in the context it needs, and runs in
directions that do not mix. The ASCII form of a valid label is the label itself or its written
form after `xn--`.
-/

namespace HttpFetch.Host

def validSet : Text.CharSet := .ofRows LabelTable.validRuns
def markSet : Text.CharSet := .ofTable LabelTable.markRuns
def greekSet : Text.CharSet := .ofTable LabelTable.greekRuns
def hebrewSet : Text.CharSet := .ofTable LabelTable.hebrewRuns
def kanaHanSet : Text.CharSet := .ofTable LabelTable.kanaHanRuns
def transparentSet : Text.CharSet := .ofTable LabelTable.joinTransparent
def joinLeftSet : Text.CharSet := .ofTable LabelTable.joinLeft
def joinRightSet : Text.CharSet := .ofTable LabelTable.joinRight
def joinDualSet : Text.CharSet := .ofTable LabelTable.joinDual

/-- The classes of writing direction that a label character can have. -/
inductive Direction
  | left
  | right
  | arabicLetter
  | arabicNumber
  | europeanNumber
  | separator
  | nonspacing
  | boundary
  | neutral
  deriving DecidableEq, Repr

namespace Direction

def tables : List (Text.CharSet × Direction) :=
  [(.ofTable DirectionTable.rightToLeft, right),
    (.ofTable DirectionTable.arabicLetter, arabicLetter),
    (.ofTable DirectionTable.arabicNumber, arabicNumber),
    (.ofTable DirectionTable.europeanNumber, europeanNumber),
    (.ofTable DirectionTable.separator, separator),
    (.ofTable DirectionTable.nonspacing, nonspacing),
    (.ofTable DirectionTable.boundary, boundary),
    (.ofTable DirectionTable.neutral, neutral)]

def ofChar (c : Char) : Direction :=
  ((tables.find? (·.1.contains c)).map (·.2)).getD left

def isRightToLeft : Direction → Bool
  | right | arabicLetter | arabicNumber => true
  | _ => false

/-- Whether a character may stand in a label that starts from the right. -/
def goesRight : Direction → Bool
  | left => false
  | _ => true

/-- Whether a character may stand in a label that starts from the left. -/
def goesLeft : Direction → Bool
  | left | europeanNumber | separator | boundary | neutral | nonspacing => true
  | _ => false

/-- Whether a label ends well, marks at its end aside. -/
def endsWith (ending : Direction → Bool) (directions : List Direction) : Bool :=
  match directions.reverse.dropWhile (· = nonspacing) with
  | [] => false
  | last :: _ => ending last

/-- Whether a label with characters from the right keeps to one direction. -/
def consistent (directions : List Direction) : Bool :=
  match directions with
  | [] => false
  | first :: _ =>
    if first = right ∨ first = arabicLetter then
      directions.all goesRight
        && endsWith (fun d => isRightToLeft d || d = europeanNumber) directions
        && !(directions.elem arabicNumber && directions.elem europeanNumber)
    else if first = left then
      directions.all goesLeft && endsWith (fun d => d = left || d = europeanNumber) directions
    else false

end Direction

/-- Whether the characters of a label agree in direction. -/
def directed (label : Text) : Bool :=
  let directions := label.map Direction.ofChar
  !directions.any Direction.isRightToLeft || Direction.consistent directions

/-- The combining class of signs that take away a vowel. -/
def virama : Nat := 9

/-- Whether joining, having looked through what is transparent, meets a letter of a set. -/
def joins (side : Char → Bool) (s : Text) : Bool :=
  match s.dropWhile transparentSet.contains with
  | [] => false
  | c :: _ => side c

/-- Whether a character may stand between what precedes it, in reverse, and what follows it, in
a label. -/
def allowedBetween (label before : Text) (c : Char) (after : Text) : Bool :=
  let n := c.toNat
  let afterVirama := match before with
    | p :: _ => Text.combiningClass p == virama
    | [] => false
  if n = 0x200c then
    afterVirama || (joins (fun c => joinLeftSet.contains c || joinDualSet.contains c) before
      && joins (fun c => joinRightSet.contains c || joinDualSet.contains c) after)
  else if n = 0x200d then afterVirama
  else if n = 0xb7 then before.head? = some 'l' && after.head? = some 'l'
  else if n = 0x375 then after.head?.any greekSet.contains
  else if n = 0x5f3 ∨ n = 0x5f4 then before.head?.any hebrewSet.contains
  else if n = 0x30fb then label.any fun c => c.toNat != 0x30fb && kanaHanSet.contains c
  else if 0x660 ≤ n ∧ n ≤ 0x669 then !label.any fun c => 0x6f0 ≤ c.toNat && c.toNat ≤ 0x6f9
  else if 0x6f0 ≤ n ∧ n ≤ 0x6f9 then !label.any fun c => 0x660 ≤ c.toNat && c.toNat ≤ 0x669
  else false

/-- Whether the rest of a label holds only characters that may stand where they do. -/
def allAllowed (label before : Text) : Text → Bool
  | [] => true
  | c :: rest =>
    (validSet.contains c || allowedBetween label before c rest)
      && allAllowed label (c :: before) rest

/-- Whether the hyphens of a label stand where they may. -/
def hyphensAllowed (label : Text) : Bool :=
  (label.drop 2).take 2 != ['-', '-'] && label.head? != some '-' && label.getLast? != some '-'

/-- Whether a label is valid. -/
def isLabel (label : Text) : Bool :=
  !label.isEmpty && label.length ≤ 254 && Text.compose label == label && hyphensAllowed label
    && !label.head?.any markSet.contains && allAllowed label [] label && directed label

/-- What marks the written form of a label. -/
def writtenMark : Text := "xn--".toList

/-- Whether an ASCII label is valid, or the written form of a valid label, in any case. A written
form neither starts nor ends with a hyphen: the one after the ASCII characters of a label is only
there when there are such characters. -/
def isAsciiLabel (label : Text) : Bool :=
  let lower := label.map Char.toLower
  if writtenMark.isPrefixOf lower then
    let written := lower.drop writtenMark.length
    !written.isEmpty && written.head? != some '-' && written.getLast? != some '-'
      && match Punycode.decode? written with
        | some decoded => isLabel decoded
        | none => false
  else isLabel lower

/-- The ASCII form of a label of at most 63 characters. -/
def asciiLabel? (label : Text) : Option Text :=
  let ascii? :=
    if label.all (·.toNat < 128) then if isAsciiLabel label then some label else none
    else if isLabel label then some (writtenMark ++ Punycode.encode label)
    else none
  ascii?.filter (·.length ≤ 63)

end HttpFetch.Host
