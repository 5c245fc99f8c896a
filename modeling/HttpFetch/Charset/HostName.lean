import HttpFetch.Charset.HostNameTable
import HttpFetch.Host.Name

/-!
# Host names as an encoding

The older ASCII form of host names. Labels are prepared: characters are mapped and composed, and
those that the older rules do not know are only put into lower case. A label must not mix directions, and its
ASCII form has between one and 63 characters.
-/

namespace HttpFetch.Charset.HostName

def knownSet : Text.CharSet := .ofTable HostNameTable.knownRuns
def rightSet : Text.CharSet := .ofTable HostNameTable.rightRuns
def leftSet : Text.CharSet := .ofTable HostNameTable.leftRuns

/-- What preparing makes of a character that the older rules know; some may not occur. -/
def prepareKnown? (c : Char) : Option Text :=
  if c = 'ß' then some ['s', 's']
  else if c = 'ς' then some ['σ']
  else if c.toNat = 0x200c ∨ c.toNat = 0x200d then some []
  else Host.mapChar? c

/-- Whether the older rules know a character. -/
def isKnown (c : Char) : Bool := c.toNat < 128 || knownSet.contains c

/-- What preparing makes of a character; one that is not known is put into lower case. -/
def prepareChar? (c : Char) : Option Text :=
  if isKnown c then prepareKnown? c
  else
    (Text.lower [c]).mapM (fun d => if isKnown d then prepareKnown? d else some [d])
      |>.map List.flatten

def isRightToLeft (c : Char) : Bool := rightSet.contains c

def isLeftToRight (c : Char) : Bool := leftSet.contains c

/-- Whether a label with characters from the right has them at both ends and none from the
left. -/
def isDirected (label : Text) : Bool :=
  !label.any isRightToLeft
    || (!label.any isLeftToRight && label.head?.any isRightToLeft
      && label.getLast?.any isRightToLeft)

/-- A label prepared, if its characters allow it. -/
def prepare? (label : Text) : Option Text :=
  ((label.mapM prepareChar?).map fun parts => Text.compose parts.flatten).filter isDirected

def isAscii (s : Text) : Bool := s.all (·.toNat < 128)

/-- The ASCII form of a label, if it has one. -/
def label? (label : Text) : Option Text :=
  let ascii? :=
    if isAscii label then some label
    else
      (prepare? label).bind fun prepared =>
        if isAscii prepared then some prepared
        else if Host.writtenMark.isPrefixOf prepared then none
        else some (Host.writtenMark ++ Punycode.encode prepared)
  ascii?.filter fun ascii => 0 < ascii.length && ascii.length < 64

/-- The ASCII form of a name, if it has one; it may end with a point. -/
def ascii? (name : Text) : Option Text :=
  if name.isEmpty then some []
  else
    let (labels, final) := Host.labels name
    (labels.mapM label?).map fun ascii =>
      ['.'].intercalate (if final then ascii ++ [[]] else ascii)

/-- The octets of a name, if it has an ASCII form. -/
def encode? (name : Text) : Option Bytes :=
  (ascii? name).map fun ascii => ascii.map fun c => UInt8.ofNat c.toNat

end HttpFetch.Charset.HostName
