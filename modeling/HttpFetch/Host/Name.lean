import HttpFetch.Host.Ip
import HttpFetch.Host.Label
import HttpFetch.Host.MappingTable

/-!
# Host names

The ASCII form of a host name is that of its labels, with points between them; three other signs
count as points as well. Names that users write may first be mapped: characters are kept, dropped
or replaced, and the result is composed.
-/

namespace HttpFetch.Host

/-- The longest text that is looked at as a host name. -/
def maxNameLength : Nat := 1024

/-- The longest host name, a point at its end included. -/
def maxAsciiLength : Nat := 254

def isPoint (c : Char) : Bool :=
  c = '.' || c.toNat = 0x3002 || c.toNat = 0xff0e || c.toNat = 0xff61

/-- The labels of a name, and whether a point ends it. -/
def labels (name : Text) : List Text × Bool :=
  let labels := Text.splitOn isPoint name
  if labels.getLast? = some [] then (labels.dropLast, true) else (labels, false)

/-- The ASCII form of a host name, if it has one. -/
def ascii? (name : Text) : Option Text :=
  if name.length > maxAsciiLength ∨ name.isEmpty then none
  else do
    let (labels, final) := labels name
    let ascii ← labels.mapM asciiLabel?
    let joined := ['.'].intercalate (if final then ascii ++ [[]] else ascii)
    if joined.length ≤ (if final then maxAsciiLength else maxAsciiLength - 1) then some joined
    else none

def keptSet : Text.CharSet := .ofTable MappingTable.keptRuns
def droppedSet : Text.CharSet := .ofTable MappingTable.droppedRuns
def replacements : Text.CharMap :=
  .ofTables MappingTable.replacedRuns MappingTable.expansions

/-- What mapping makes of a character; some characters may not occur. -/
def mapChar? (c : Char) : Option Text :=
  if keptSet.contains c then some [c]
  else if droppedSet.contains c then some []
  else replacements.find? c

/-- A name mapped and composed. -/
def map? (name : Text) : Option Text :=
  (name.mapM mapChar?).map fun parts => Text.compose parts.flatten

/-- Whether a text names a server that a certificate can be for: a host name, not an address. -/
def isServerName (name : Text) : Bool :=
  !isIp name && name.length ≤ maxNameLength && ((map? name).bind ascii?).isSome

end HttpFetch.Host
