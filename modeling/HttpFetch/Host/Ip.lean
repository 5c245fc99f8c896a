import HttpFetch.Number.Digit

/-!
# Addresses in text

Which texts are addresses of the two families. An IPv4 address is four decimal numbers without
leading zeros. An IPv6 address is eight groups of hexadecimal digits, one run of which may be
left out between two colons; its last two groups may be an IPv4 address, and a scope may follow
a percent sign.
-/

namespace HttpFetch.Host

def isAsciiDigit (c : Char) : Bool := '0' ≤ c && c ≤ '9'

/-- A number from 0 to 255 as an address has it. -/
def isOctet (s : Text) : Bool :=
  !s.isEmpty && s.all isAsciiDigit && s.length ≤ 3
    && (s.length = 1 || s.head? != some '0')
    && Digit.value 10 (s.filterMap Digit.decimal?) ≤ 255

def isIpv4 (s : Text) : Bool :=
  let octets := Text.splitOn (· == '.') s
  octets.length = 4 && octets.all isOctet

/-- One to four hexadecimal digits. -/
def isHextet (s : Text) : Bool :=
  !s.isEmpty && s.length ≤ 4 && s.all fun c => (Digit.asciiHex? c).isSome

/-- The groups on one side of the run that is left out: none, or as many as given. -/
def hextetCount? (side : List Text) : Option Nat :=
  if side = [[]] then some 0
  else if side.all isHextet then some side.length
  else none

/-- Whether groups, of which empty ones stand for what is left out, make up an address. -/
def areHextets (groups : List Text) : Bool :=
  let inner := groups.tail.dropLast
  match (inner.filter List.isEmpty).length with
  | 0 => groups.length = 8 && groups.all isHextet
  | 1 =>
    let before := (inner.takeWhile (!List.isEmpty ·)).length + 1
    match hextetCount? (groups.take before), hextetCount? (groups.drop (before + 1)) with
    | some high, some low => high + low < 8
    | _, _ => false
  | _ => false

/-- The groups of an address, an IPv4 address at the end counting as two. -/
def hextets? (s : Text) : Option (List Text) :=
  let groups := Text.splitOn (· == ':') s
  if groups.length < 3 then none
  else
    let last := groups.getLastD []
    if !last.elem '.' then some groups
    else if isIpv4 last then some (groups.dropLast ++ [['0'], ['0']])
    else none

def isIpv6 (s : Text) : Bool :=
  let hasScope := match Text.cut '%' s with
    | (_, none) => true
    | (_, some scope) => !scope.isEmpty && !scope.elem '%'
  !s.elem '/' && hasScope
    && match hextets? (Text.cut '%' s).1 with
      | some groups => groups.length ≤ 9 && areHextets groups
      | none => false

/-- Whether a text is an address of either family. -/
def isIp (s : Text) : Bool := isIpv4 s || isIpv6 s

end HttpFetch.Host
