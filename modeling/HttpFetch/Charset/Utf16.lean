import HttpFetch.Text.Utf8

/-!
# UTF-16

A character is a unit of two octets, or a pair of units from the two surrogate ranges. The order
of the octets is known beforehand or told by a mark in front of the text; a text is written with
a mark in the latter case. Half a unit at the end, and a surrogate that stands alone, are replaced.
-/

namespace HttpFetch.Utf16

/-- Which octet of a unit comes first. -/
inductive Order
  | little
  | big
  deriving DecidableEq, Repr

namespace Order

def unit (order : Order) (a b : UInt8) : Nat :=
  match order with
  | little => a.toNat + 256 * b.toNat
  | big => 256 * a.toNat + b.toNat

def octets (order : Order) (unit : Nat) : Bytes :=
  match order with
  | little => [UInt8.ofNat (unit % 256), UInt8.ofNat (unit / 256)]
  | big => [UInt8.ofNat (unit / 256), UInt8.ofNat (unit % 256)]

end Order

def isHigh (unit : Nat) : Bool := 0xd800 ≤ unit && unit < 0xdc00

def isLow (unit : Nat) : Bool := 0xdc00 ≤ unit && unit < 0xe000

/-- The units of a character. -/
def units (c : Char) : List Nat :=
  let n := c.toNat
  if n < 0x10000 then [n]
  else [0xd800 + (n - 0x10000) / 1024, 0xdc00 + (n - 0x10000) % 1024]

def encode (order : Order) (s : Text) : Bytes := s.flatMap fun c => (units c).flatMap order.octets

/-- The text of octets whose order is known. A high surrogate before less than a unit takes what
is left with it. -/
def decode (order : Order) : Bytes → Text
  | [] => []
  | [_] => [Utf8.replacement]
  | a :: b :: rest =>
    let unit := order.unit a b
    if isLow unit then Utf8.replacement :: decode order rest
    else if !isHigh unit then Char.ofNat unit :: decode order rest
    else
      match rest with
      | c :: d :: after =>
        let low := order.unit c d
        if isLow low then
          Char.ofNat (0x10000 + (unit - 0xd800) * 1024 + (low - 0xdc00)) :: decode order after
        else Utf8.replacement :: decode order (c :: d :: after)
      | _ => [Utf8.replacement]

/-- The text of numbers that are code points or units: two surrogates that belong together are one
character, and what is no character is replaced. -/
def ofNumbers : List Nat → Text
  | [] => []
  | high :: low :: rest =>
    if isHigh high && isLow low then
      Char.ofNat (0x10000 + (high - 0xd800) * 1024 + (low - 0xdc00)) :: ofNumbers rest
    else (if high.isValidChar then Char.ofNat high else Utf8.replacement) :: ofNumbers (low :: rest)
  | [n] => [if n.isValidChar then Char.ofNat n else Utf8.replacement]

/-- The mark that tells the order of the octets after it. -/
def mark : Nat := 0xfeff

/-- The text of octets that a mark may precede; without one the low octet comes first. -/
def decodeMarked : Bytes → Text
  | a :: b :: rest =>
    if Order.little.unit a b = mark then decode .little rest
    else if Order.big.unit a b = mark then decode .big rest
    else decode .little (a :: b :: rest)
  | octets => decode .little octets

/-- The octets of a text after a mark, low octets first. -/
def encodeMarked (s : Text) : Bytes := Order.little.octets mark ++ encode .little s

end HttpFetch.Utf16
