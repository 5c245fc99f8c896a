import HttpFetch.Charset.Utf16

/-!
# UTF-32

A character is its number in four octets. As in UTF-16 the order of the octets is known beforehand
or told by a mark. Four octets with the number of no character are replaced, and so is what is
left at the end.
-/

namespace HttpFetch.Utf32

open Utf16 (Order)

def number (order : Order) (a b c d : UInt8) : Nat :=
  match order with
  | .little => order.unit a b + 65536 * order.unit c d
  | .big => 65536 * order.unit a b + order.unit c d

def octets (order : Order) (n : Nat) : Bytes :=
  match order with
  | .little => order.octets (n % 65536) ++ order.octets (n / 65536)
  | .big => order.octets (n / 65536) ++ order.octets (n % 65536)

def encode (order : Order) (s : Text) : Bytes := s.flatMap fun c => octets order c.toNat

/-- The text of octets whose order is known. -/
def decode (order : Order) : Bytes → Text
  | [] => []
  | a :: b :: c :: d :: rest =>
    let n := number order a b c d
    (if n.isValidChar then Char.ofNat n else Utf8.replacement) :: decode order rest
  | _ => [Utf8.replacement]

/-- The text of octets that a mark may precede; without one the low octet comes first. -/
def decodeMarked : Bytes → Text
  | a :: b :: c :: d :: rest =>
    if number .little a b c d = Utf16.mark then decode .little rest
    else if number .big a b c d = Utf16.mark then decode .big rest
    else decode .little (a :: b :: c :: d :: rest)
  | octets => decode .little octets

/-- The octets of a text after a mark, low octets first. -/
def encodeMarked (s : Text) : Bytes := octets .little Utf16.mark ++ encode .little s

end HttpFetch.Utf32
