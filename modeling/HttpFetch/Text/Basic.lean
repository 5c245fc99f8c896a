/-!
# Text and bytes

Text is a list of characters and data is a list of octets, so that every rule of the library is
a function on lists. This module holds the vocabulary that all the others share: cutting a text
at its first separator, splitting it at every one, and the digits of numbers written in messages
and chunk sizes.
-/

namespace HttpFetch

/-- Text as its characters in order. -/
abbrev Text := List Char

/-- Data as its octets in order. -/
abbrev Bytes := List UInt8

namespace Text

/-- What precedes the first `sep`, and what follows it when there is one. -/
def cut (sep : Char) (s : Text) : Text × Option Text :=
  (s.takeWhile (· != sep), (s.dropWhile (· != sep)).tail?)

/-- What precedes the last `sep` and what follows it, if there is one. -/
def cutLast (sep : Char) (s : Text) : Option (Text × Text) :=
  match cut sep s.reverse with
  | (_, none) => none
  | (after, some before) => some (before.reverse, after.reverse)

/-- The pieces between the separators; there is always at least one. -/
def splitOn (sep : Char → Bool) (s : Text) : List Text :=
  let (piece, pieces) := s.foldr
    (fun c (piece, pieces) => if sep c then ([], piece :: pieces) else (c :: piece, pieces))
    ([], [])
  piece :: pieces

/-- Whether `part` occurs somewhere in a text. -/
def occursIn (part : Text) : Text → Bool
  | [] => part.isEmpty
  | c :: rest => part.isPrefixOf (c :: rest) || occursIn part rest

/-- The digits of a number below sixteen. -/
def digitChar (n : Nat) : Char :=
  if n < 10 then Char.ofNat (48 + n) else Char.ofNat (87 + n)

/-- The digits of `n` in a base between two and sixteen, least first; zero has none. -/
def digitsFrom (base : Nat) (n : Nat) : Text :=
  if 1 < base ∧ 0 < n then
    digitChar (n % base) :: digitsFrom base (n / base)
  else []
termination_by n
decreasing_by
  rename_i h
  exact Nat.div_lt_self h.2 h.1

/-- A number written in a base between two and sixteen, without leading zeros. -/
def ofNatBase (base n : Nat) : Text :=
  if n = 0 then ['0'] else (digitsFrom base n).reverse

/-- A number in decimal notation. -/
def ofNat (n : Nat) : Text := ofNatBase 10 n

/-- A number in decimal notation, with a sign when it is negative. -/
def ofInt : Int → Text
  | .ofNat n => ofNat n
  | .negSucc n => '-' :: ofNat (n + 1)

/-- The digits of `n` in a base, with zeros in front up to `width` places. -/
def padded (base width n : Nat) : Text :=
  let digits := ofNatBase base n
  List.replicate (width - digits.length) '0' ++ digits

end Text

end HttpFetch
