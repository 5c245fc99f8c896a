import HttpFetch.Number.Digit
import HttpFetch.Number.Double
import HttpFetch.Number.Integer

/-!
# Doubles in text

Digits with an optional point among or around them and an optional exponent, with a sign and
white space as integers have them; or a name of infinity or of the undefined number in any case.
The number is the nearest double, and infinity beyond the range.
-/

namespace HttpFetch.Decimal

/-- Digits that may be missing altogether. -/
def optionalDigits (s : Text) : Option (List Nat × Text) :=
  match s with
  | [] => some ([], [])
  | c :: _ =>
    if (Digit.decimal? c).isSome then Digit.span Digit.decimal? s else some ([], s)

/-- The digits before and after the point. -/
def mantissa (s : Text) : Option (List Nat × List Nat × Text) := do
  let (whole, rest) ← optionalDigits s
  match rest with
  | '.' :: rest =>
    let (fraction, rest) ← optionalDigits rest
    if whole.isEmpty && fraction.isEmpty then none else some (whole, fraction, rest)
  | rest => if whole.isEmpty then none else some (whole, [], rest)

/-- The exponent, which ends the number. -/
def exponent : Text → Option Int
  | [] => some 0
  | c :: rest =>
    if c = 'e' ∨ c = 'E' then
      let (negative, body) := Integer.sign rest
      match Digit.span Digit.decimal? body with
      | some (digits, []) => some (Integer.withSign negative (Digit.value 10 digits))
      | _ => none
    else none

/-- A number without its sign. -/
def unsigned? (s : Text) : Option Double :=
  let name := s.map Char.toLower
  if name = "inf".toList ∨ name = "infinity".toList then some .infinity
  else if name = "nan".toList then some .undefined
  else do
    let (whole, fraction, rest) ← mantissa s
    let e ← exponent rest
    let digits := (whole ++ fraction).dropWhile (· = 0)
    some (Double.ofDecimal (Digit.value 10 digits) digits.length (e - fraction.length))

/-- The number that a text denotes. -/
def parse? (s : Text) : Option Double :=
  let (negative, body) := Integer.sign (Text.trimOf Text.isSpace s)
  (unsigned? body).map fun x => if negative then x.negate else x

end HttpFetch.Decimal
