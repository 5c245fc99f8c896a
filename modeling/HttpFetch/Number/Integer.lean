import HttpFetch.Number.Digit

/-!
# Integers in text

An integer is digits with an optional sign, white space around them and single underscores
between them. Decimal integers have at most 4300 digits, leading zeros included; a text that
starts with more is refused for its length, whatever follows them.
-/

namespace HttpFetch.Integer

/-- Why a text is not an integer. -/
inductive Defect
  | malformed
  | tooManyDigits (count : Nat)
  deriving DecidableEq, Repr

/-- How many digits a decimal integer may have. -/
def maxDigits : Nat := 4300

/-- The sign of a number, if it has one, and what follows; `true` stands for minus. -/
def sign : Text → Bool × Text
  | '-' :: rest => (true, rest)
  | '+' :: rest => (false, rest)
  | s => (false, s)

def withSign (negative : Bool) (n : Nat) : Int := if negative then -(n : Int) else n

/-- The integer that a text denotes in decimal notation. -/
def parse (s : Text) : Except Defect Int :=
  let (negative, body) := sign (Text.trimOf Text.isSpace s)
  match Digit.span Digit.decimal? body with
  | none => .error .malformed
  | some (digits, rest) =>
    if digits.length > maxDigits then .error (.tooManyDigits digits.length)
    else if !rest.isEmpty then .error .malformed
    else .ok (withSign negative (Digit.value 10 digits))

/-- A text without the mark of hexadecimal notation, which one underscore may follow. -/
def dropHexMark (s : Text) : Text :=
  match s with
  | '0' :: x :: rest =>
    if x = 'x' ∨ x = 'X' then
      match rest with
      | '_' :: rest => rest
      | rest => rest
    else s
  | s => s

/-- The integer that a text denotes in hexadecimal notation, the mark `0x` being optional. -/
def parseHex? (s : Text) : Option Int :=
  let (negative, body) := sign (Text.trimOf Text.isSpace s)
  match Digit.span Digit.hex? (dropHexMark body) with
  | some (digits, []) => some (withSign negative (Digit.value 16 digits))
  | _ => none

end HttpFetch.Integer
