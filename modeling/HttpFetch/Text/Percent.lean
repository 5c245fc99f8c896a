import HttpFetch.Number.Digit
import HttpFetch.Text.Utf8

/-!
# Percent-encoding

A character outside the safe ones is written as its UTF-8 octets, each a percent sign and two
upper-case hexadecimal digits. Reading back takes adjoining escapes together as UTF-8; a percent
sign without two hexadecimal digits stands for itself.
-/

namespace HttpFetch.Percent

/-- A hexadecimal digit in upper case. -/
def hexDigit (n : Nat) : Char := if n < 10 then Char.ofNat (48 + n) else Char.ofNat (55 + n)

def encodeOctet (b : UInt8) : Text :=
  ['%', hexDigit (b.toNat / 16), hexDigit (b.toNat % 16)]

def encodeChar (safe : Char → Bool) (c : Char) : Text :=
  if safe c then [c] else (Utf8.encodeChar c).flatMap encodeOctet

/-- A text with every unsafe character escaped. -/
def encode (safe : Char → Bool) (s : Text) : Text := s.flatMap (encodeChar safe)

/-- A decoder after a character that stands for itself. -/
def push (d : Utf8.Decoder) (c : Char) : Utf8.Decoder := ⟨c :: d.text.reverse, none⟩

/-- The rest of a text read by a decoder. -/
def decodeFrom (d : Utf8.Decoder) : Text → Utf8.Decoder
  | '%' :: x :: y :: rest =>
    match Digit.asciiHex? x, Digit.asciiHex? y with
    | some high, some low => decodeFrom (d.step (UInt8.ofNat (16 * high + low))) rest
    | _, _ => decodeFrom (push d '%') (x :: y :: rest)
  | c :: rest => decodeFrom (push d c) rest
  | [] => d

/-- A text with its escapes read as UTF-8. -/
def decode (s : Text) : Text :=
  if s.elem '%' then (decodeFrom ⟨[], none⟩ s).text else s

end HttpFetch.Percent
