import HttpFetch.Text.Basic

/-!
# Blank characters

Two sets of blanks are in use. `isSpace` is the White_Space property; numbers may stand between
such characters. `isBlank` adds the four information separators, and is what trimming takes away.
Octets have a third set, the ASCII part of the first.
-/

namespace HttpFetch.Text

/-- White space: the ASCII controls tab to carriage return, the space, and the wider ones. -/
def isSpace (c : Char) : Bool :=
  let n := c.toNat
  (9 ≤ n && n ≤ 13) || n == 32 || n == 0x85 || n == 0xa0 || n == 0x1680
    || (0x2000 ≤ n && n ≤ 0x200a) || n == 0x2028 || n == 0x2029 || n == 0x202f || n == 0x205f
    || n == 0x3000

/-- White space, or one of the separators U+001C to U+001F. -/
def isBlank (c : Char) : Bool :=
  isSpace c || (0x1c ≤ c.toNat && c.toNat ≤ 0x1f)

/-- A text without the characters of a class at its front. -/
def trimLeft (drop : Char → Bool) (s : Text) : Text := s.dropWhile drop

/-- A text without the characters of a class at its end. -/
def trimRight (drop : Char → Bool) (s : Text) : Text := (s.reverse.dropWhile drop).reverse

/-- A text without the characters of a class at either end. -/
def trimOf (drop : Char → Bool) (s : Text) : Text := trimRight drop (trimLeft drop s)

/-- A text without the blanks around it. -/
def trim (s : Text) : Text := trimOf isBlank s

end HttpFetch.Text

namespace HttpFetch.Bytes

/-- The octets of ASCII white space. -/
def isBlank (b : UInt8) : Bool := (9 ≤ b && b ≤ 13) || b == 32

end HttpFetch.Bytes
