import HttpFetch.Text.Utf8

/-!
# Encodings of one octet for a character

A code page lists the characters of all octets, with the replacement character for octets that
encode nothing. Where two octets have the same character, it is written as the later one.
-/

namespace HttpFetch

/-- The characters of the octets below 128, and of the others. -/
structure CodePage where
  lower : String
  upper : String
  deriving DecidableEq, Repr

namespace CodePage

/-- The ASCII characters in order. -/
def ascii : String := String.ofList ((List.range 128).map Char.ofNat)

/-- A page that is ASCII below 128. -/
def ofUpper (upper : String) : CodePage := ⟨ascii, upper⟩

/-- The characters of all octets in order. -/
def chars (page : CodePage) : List Char := page.lower.toList ++ page.upper.toList

/-- The text of octets. -/
def decode (page : CodePage) (data : Bytes) : Text :=
  let chars := page.chars.toArray
  data.map fun b => chars.getD b.toNat Utf8.replacement

/-- The octet of a character, if it has one. -/
def encodeChar? (page : CodePage) (c : Char) : Option UInt8 :=
  if c = Utf8.replacement then none
  else (page.chars.reverse.idxOf? c).map fun place => UInt8.ofNat (255 - place)

end CodePage

end HttpFetch
