import HttpFetch.Text.Basic

/-!
# Latin-1

The encoding in which each octet is the character of the same number. Every octet sequence is the
code of one text, and the texts that have a code are those below U+0100.
-/

namespace HttpFetch.Latin

def decodeOctet (b : UInt8) : Char := Char.ofNat b.toNat

/-- Every octet as the character of its number. -/
def decode (data : Bytes) : Text := data.map decodeOctet

def encodeChar? (c : Char) : Option UInt8 :=
  if c.toNat < 256 then some (UInt8.ofNat c.toNat) else none

/-- The octets of a text below U+0100; no other text has any. -/
def encode? (s : Text) : Option Bytes := s.mapM encodeChar?

@[simp] theorem decode_nil : decode [] = [] := rfl

@[simp] theorem decode_append (a b : Bytes) : decode (a ++ b) = decode a ++ decode b :=
  List.map_append

@[simp] theorem length_decode (data : Bytes) : (decode data).length = data.length :=
  List.length_map ..

end HttpFetch.Latin
