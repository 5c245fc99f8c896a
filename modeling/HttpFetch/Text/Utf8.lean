import HttpFetch.Text.Basic

/-!
# UTF-8

Encoding goes character by character. Decoding reads octet by octet: a decoder owes some tail
octets, the next of which has to lie between two bounds; an octet out of bounds ends what has
been read so far with one replacement character and is then read afresh. So each maximal part
that begins a character but does not complete it is replaced once.
-/

namespace HttpFetch.Utf8

/-- The octets of a character. -/
def encodeChar (c : Char) : Bytes :=
  let n := c.toNat
  if n < 0x80 then [UInt8.ofNat n]
  else if n < 0x800 then [UInt8.ofNat (0xc0 + n / 64), UInt8.ofNat (0x80 + n % 64)]
  else if n < 0x10000 then
    [UInt8.ofNat (0xe0 + n / 4096), UInt8.ofNat (0x80 + n / 64 % 64), UInt8.ofNat (0x80 + n % 64)]
  else
    [UInt8.ofNat (0xf0 + n / 262144), UInt8.ofNat (0x80 + n / 4096 % 64),
      UInt8.ofNat (0x80 + n / 64 % 64), UInt8.ofNat (0x80 + n % 64)]

/-- The octets of a text. -/
def encode (s : Text) : Bytes := s.flatMap encodeChar

@[simp] theorem encode_nil : encode [] = [] := rfl

@[simp] theorem encode_append (s t : Text) : encode (s ++ t) = encode s ++ encode t :=
  List.flatMap_append ..

/-- What a decoder has read of a character: how many tail octets it still owes, between which
bounds the next one has to lie, and the value so far. -/
structure Owed where
  tails : Nat
  low : Nat
  high : Nat
  value : Nat

/-- A decoder between two octets, with the text so far in reverse. -/
structure Decoder where
  reversed : Text
  owed : Option Owed

/-- The character that stands for octets that encode none. -/
def replacement : Char := Char.ofNat 0xfffd

namespace Decoder

/-- The first octet of a character. -/
def start (reversed : Text) (n : Nat) : Decoder :=
  if n < 0x80 then ⟨Char.ofNat n :: reversed, none⟩
  else if 0xc2 ≤ n ∧ n ≤ 0xdf then ⟨reversed, some ⟨1, 0x80, 0xbf, n - 0xc0⟩⟩
  else if n = 0xe0 then ⟨reversed, some ⟨2, 0xa0, 0xbf, 0⟩⟩
  else if n = 0xed then ⟨reversed, some ⟨2, 0x80, 0x9f, 0xd⟩⟩
  else if 0xe1 ≤ n ∧ n ≤ 0xef then ⟨reversed, some ⟨2, 0x80, 0xbf, n - 0xe0⟩⟩
  else if n = 0xf0 then ⟨reversed, some ⟨3, 0x90, 0xbf, 0⟩⟩
  else if 0xf1 ≤ n ∧ n ≤ 0xf3 then ⟨reversed, some ⟨3, 0x80, 0xbf, n - 0xf0⟩⟩
  else if n = 0xf4 then ⟨reversed, some ⟨3, 0x80, 0x8f, 4⟩⟩
  else ⟨replacement :: reversed, none⟩

/-- The next octet. -/
def step (d : Decoder) (b : UInt8) : Decoder :=
  let n := b.toNat
  match d.owed with
  | none => start d.reversed n
  | some o =>
    if o.low ≤ n ∧ n ≤ o.high then
      let value := o.value * 64 + (n - 0x80)
      if o.tails = 1 then ⟨Char.ofNat value :: d.reversed, none⟩
      else ⟨d.reversed, some ⟨o.tails - 1, 0x80, 0xbf, value⟩⟩
    else start (replacement :: d.reversed) n

/-- The text read, where a character left incomplete is replaced. -/
def text (d : Decoder) : Text :=
  match d.owed with
  | none => d.reversed.reverse
  | some _ => (replacement :: d.reversed).reverse

end Decoder

/-- The text that octets encode, with one replacement character for each part that encodes none. -/
def decode (data : Bytes) : Text := (data.foldl Decoder.step ⟨[], none⟩).text

end HttpFetch.Utf8
