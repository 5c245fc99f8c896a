import HttpFetch.Charset.Utf16
import HttpFetch.Number.Digit
import HttpFetch.Text.Latin

/-!
# Escapes

Latin-1 with escapes for what it lacks, by number. The full form escapes controls, the backslash
and everything beyond ASCII, and also reads escapes by letter, in octal and by name; no name is
known. The raw form has only the escapes with four and eight digits.
-/

namespace HttpFetch.Escaped

/-- What a backslash and a letter stand for. -/
def letters : List (Char × Nat) :=
  [('\\', 0x5c), ('\'', 0x27), ('"', 0x22), ('b', 8), ('f', 12), ('t', 9), ('n', 10), ('r', 13),
    ('v', 11), ('a', 7)]

/-- How many digits follow a letter. -/
def widths : List (Char × Nat) := [('x', 2), ('u', 4), ('U', 8)]

def replaced : Nat := Utf8.replacement.toNat

/-- The number written in exactly `width` hexadecimal digits, unless it is beyond all characters or
digits are missing, and what follows the digits. -/
def number (width : Nat) (s : Text) : Nat × Text :=
  let digits := (s.take width).map Digit.asciiHex? |>.takeWhile Option.isSome |>.filterMap id
  let n := Digit.value 16 digits
  (if digits.length = width ∧ n < 0x110000 then n else replaced, s.drop digits.length)

def isOctal (c : Char) : Bool := '0' ≤ c && c ≤ '7'

/-- The number written in up to three octal digits, and what follows them. -/
def octal (s : Text) : Nat × Text :=
  let digits := (s.take 3).takeWhile isOctal
  (Digit.value 8 (digits.map fun c => c.toNat - 48), s.drop digits.length)

/-- What follows a name in braces, as far as it is one. -/
def afterName : Text → Text
  | '\x7b' :: rest =>
    match rest.dropWhile (· != '\x7d') with
    | [] => []
    | close :: after => if rest.head? = some '\x7d' then close :: after else after
  | rest => rest

theorem length_number (width : Nat) (s : Text) : (number width s).2.length ≤ s.length := by
  simp [number]

theorem length_octal (s : Text) : (octal s).2.length ≤ s.length := by
  simp [octal]

theorem length_afterName (s : Text) : (afterName s).length ≤ s.length := by
  unfold afterName
  split
  · rename_i rest
    have h := (List.dropWhile_sublist (l := rest) (· != '\x7d')).length_le
    split
    · simp
    · rename_i heq
      rw [heq] at h
      split <;> simp at h ⊢ <;> omega
  · simp

/-- The numbers that a text with escapes stands for. -/
def numbers : Text → List Nat
  | [] => []
  | '\\' :: [] => [replaced]
  | '\\' :: c :: rest =>
    if c = '\n' then numbers rest
    else
      match letters.lookup c, widths.lookup c with
      | some n, _ => n :: numbers rest
      | none, some width =>
        have := length_number width rest
        (number width rest).1 :: numbers (number width rest).2
      | none, none =>
        if isOctal c then
          have : (octal (c :: rest)).2.length ≤ rest.length + 1 := length_octal (c :: rest)
          (octal (c :: rest)).1 :: numbers (octal (c :: rest)).2
        else if c = 'N' then
          have := length_afterName rest
          replaced :: numbers (afterName rest)
        else 0x5c :: c.toNat :: numbers rest
  | c :: rest => c.toNat :: numbers rest
termination_by s => s.length
decreasing_by all_goals simp only [List.length_cons] at *; omega

/-- The numbers that a text with the escapes of the raw form stands for. -/
def rawNumbers : Text → List Nat
  | [] => []
  | '\\' :: c :: rest =>
    if c = 'u' then
      have := length_number 4 rest
      (number 4 rest).1 :: rawNumbers (number 4 rest).2
    else if c = 'U' then
      have := length_number 8 rest
      (number 8 rest).1 :: rawNumbers (number 8 rest).2
    else 0x5c :: c.toNat :: rawNumbers rest
  | c :: rest => c.toNat :: rawNumbers rest
termination_by s => s.length

/-- The text of octets in the full form. -/
def decode (data : Bytes) : Text := Utf16.ofNumbers (numbers (Latin.decode data))

/-- The text of octets in the raw form. -/
def decodeRaw (data : Bytes) : Text := Utf16.ofNumbers (rawNumbers (Latin.decode data))

/-- A character that Latin-1 lacks, by number. -/
def escape (c : Char) : Text :=
  let n := c.toNat
  if n < 0x10000 then '\\' :: 'u' :: Text.padded 16 4 n else '\\' :: 'U' :: Text.padded 16 8 n

/-- A character in the full form. -/
def escapeAll (c : Char) : Text :=
  let n := c.toNat
  if c = '\\' then "\\\\".toList
  else if c = '\t' then "\\t".toList
  else if c = '\n' then "\\n".toList
  else if c = '\r' then "\\r".toList
  else if 0x20 ≤ n ∧ n < 0x7f then [c]
  else if n < 0x100 then '\\' :: 'x' :: Text.padded 16 2 n
  else escape c

def octets (s : Text) : Bytes := s.map fun c => UInt8.ofNat c.toNat

/-- The octets of a text in the full form. -/
def encode (s : Text) : Bytes := octets (s.flatMap escapeAll)

/-- The octets of a text in the raw form. -/
def encodeRaw (s : Text) : Bytes :=
  octets (s.flatMap fun c => if c.toNat < 0x100 then [c] else escape c)

end HttpFetch.Escaped
