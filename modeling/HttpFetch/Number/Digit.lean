import HttpFetch.Text.Blank

/-!
# Digits

The decimal digits of every script count as digits of numbers. Each script has its ten digits in
a row, so a table of the zeros decides. Between two digits a single underscore may stand.
-/

namespace HttpFetch.Digit

/-- The zero of each run of ten decimal digits. -/
def zeros : List Nat :=
  [0x30, 0x660, 0x6f0, 0x7c0, 0x966, 0x9e6, 0xa66, 0xae6, 0xb66, 0xbe6, 0xc66, 0xce6, 0xd66,
    0xde6, 0xe50, 0xed0, 0xf20, 0x1040, 0x1090, 0x17e0, 0x1810, 0x1946, 0x19d0, 0x1a80, 0x1a90,
    0x1b50, 0x1bb0, 0x1c40, 0x1c50, 0xa620, 0xa8d0, 0xa900, 0xa9d0, 0xa9f0, 0xaa50, 0xabf0,
    0xff10, 0x104a0, 0x10d30, 0x11066, 0x110f0, 0x11136, 0x111d0, 0x112f0, 0x11450, 0x114d0,
    0x11650, 0x116c0, 0x11730, 0x118e0, 0x11950, 0x11c50, 0x11d50, 0x11da0, 0x16a60, 0x16ac0,
    0x16b50, 0x1d7ce, 0x1d7d8, 0x1d7e2, 0x1d7ec, 0x1d7f6, 0x1e140, 0x1e2f0, 0x1e950, 0x1fbf0]

/-- The value of a decimal digit of any script. -/
def decimal? (c : Char) : Option Nat :=
  if c.toNat < 128 then if '0' ≤ c ∧ c ≤ '9' then some (c.toNat - 48) else none
  else (zeros.find? fun first => first ≤ c.toNat && c.toNat < first + 10).map (c.toNat - ·)

/-- The value of a hexadecimal digit: a decimal one of any script, or an ASCII letter. -/
def hex? (c : Char) : Option Nat :=
  if 'a' ≤ c ∧ c ≤ 'f' then some (c.toNat - 87)
  else if 'A' ≤ c ∧ c ≤ 'F' then some (c.toNat - 55)
  else decimal? c

/-- The value of an ASCII hexadecimal digit. -/
def asciiHex? (c : Char) : Option Nat := if c.toNat < 128 then hex? c else none

/-- Whether no two underscores of a text meet and none stands last. -/
def separated : Text → Bool
  | [] => true
  | ['_'] => false
  | '_' :: '_' :: _ => false
  | _ :: rest => separated rest

/-- The digits that a text starts with, with single underscores between them, and the rest. -/
def span (value? : Char → Option Nat) (s : Text) : Option (List Nat × Text) :=
  let inRun := fun c => (value? c).isSome || c == '_'
  let run := s.takeWhile inRun
  if run.isEmpty || run.head? == some '_' || !separated run then none
  else some (run.filterMap value?, s.dropWhile inRun)

/-- The number with the given digits, most significant first. -/
def value (base : Nat) (digits : List Nat) : Nat := digits.foldl (fun n d => n * base + d) 0

end HttpFetch.Digit
