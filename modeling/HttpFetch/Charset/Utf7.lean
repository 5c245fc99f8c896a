import HttpFetch.Charset.Utf16

/-!
# UTF-7

ASCII characters stand for themselves, and a plus sign begins a run of UTF-16 units written in
base 64. A run ends at the first octet that is no digit; a minus sign there belongs to the run. A
plus sign is itself written with a minus sign after it.
-/

namespace HttpFetch.Utf7

/-- The value of a digit of base 64. -/
def digit? (b : UInt8) : Option Nat :=
  let n := b.toNat
  if 65 ≤ n ∧ n ≤ 90 then some (n - 65)
  else if 97 ≤ n ∧ n ≤ 122 then some (n - 71)
  else if 48 ≤ n ∧ n ≤ 57 then some (n + 4)
  else if n = 43 then some 62
  else if n = 47 then some 63
  else none

/-- The digit of a value below 64. -/
def digit (n : Nat) : UInt8 :=
  if n < 26 then UInt8.ofNat (n + 65)
  else if n < 52 then UInt8.ofNat (n + 71)
  else if n < 62 then UInt8.ofNat (n - 4)
  else if n = 62 then 43
  else 47

def plus : UInt8 := 43
def minus : UInt8 := 45

/-- A run being read: the bits that do not make up a unit yet, how many they are, and a high
surrogate that waits for a low one. -/
structure Run where
  bits : Nat
  width : Nat
  high : Option Nat

namespace Run

def start : Run := ⟨0, 0, none⟩

/-- The text that a unit completes after what waits, and what waits then. -/
def accept (high : Option Nat) (unit : Nat) : Text × Option Nat :=
  match high with
  | some h =>
    if Utf16.isLow unit then (Utf16.ofNumbers [h, unit], none)
    else if Utf16.isHigh unit then ([Utf8.replacement], some unit)
    else (Utf16.ofNumbers [h, unit], none)
  | none => if Utf16.isHigh unit then ([], some unit) else (Utf16.ofNumbers [unit], none)

/-- A run with one digit more, and the text that it completes. -/
def push (run : Run) (digit : Nat) : Text × Run :=
  let bits := run.bits * 64 + digit
  let width := run.width + 6
  if 16 ≤ width then
    let scale := 1 <<< (width - 16)
    let (text, high) := accept run.high (bits / scale)
    (text, ⟨bits % scale, width - 16, high⟩)
  else ([], ⟨bits, width, run.high⟩)

/-- Whether a run stops inside a unit: a whole digit, or a bit that is set, is left over. -/
def isCut (run : Run) : Bool := 6 ≤ run.width || run.bits != 0

/-- The text that a run leaves when it stops before an octet. -/
def rest (run : Run) (next : UInt8) : Text :=
  if run.high.isSome && next < 0x80 then [Utf8.replacement] else []

end Run

/-- The text of octets, inside a run or outside of one. What is wrong is replaced, and a run with
something wrong ends there. -/
def decodeFrom (run : Option Run) (data : Bytes) : Text :=
  match run, data with
  | none, [] => []
  | some run, [] => if run.isCut || run.high.isSome then [Utf8.replacement] else []
  | none, b :: rest =>
    if b = plus then
      match rest with
      | [] => []
      | c :: after =>
        if c = minus then '+' :: decodeFrom none after
        else if (digit? c).isSome then decodeFrom (some .start) (c :: after)
        else Utf8.replacement :: decodeFrom none after
    else (if b < 0x80 then Char.ofNat b.toNat else Utf8.replacement) :: decodeFrom none rest
  | some run, b :: rest =>
    match digit? b with
    | some d =>
      let (text, run) := run.push d
      text ++ decodeFrom (some run) rest
    | none =>
      if run.isCut then Utf8.replacement :: decodeFrom none rest
      else if b = minus then run.rest b ++ decodeFrom none rest
      else run.rest b ++ decodeFrom none (b :: rest)
termination_by 2 * data.length + (if run.isSome then 1 else 0)
decreasing_by
  all_goals
    simp only [List.length_cons, Option.isSome_some, Option.isSome_none, Bool.false_eq_true,
      if_true, if_false]
    omega

/-- The text of octets, with replacement characters for what is wrong. -/
def decode (data : Bytes) : Text := decodeFrom none data

/-- Characters that are written as they are: printed ones except three, and four blank ones. -/
def isDirect (c : Char) : Bool :=
  let n := c.toNat
  (0x20 ≤ n && n < 0x7e && n != 0x2b && n != 0x5c) || n = 9 || n = 10 || n = 13

/-- Digits of the bits that fill some, and the bits left with their number. -/
def digits (bits width : Nat) : Bytes × Nat × Nat :=
  if width < 6 then ([], bits, width)
  else
    let scale := 1 <<< (width - 6)
    let (more, left) := digits (bits % scale) (width - 6)
    (digit (bits / scale) :: more, left)

/-- The digit of the bits left at the end of a run. -/
def lastDigit (bits width : Nat) : Bytes :=
  if width = 0 then [] else [digit (bits <<< (6 - width))]

/-- The octets of a text, after the bits that a run has left if there is a run. -/
def encodeFrom (run : Option (Nat × Nat)) : Text → Bytes
  | [] =>
    match run with
    | some (bits, width) => lastDigit bits width ++ [minus]
    | none => []
  | c :: rest =>
    if isDirect c then
      let b := UInt8.ofNat c.toNat
      match run with
      | some (bits, width) =>
        lastDigit bits width ++ (if (digit? b).isSome || b = minus then [minus, b] else [b])
          ++ encodeFrom none rest
      | none => b :: encodeFrom none rest
    else if c = '+' && run.isNone then plus :: minus :: encodeFrom none rest
    else
      let (bits, width) := run.getD (0, 0)
      let (octets, bits, width) := (Utf16.units c).foldl (fun (octets, bits, width) unit =>
        let (more, left) := digits (bits * 65536 + unit) (width + 16)
        (octets ++ more, left)) ([], bits, width)
      (if run.isNone then [plus] else []) ++ octets ++ encodeFrom (some (bits, width)) rest

/-- The octets of a text. -/
def encode (s : Text) : Bytes := encodeFrom none s

end HttpFetch.Utf7
