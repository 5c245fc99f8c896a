import HttpFetch.Text.Basic

/-!
# Punycode

A label outside ASCII is written as its ASCII characters followed by where and in which order the
others go in: the number of steps between one insertion and the next, in digits of base 36 whose
weights depend on a bias that follows the size of the steps. Every loop ends by the number it
divides or the text it reads.
-/

namespace HttpFetch.Punycode

def digit (n : Nat) : Char := if n < 26 then Char.ofNat (97 + n) else Char.ofNat (22 + n)

/-- The value of a lower-case digit. -/
def digit? (c : Char) : Option Nat :=
  if 'a' ≤ c ∧ c ≤ 'z' then some (c.toNat - 97)
  else if '0' ≤ c ∧ c ≤ '9' then some (c.toNat - 22)
  else none

/-- The least value that does not end a number at the digit of place `k`. -/
def threshold (bias k : Nat) : Nat := max 1 (min 26 (36 * (k + 1) - bias))

theorem threshold_bounds (bias k : Nat) : 1 ≤ threshold bias k ∧ threshold bias k ≤ 26 := by
  unfold threshold
  omega

/-- How often a number above 455 has to be divided by 35, and what is left. -/
def shrink (delta rounds : Nat) : Nat × Nat :=
  if 455 < delta then shrink (delta / 35) (rounds + 1) else (delta, rounds)
termination_by delta
decreasing_by exact Nat.div_lt_self (by omega) (by omega)

/-- The bias after an insertion. -/
def adapt (delta count : Nat) (first : Bool) : Nat :=
  let delta := if first then delta / 700 else delta / 2
  let (delta, rounds) := shrink (delta + delta / count) 0
  36 * rounds + 36 * delta / (delta + 38)

/-- The digits of a number, from place `k` on. -/
def digits (bias k n : Nat) : Text :=
  let t := threshold bias k
  if n < t then [digit n]
  else digit (t + (n - t) % (36 - t)) :: digits bias (k + 1) ((n - t) / (36 - t))
termination_by n
decreasing_by
  have := threshold_bounds bias k
  have := Nat.div_le_self (n - threshold bias k) (36 - threshold bias k)
  omega

/-- A label on its way to being written. -/
structure Writing where
  written : Text
  delta : Nat
  bias : Nat
  count : Nat
  first : Bool

namespace Writing

/-- One character of the label, while the characters `point` go in. -/
def scan (point : Nat) (state : Writing) (c : Char) : Writing :=
  if c.toNat < point then { state with delta := state.delta + 1 }
  else if c.toNat = point then
    { written := state.written ++ digits state.bias 0 state.delta
      delta := 0
      bias := adapt state.delta (state.count + 1) state.first
      count := state.count + 1
      first := false }
  else state

/-- All characters `point` of the label, after those before `next` have gone in. -/
def insert (label : Text) (state : Writing × Nat) (point : Nat) : Writing × Nat :=
  let (writing, next) := state
  let writing := { writing with delta := writing.delta + (point - next) * (writing.count + 1) }
  let writing := label.foldl (scan point) writing
  ({ writing with delta := writing.delta + 1 }, point + 1)

end Writing

/-- The written form of a label. -/
def encode (label : Text) : Text :=
  let basic := label.filter (·.toNat < 128)
  let points := ((label.filter (128 ≤ ·.toNat)).map Char.toNat).mergeSort.eraseDups
  let start : Writing := ⟨[], 0, 72, basic.length, true⟩
  let extended := (points.foldl (Writing.insert label) (start, 128)).1.written
  basic ++ (if basic.isEmpty then [] else ['-']) ++ extended

/-- A label on its way to being read: the characters so far, where the last one went in and which
it was, and the number that is being read with the weight and place of its next digit. -/
structure Reading where
  label : Text
  position : Nat
  point : Nat
  bias : Nat
  first : Bool
  delta : Nat
  weight : Nat
  place : Nat

namespace Reading

/-- The insertion that a complete number stands for, unless it goes beyond all characters. -/
def insert? (state : Reading) : Option Reading :=
  let places := state.label.length + 1
  let position := state.position + state.delta
  let point := state.point + position / places
  let position := position % places
  if Nat.isValidChar point then
    some {
      label := state.label.take position ++ Char.ofNat point :: state.label.drop position
      position := position + 1
      point := point
      bias := adapt state.delta places state.first
      first := false
      delta := 0
      weight := 1
      place := 0 }
  else none

/-- The next digit. -/
def step? (state : Reading) (c : Char) : Option Reading := do
  let value ← digit? c
  let t := threshold state.bias state.place
  let state := { state with delta := state.delta + value * state.weight }
  if value < t then state.insert?
  else some { state with weight := state.weight * (36 - t), place := state.place + 1 }

end Reading

/-- The label with a given written form in lower case, if it is one. -/
def decode? (written : Text) : Option Text := do
  let (basic, extended) := (Text.cutLast '-' written).getD ([], written)
  let state ← extended.foldlM Reading.step? ⟨basic, 0, 128, 72, true, 0, 1, 0⟩
  if state.place = 0 then some state.label else none

namespace Reading

/-- The insertion that a complete number stands for; beyond all characters it is of a question
mark. -/
def insert (state : Reading) : Reading :=
  let places := state.label.length + 1
  let position := state.position + state.delta
  let point := state.point + position / places
  let point := if point < 0x110000 then point else 63
  let position := position % places
  let c := if point.isValidChar then Char.ofNat point else Char.ofNat 0xfffd
  { label := state.label.take position ++ c :: state.label.drop position
    position := position + 1
    point := point
    bias := adapt state.delta places state.first
    first := false
    delta := 0
    weight := 1
    place := 0 }

/-- The label after the digits of a text, up to where it has no more of them. -/
def readOn (state : Reading) : Text → Text
  | [] => state.label
  | c :: rest =>
    match digit? c with
    | none => state.label
    | some value =>
      let t := threshold state.bias state.place
      let state := { state with delta := state.delta + value * state.weight }
      if value < t then readOn state.insert rest
      else readOn { state with weight := state.weight * (36 - t), place := state.place + 1 } rest

end Reading

/-- The label that written octets stand for, as far as they can be read: octets that are not ASCII
are replaced in the ASCII characters of the label, and not allowed after them. -/
def decodeLoosely? (written : Bytes) : Option Text :=
  let chars := written.map fun b => if b < 0x80 then Char.ofNat b.toNat else Char.ofNat 0xfffd
  let (basic, extended) := (Text.cutLast '-' chars).getD ([], chars)
  if extended.all (·.toNat < 128) then
    some (Reading.readOn ⟨basic, 0, 128, 72, true, 0, 1, 0⟩ (extended.map Char.toLower))
  else none

end HttpFetch.Punycode
