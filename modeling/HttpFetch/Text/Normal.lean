import HttpFetch.Text.NormalTable
import HttpFetch.Text.Table

/-!
# Canonical composition

A text is normalised in three passes: every character is decomposed, marks that follow one
another are put in the order of their combining classes, and each starter takes in the marks
that compose with it and are not blocked by another mark before them. Hangul syllables follow a
rule, all other characters a table. Characters below U+0300 are left as they are.
-/

namespace HttpFetch.Text

def decompositionTable : List (Nat × Text) :=
  (tableRows NormalTable.decompositions).filterMap CharMap.expansionOfRow?

/-- Two characters and what they compose to. -/
structure Composition where
  first : Nat
  second : Nat
  composite : Nat

def compositionOfRow? : List Nat → Option Composition
  | [first, second, composite] => some ⟨first, second, composite⟩
  | _ => none

def compositionTable : List Composition :=
  (tableRows NormalTable.compositions).filterMap compositionOfRow?

/-- A run of marks of one class. -/
def classOfRow? : List Nat → Option (Run × Nat)
  | [first, last, combining] => some (⟨first, last, 1⟩, combining)
  | _ => none

def classTable : List (Run × Nat) :=
  (tableRows NormalTable.combiningClasses).filterMap classOfRow?

/-- The combining class of a character; starters have class zero. -/
def combiningClass (c : Char) : Nat :=
  if c.toNat < 0x300 then 0
  else ((classTable.find? (·.1.contains c.toNat)).map (·.2)).getD 0

/-! Hangul: nineteen leading consonants, twenty-one vowels, and twenty-seven trailing consonants
or none. -/

def hangulDecompose (n : Nat) : Text :=
  let i := n - 0xac00
  let leading := Char.ofNat (0x1100 + i / 588)
  let vowel := Char.ofNat (0x1161 + i % 588 / 28)
  if i % 28 = 0 then [leading, vowel] else [leading, vowel, Char.ofNat (0x11a7 + i % 28)]

def hangulCompose? (a b : Nat) : Option Nat :=
  if 0x1100 ≤ a ∧ a < 0x1113 ∧ 0x1161 ≤ b ∧ b < 0x1176 then
    some (0xac00 + ((a - 0x1100) * 21 + (b - 0x1161)) * 28)
  else if 0xac00 ≤ a ∧ a < 0xd7a4 ∧ (a - 0xac00) % 28 = 0 ∧ 0x11a8 ≤ b ∧ b < 0x11c3 then
    some (a + (b - 0x11a7))
  else none

def decomposeChar (c : Char) : Text :=
  let n := c.toNat
  if n < 0xc0 then [c]
  else if 0xac00 ≤ n ∧ n < 0xd7a4 then hangulDecompose n
  else ((decompositionTable.find? (·.1 == n)).map (·.2)).getD [c]

/-- A character put in its place at the end of a text in reverse. -/
def placeMark (c : Char) : Text → Text
  | [] => [c]
  | p :: rest =>
    if combiningClass c ≠ 0 ∧ combiningClass c < combiningClass p then p :: placeMark c rest
    else c :: p :: rest

/-- The marks of a text in canonical order. -/
def orderMarks (s : Text) : Text := (s.foldl (fun rev c => placeMark c rev) []).reverse

def composePair? (a b : Char) : Option Char :=
  match hangulCompose? a.toNat b.toNat with
  | some n => some (Char.ofNat n)
  | none => (compositionTable.find? fun row => row.first == a.toNat && row.second == b.toNat).map
      fun row => Char.ofNat row.composite

/-- A text on its way to being composed: what is done in reverse, the last starter, and the marks
after it in reverse. -/
structure Composing where
  done : Text
  starter : Option Char
  marks : Text

namespace Composing

/-- What has been read, in reverse. -/
def flush (state : Composing) : Text := state.marks ++ state.starter.toList ++ state.done

/-- Whether a character can reach the last starter. -/
def reaches (state : Composing) (c : Char) : Bool :=
  match state.marks with
  | [] => true
  | mark :: _ => combiningClass mark < combiningClass c

def step (state : Composing) (c : Char) : Composing :=
  match state.starter.bind fun s => if state.reaches c then composePair? s c else none with
  | some composite => { state with starter := some composite }
  | none =>
    if combiningClass c = 0 then ⟨state.flush, some c, []⟩
    else if state.starter.isSome then { state with marks := c :: state.marks }
    else { state with done := c :: state.done }

end Composing

/-- The canonically composed form of a text. -/
def compose (s : Text) : Text :=
  if s.all (·.toNat < 0x300) then s
  else ((orderMarks (s.flatMap decomposeChar)).foldl Composing.step ⟨[], none, []⟩).flush.reverse

end HttpFetch.Text
