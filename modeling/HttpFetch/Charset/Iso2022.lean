import HttpFetch.Charset.Chinese
import HttpFetch.Charset.Japanese
import HttpFetch.Charset.Korean

/-!
# Encodings that switch between sets

All octets are in the lower half, and escape sequences tell which set they stand for. There are
three places for sets: one in use from the start, one in use after a shift, and one that lends
single characters.
-/

namespace HttpFetch.Iso2022

/-- A set that can be put in a place: the octet that names it and the octets of its codes. -/
structure CodeSet where
  mark : UInt8
  width : Nat
  book : Codebook

/-- An encoding that switches between sets: those for each place, in order of preference, and
whether escape sequences may name the edition of a set. Places without sets are not known. -/
structure Scheme where
  ground : List CodeSet
  shifted : List CodeSet := []
  lent : List CodeSet := []
  hasEditions : Bool := true

namespace Scheme

def hasShifts (scheme : Scheme) : Bool := !scheme.shifted.isEmpty

def lends (scheme : Scheme) : Bool := !scheme.lent.isEmpty

/-- The set of a width with a name. -/
def set? (scheme : Scheme) (mark : UInt8) (width : Nat) : Option CodeSet :=
  (scheme.ground ++ scheme.shifted ++ scheme.lent).find? fun set => set.mark == mark && set.width == width

end Scheme

/-- A place for a set. -/
inductive Place
  | ground
  | shifted
  | lent
  deriving DecidableEq

/-- What is in the places, nothing being ASCII, whether the second one is in use, and whether an
escape sequence of another kind is passed over. -/
structure State where
  ground : Option CodeSet := none
  shifted : Option CodeSet := none
  lent : Option CodeSet := none
  isShifted : Bool := false
  isPassing : Bool := false

namespace State

def start : State := {}

def inUse (state : State) : Option CodeSet := if state.isShifted then state.shifted else state.ground

def put (state : State) (place : Place) (set : Option CodeSet) : State :=
  match place with
  | .ground => { state with ground := set }
  | .shifted => { state with shifted := set }
  | .lent => { state with lent := set }

end State

def escape : UInt8 := 0x1b
def shiftIn : UInt8 := 0x0f
def shiftOut : UInt8 := 0x0e
def newline : UInt8 := 0x0a

/-- The octets that end escape sequences: capitals and the sign before them. -/
def endsEscape (b : UInt8) : Bool := 0x40 ≤ b && b ≤ 0x5a

/-- The octets that begin the escape sequences for sets. -/
def beginsSet (b : UInt8) : Bool := [0x28, 0x29, 0x24, 0x2e, 0x26].elem b

/-- How long an escape sequence is of which some octets have been read, or zero if it has no end
among its first sixteen octets; nothing if the octets stop before. An edition may stand inside. -/
def escapeLength? (hasEditions : Bool) (length : Nat) (data : Bytes) : Option Nat :=
  if 16 ≤ length then some 0
  else
    match data with
    | [] => none
    | b :: rest =>
      if endsEscape b then some (length + 1)
      else if hasEditions && b = 0x26 && rest.head? = some 0x40 then
        escapeLength? hasEditions (length + 3) (rest.drop 2)
      else escapeLength? hasEditions (length + 1) rest
termination_by data.length

/-- The state after an escape sequence, unless it puts no set of the encoding in a place. -/
def State.afterEscape? (scheme : Scheme) (state : State) (sequence : Bytes) : Option State := do
  let (place, mark, width) ← match sequence with
    | [0x24, mark] => some (Place.ground, mark, 2)
    | [0x28, mark] => some (.ground, mark, 1)
    | [0x29, mark] => some (.shifted, mark, 1)
    | [0x2e, mark] => if scheme.lends then some (.lent, mark, 1) else none
    | [0x24, 0x28, mark] => some (.ground, mark, 2)
    | [0x24, 0x29, mark] => some (.shifted, mark, 2)
    | [_, _, 0x1b, 0x24, 0x42] => if scheme.hasEditions then some (.ground, 0x42, 2) else none
    | _ => none
  let set ← if mark = 0x42 ∧ width = 1 then some none else (scheme.set? mark width).map some
  some (state.put place set)

/-- What announces a character that is lent. Codes of sets that lend begin with it. -/
def lending : Bytes := [escape, 0x4e]

/-- The character that an octet is lent for. -/
def State.lent? (state : State) (b : UInt8) : Option Char :=
  match state.lent with
  | none => Codebook.ascii.char? [b]
  | some set => set.book.char? (lending ++ [b])

/-- What octets begin with: a text, something wrong in its place, or something that stops short. In
the first two cases so many octets are done with, and the state is another. -/
inductive Step
  | read (text : Text) (length : Nat) (state : State)
  | cut

namespace Step

def wrong (length : Nat) (state : State) : Step := .read [Utf8.replacement] length state

/-- What an octet and those after it begin with. -/
def ofOctets (scheme : Scheme) (state : State) (b : UInt8) (rest : Bytes) : Step :=
  let itself := Char.ofNat b.toNat
  if state.isPassing then .read [itself] 1 { state with isPassing := !endsEscape b }
  else if b = escape then
    match rest with
    | [] => cut
    | c :: _ =>
      if beginsSet c then
        match escapeLength? scheme.hasEditions 1 rest with
        | none => cut
        | some length =>
          match state.afterEscape? scheme (rest.take (length - 1)) with
          | some state => .read [] length state
          | none => wrong (max 1 length) state
      else if scheme.lends && c = 0x4e then
        match rest[1]? with
        | none => cut
        | some b =>
          match state.lent? b with
          | some char => .read [char] 3 state
          | none => wrong 3 state
      else .read [itself] 1 { state with isPassing := true }
  else if scheme.hasShifts && b = shiftIn then .read [] 1 { state with isShifted := false }
  else if scheme.hasShifts && b = shiftOut then .read [] 1 { state with isShifted := true }
  else if b = newline then .read [itself] 1 { state with isShifted := false }
  else if b < 0x20 then .read [itself] 1 state
  else if 0x80 ≤ b then wrong 1 state
  else
    match state.inUse with
    | none => .read [itself] 1 state
    | some set =>
      let others := rest.take (set.width - 1)
      if others.length < set.width - 1 then cut
      else
        match set.book.text? (b :: others) with
        | some text => .read text set.width state
        | none => wrong set.width state

end Step

/-- The text of octets in a state. -/
def decodeFrom (scheme : Scheme) (state : State) : Bytes → Text
  | [] => []
  | b :: rest =>
    match Step.ofOctets scheme state b rest with
    | .cut => [Utf8.replacement]
    | .read text length state => text ++ decodeFrom scheme state (rest.drop (length - 1))
termination_by data => data.length
decreasing_by
  simp only [List.length_drop, List.length_cons]
  omega

def decode (scheme : Scheme) (data : Bytes) : Text := decodeFrom scheme .start data

/-- The first set with a code for what a text begins with, the code, and how many characters after
the first one it covers. Pairs of characters come before single ones. -/
def code? (sets : List CodeSet) (c : Char) (rest : Text) : Option (CodeSet × Bytes × Nat) :=
  (sets.findSome? fun set => (set.book.pair? c rest).map (set, ·)).or
    (sets.findSome? fun set => (set.book.code? c).map (set, ·, 0))

def Scheme.covers (scheme : Scheme) (c : Char) : Bool :=
  c.toNat < 0x80 || (code? (scheme.ground ++ scheme.shifted) c []).isSome

/-- The octets that put a set in the first place. -/
def designate (set : Option CodeSet) : Bytes :=
  match set with
  | none => [escape, 0x28, 0x42]
  | some set =>
    if set.width = 1 then [escape, 0x28, set.mark]
    else if set.mark = 0x42 then [escape, 0x24, set.mark]
    else [escape, 0x24, 0x28, set.mark]

/-- The octets that put a set in the second place. -/
def designateShifted (set : CodeSet) : Bytes :=
  if set.width = 1 then [escape, 0x29, set.mark] else [escape, 0x24, 0x29, set.mark]

/-- Whether a set is in a place. -/
def holds (place set : Option CodeSet) : Bool :=
  place.map (fun s => (s.mark, s.width)) == set.map fun s => (s.mark, s.width)

namespace State

/-- The octets that bring a set of the first place in use, and the state after them. -/
def toGround (state : State) (set : Option CodeSet) : Bytes × State :=
  ((if holds state.ground set then [] else designate set) ++
    (if state.isShifted then [shiftIn] else []),
    { state with ground := set, isShifted := false })

/-- The octets that bring a set of the second place in use, and the state after them. -/
def toShifted (state : State) (set : CodeSet) : Bytes × State :=
  ((if holds state.shifted (some set) then [] else designateShifted set) ++
    (if state.isShifted then [] else [shiftOut]),
    { state with shifted := some set, isShifted := true })

/-- The octets of what a text begins with and those that bring its set in use, how many characters
after the first one they cover, and the state after them. -/
def write? (scheme : Scheme) (state : State) (c : Char) (rest : Text) :
    Option (Bytes × Nat × State) :=
  if c.toNat < 0x80 then
    let (opening, state) := state.toGround none
    some (opening ++ [UInt8.ofNat c.toNat], 0, state)
  else
    match code? scheme.ground c rest with
    | some (set, code, more) =>
      let (opening, state) := state.toGround (some set)
      some (opening ++ code, more, state)
    | none => (code? scheme.shifted c rest).map fun (set, code, more) =>
      let (opening, state) := state.toShifted set
      (opening ++ code, more, state)

end State

/-- The octets of a text after a state. At the end ASCII is in use again. -/
def encodeFrom? (scheme : Scheme) (state : State) : Text → Option Bytes
  | [] => some (state.toGround none).1
  | c :: rest => do
    let (octets, more, state) ← state.write? scheme c rest
    let others ← encodeFrom? scheme state (rest.drop more)
    some (octets ++ others)
termination_by s => s.length
decreasing_by
  simp only [List.length_drop, List.length_cons]
  omega

/-- The octets of a text, if the sets have all its characters. -/
def encode? (scheme : Scheme) (s : Text) : Option Bytes := encodeFrom? scheme .start s

/-- The kanji of JIS X 0208, which are also read where their older edition is named. -/
def kanji : CodeSet := ⟨0x42, 2, Japanese.kanji⟩
def oldKanji : CodeSet := ⟨0x40, 2, Japanese.kanji⟩

def moreKanji : CodeSet := ⟨0x44, 2, Japanese.moreKanji⟩

def hanzi : CodeSet := ⟨0x41, 2, Chinese.standardHanzi⟩

def hangul : CodeSet := ⟨0x43, 2, Korean.standardHangul⟩

def kana : CodeSet := ⟨0x49, 1, Japanese.kana.turned⟩

def roman : CodeSet := ⟨0x4a, 1, Japanese.roman⟩

/-- The first plane of JIS X 0213, and of its first edition. -/
def firstPlane : CodeSet := ⟨0x51, 2, Japanese.firstPlane⟩
def oldFirstPlane : CodeSet := ⟨0x4f, 2, Japanese.firstEdition Japanese.firstPlane⟩

/-- The second plane of JIS X 0213. Its editions go by one name and are read alike. -/
def secondPlane : CodeSet := ⟨0x50, 2, Japanese.secondPlane⟩
def oldSecondPlane : CodeSet :=
  ⟨0x50, 2, { Japanese.firstEdition Japanese.secondPlane with
    char? := Japanese.secondPlane.char? }⟩

/-- Letters of western languages, which are lent. -/
def western : CodeSet := ⟨0x41, 1, (Codebook.ofRun 0x00 0x7f 0x80).after lending⟩

/-- The upper half of ISO 8859-7. -/
def greekPage : Codebook :=
  let grid := Grid.ofText [(0, 0)] [(0xa0, 0xff)]
    "\xa0‘’£2¦§¨©1«¬\xad1―°±²³΄΅Ά·ΈΉΊ»Ό½ΎΏΐΑΒΓΔΕΖΗΘΙΚΛΜΝΞΟΠΡ1ΣΤΥΦΧΨΩΪΫάέήίΰαβγδεζηθικλμνξοπρςστυφχψωϊϋόύώ"
  (Codebook.ofRun 0x00 0x9f 0).orElse ((Codebook.ofGrid grid).recode
    (fun code => some (0 :: code)) fun _ => none)

/-- Letters of Greek, which are lent. -/
def greek : CodeSet := ⟨0x46, 1, greekPage.turned.after lending⟩

def japanese : Scheme := { ground := [kanji, roman, oldKanji] }

def japanese1 : Scheme := { ground := [kanji, moreKanji, roman, oldKanji] }

def japanese2 : Scheme where
  ground := [kanji, moreKanji, hangul, hanzi, roman, oldKanji]
  lent := [western, greek]

def japanese3 : Scheme := { ground := [kanji, oldFirstPlane, oldSecondPlane] }

def japanese2004 : Scheme := { ground := [kanji, firstPlane, secondPlane] }

def japaneseExtended : Scheme := { ground := [kanji, moreKanji, roman, kana, oldKanji] }

def korean : Scheme := { ground := [], shifted := [hangul], hasEditions := false }

end HttpFetch.Iso2022
