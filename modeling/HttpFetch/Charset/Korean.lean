import HttpFetch.Charset.Codebook
import HttpFetch.Charset.KoreanTable

/-!
# Korean encodings

KS X 1001 has codes for the usual syllables. Others are spelled as a filler and three letters, or
have codes that vendors added. In Johab the bits of a code are the numbers of three letters.
-/

namespace HttpFetch.Korean

/-- The characters of KS X 1001 in rows and cells of the lower half. -/
def standardHangul : Codebook :=
  .ofGrid (.ofText [(0x21, 0x7e)] [(0x21, 0x7e)] KoreanTable.hangul)

/-- The syllables that vendors added. -/
def moreHangul : Codebook :=
  .ofGrid (.ofText [(0x81, 0xc6)] [(0x41, 0x5a), (0x61, 0x7a), (0x81, 0xfe)]
    KoreanTable.moreHangul)

/-- The consonants that begin syllables, in order. -/
def initials : List Char := "ㄱㄲㄴㄷㄸㄹㅁㅂㅃㅅㅆㅇㅈㅉㅊㅋㅌㅍㅎ".toList

/-- The vowels in order. -/
def vowels : List Char := "ㅏㅐㅑㅒㅓㅔㅕㅖㅗㅘㅙㅚㅛㅜㅝㅞㅟㅠㅡㅢㅣ".toList

/-- What ends syllables, in order: the filler, which stands for nothing, or a consonant. -/
def finals : List Char := "\u3164ㄱㄲㄳㄴㄵㄶㄷㄹㄺㄻㄼㄽㄾㄿㅀㅁㅂㅄㅅㅆㅇㅈㅊㅋㅌㅍㅎ".toList

/-- The second octet of the code of a letter or of the filler. -/
def letterOctet (c : Char) : UInt8 := UInt8.ofNat (0xa1 + (c.toNat - 0x3131))

/-- The place of the letter with a given second octet. -/
def letterPlace? (letters : List Char) (octet : UInt8) : Option Nat :=
  letters.findIdx? (letterOctet · == octet)

/-- Syllables spelled with letters, each in two octets. -/
def spelled : Codebook where
  char?
    | [0xa4, 0xd4, 0xa4, x, 0xa4, y, 0xa4, z] => do
      let initial ← letterPlace? initials x
      let vowel ← letterPlace? vowels y
      let final ← letterPlace? finals z
      some (Char.ofNat (0xac00 + ((initial * 21 + vowel) * 28 + final)))
    | _ => none
  code? c := do
    let n := c.toNat - 0xac00
    if c.toNat < 0xac00 then none
    else
      let initial ← initials[n / 588]?
      let vowel ← vowels[n / 28 % 21]?
      let final ← finals[n % 28]?
      some [0xa4, 0xd4, 0xa4, letterOctet initial, 0xa4, letterOctet vowel, 0xa4, letterOctet final]

/-- The standard in the upper half, with spelled syllables. -/
def eucKr : WideCode where
  toCodebook := Codebook.ascii.orElse (standardHangul.turned.orElse spelled)
  more b next := if b < 0x80 then 0 else if b = 0xa4 && next = some 0xd4 then 7 else 1

/-- The standard with the syllables that vendors added. -/
def vendorKorean : WideCode :=
  ⟨Codebook.ascii.orElse (standardHangul.turned.orElse moreHangul), WideCode.upperPairs⟩

/-- The numbers of letters in codes of Johab, in order, after that of a missing letter. -/
def initialNumbers : List Nat := List.range' 1 20

def vowelNumbers : List Nat :=
  2 :: (List.range' 3 5 ++ List.range' 10 6 ++ List.range' 18 6 ++ List.range' 26 4)

def finalNumbers : List Nat := List.range' 1 17 ++ List.range' 19 11

/-- The character of three letters, of which each may be missing: a syllable, a letter by itself,
or a blank if there is none. Places are counted from one; zero is a missing letter. -/
def compose? (initial vowel final : Nat) : Option Char :=
  match initial, vowel, final with
  | 0, 0, 0 => some '\u3000'
  | 0, 0, z => finals[z]?
  | 0, y + 1, 0 => vowels[y]?
  | x + 1, 0, 0 => initials[x]?
  | x + 1, y + 1, z => some (Char.ofNat (0xac00 + ((x * 21 + y) * 28 + z)))
  | _, _, _ => none

/-- The places of the letters of a character. A consonant by itself is taken for an initial one
where there is such. -/
def decompose? (c : Char) : Option (Nat × Nat × Nat) :=
  let n := c.toNat
  if 0xac00 ≤ n ∧ n < 0xac00 + 11172 then
    let place := n - 0xac00
    some (place / 588 + 1, place / 28 % 21 + 1, place % 28)
  else
    ((initials.idxOf? c).map fun x => (x + 1, 0, 0)).or <|
      ((vowels.idxOf? c).map fun y => (0, y + 1, 0)).or <|
        ((finals.drop 1).idxOf? c).map fun z => (0, 0, z + 1)

/-- Codes of three letters. -/
def composed : Codebook where
  char?
    | [a, b] => do
      let n := 256 * a.toNat + b.toNat
      if n < 0x8000 then none
      else
        let initial ← initialNumbers.idxOf? (n / 1024 % 32)
        let vowel ← vowelNumbers.idxOf? (n / 32 % 32)
        let final ← finalNumbers.idxOf? (n % 32)
        compose? initial vowel final
    | _ => none
  code? c := do
    let (initial, vowel, final) ← decompose? c
    let x ← initialNumbers[initial]?
    let y ← vowelNumbers[vowel]?
    let z ← finalNumbers[final]?
    let n := 0x8000 + 1024 * x + 32 * y + z
    some [UInt8.ofNat (n / 256), UInt8.ofNat (n % 256)]

/-- The rows of KS X 1001 for signs and for hanja, which Johab folds. -/
def signRows : Scale := [(0x21, 0x2c), (0x4a, 0x7d)]

/-- Whether a code is that of a letter of today. -/
def isLetter (code : Bytes) : Bool :=
  match code with
  | [row, cell] => row = 0x24 && cell ≤ 0x53
  | _ => false

/-- The signs and hanja of KS X 1001 in folded rows. Letters of today have other codes. -/
def signs : Codebook :=
  (standardHangul.recode (fun code => if isLetter code then none else some code) some).folded
    signRows [(0xd9, 0xde), (0xe0, 0xf9)] [(0x31, 0x7e), (0x91, 0xfe)]

/-- The standard with a code of its own for every syllable. -/
def johab : WideCode :=
  ⟨Codebook.ascii.orElse (composed.orElse signs), WideCode.upperPairs⟩

end HttpFetch.Korean
