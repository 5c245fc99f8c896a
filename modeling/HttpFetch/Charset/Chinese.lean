import HttpFetch.Charset.BigFiveTable
import HttpFetch.Charset.ChineseTable
import HttpFetch.Charset.Codebook

/-!
# Chinese encodings

For simplified characters each standard adds to the one before it: GB 2312, GBK, and GB 18030,
which has codes of four octets for all that is left. For traditional characters there are Big5 and
the form of it that vendors use.
-/

namespace HttpFetch.Chinese

/-- The characters of GB 2312 in rows and cells of the lower half. -/
def standardHanzi : Codebook :=
  .ofGrid (.ofText [(0x21, 0x7e)] [(0x21, 0x7e)] ChineseTable.hanzi)

/-- The characters that GBK adds. -/
def moreHanzi : Codebook :=
  .ofGrid (.ofText [(0x81, 0xfe)] [(0x40, 0x7e), (0x80, 0xfe)] ChineseTable.moreHanzi)

/-- The signs that GBK has in place of two of GB 2312. -/
def newSigns : List (Char × Bytes) := [('·', [0xa1, 0xa4]), ('—', [0xa1, 0xaa])]

/-- The characters of GB 2312 apart from the signs that GBK has elsewhere or not at all. -/
def keptHanzi : Codebook := standardHanzi.turned.withoutWriting ['・', '―']

def gb2312 : WideCode := ⟨Codebook.ascii.orElse standardHanzi.turned, WideCode.upperPairs⟩

def gbk : WideCode :=
  ⟨Codebook.ascii.orElse ((Codebook.ofList newSigns).orElse (keptHanzi.orElse moreHanzi)),
    WideCode.upperPairs⟩

/-- Characters in a row that have numbers in a row. -/
structure LongRun where
  number : Nat
  first : Nat
  last : Nat

namespace LongRun

def ofRow? : List Nat → Option LongRun
  | [number, first, last] => some ⟨number, first, last⟩
  | _ => none

/-- The runs of characters with codes of four octets. -/
def all : List LongRun := (Text.tableRows ChineseTable.longRuns).filterMap ofRow?

def char? (number : Nat) (run : LongRun) : Option Char :=
  if run.number ≤ number ∧ number - run.number ≤ run.last - run.first then
    some (Char.ofNat (run.first + (number - run.number)))
  else none

def number? (c : Char) (run : LongRun) : Option Nat :=
  if run.first ≤ c.toNat ∧ c.toNat ≤ run.last then some (run.number + (c.toNat - run.first))
  else none

end LongRun

/-- The codes of four octets, every other one of which is a decimal digit. -/
def longCodes : Codebook where
  char?
    | [a, b, c, d] => do
      let lead := Scale.place? [(0x81, 0xfe)]
      let digit := Scale.place? [(0x30, 0x39)]
      let number := (((← lead a.toNat) * 10 + (← digit b.toNat)) * 126 + (← lead c.toNat)) * 10
        + (← digit d.toNat)
      LongRun.all.findSome? (·.char? number)
    | _ => none
  code? c := do
    let n ← LongRun.all.findSome? (·.number? c)
    some [UInt8.ofNat (0x81 + n / 12600), UInt8.ofNat (0x30 + n / 1260 % 10),
      UInt8.ofNat (0x81 + n / 10 % 126), UInt8.ofNat (0x30 + n % 10)]

def gb18030 : WideCode where
  toCodebook := gbk.toCodebook.orElse ((Codebook.ofTable ChineseTable.laterHanzi).orElse longCodes)
  more b next :=
    if b < 0x80 then 0
    else
      match next with
      | some digit => if 0x30 ≤ digit && digit ≤ 0x39 then 3 else 1
      | none => 1

/-- The characters of Big5. -/
def traditional : Codebook :=
  .ofGrid (.ofText [(0xa1, 0xf9)] [(0x40, 0x7e), (0xa1, 0xfe)] BigFiveTable.hanzi)

/-- The numerals that Big5 has twice, with the code that they are written with. -/
def numerals : Codebook := .ofList [('十', [0xa4, 0x51]), ('卅', [0xa4, 0xca])]

/-- The slashes that Big5 has twice, with the code that they are written with. -/
def slashes : Codebook := .ofList [('／', [0xa2, 0x41]), ('＼', [0xa2, 0x42])]

def bigFive : WideCode :=
  ⟨Codebook.ascii.orElse (numerals.orElse (slashes.orElse traditional)), WideCode.upperPairs⟩

/-- Big5 as vendors use it: their characters are read in place of others and written after them. -/
def vendorBigFive : WideCode :=
  let vendorHanzi := Codebook.ofTable BigFiveTable.vendorHanzi
  ⟨Codebook.ascii.orElse <| numerals.orElse <| vendorHanzi.reading.orElse <|
    traditional.orElse vendorHanzi, WideCode.upperPairs⟩

/-- The codes that Hong Kong gives to other characters. -/
def isReassigned (code : Bytes) : Bool :=
  match code with
  | [a, b] => (0xc6 ≤ a && a ≤ 0xc8) && (0xc7 ≤ a || 0xa1 ≤ b)
  | _ => false

/-- Letters with two marks, of which one stands by itself after the letter. -/
def markedLetters : Codebook :=
  .ofPairs [("Ê\u0304", [0x88, 0x62]), ("Ê\u030c", [0x88, 0x64]), ("ê\u0304", [0x88, 0xa3]),
    ("ê\u030c", [0x88, 0xa5])]

/-- Big5 as Hong Kong extends it. -/
def hongKong : WideCode :=
  let keptOnes := traditional.recode (fun code => if isReassigned code then none else some code)
    (fun code => if isReassigned code then none else some code)
  let hongKongHanzi := Codebook.ofGrid
    (.ofText [(0x87, 0xfe)] [(0x40, 0x7e), (0xa1, 0xfe)] BigFiveTable.hongKong)
  ⟨Codebook.ascii.orElse <| markedLetters.orElse <| numerals.orElse <| slashes.orElse <|
    hongKongHanzi.orElse keptOnes, WideCode.upperPairs⟩

end HttpFetch.Chinese
