import HttpFetch.Charset.Codebook
import HttpFetch.Charset.JapaneseTable

/-!
# Japanese encodings

The characters of the standards lie in 94 rows of 94 cells. One way of writing them keeps that form
in the upper half of the octets; the other folds two rows into one of 188 cells, so that it has room
for half-width kana in one octet.
-/

namespace HttpFetch.Japanese

/-- The numbers of the rows of a standard, and of their cells. -/
def standardScale : Scale := [(0x21, 0x7e)]

/-- The rows that the rows of a standard are folded into. -/
def foldedRows : Scale := [(0x81, 0x9f), (0xe0, 0xef)]

/-- The cells of folded rows. -/
def foldedCells : Scale := [(0x40, 0x7e), (0x80, 0xfc)]

/-- The kanji of JIS X 0208. -/
def kanji : Codebook := .ofGrid (.ofText standardScale standardScale JapaneseTable.kanji)

/-- The kanji of JIS X 0212. -/
def moreKanji : Codebook := .ofGrid (.ofText standardScale standardScale JapaneseTable.moreKanji)

/-- Kanji of vendors in folded rows. -/
def vendorKanji : Codebook :=
  .ofGrid (.ofText [(0x87, 0x87), (0xed, 0xee), (0xfa, 0xfc)] foldedCells
    JapaneseTable.vendorKanji)

/-- Letters with a mark that JIS X 0213 has codes for. -/
def markedLetters : Codebook :=
  .ofPairs [("か\u309a", [0x24, 0x77]), ("き\u309a", [0x24, 0x78]), ("く\u309a", [0x24, 0x79]),
    ("け\u309a", [0x24, 0x7a]), ("こ\u309a", [0x24, 0x7b]), ("カ\u309a", [0x25, 0x77]),
    ("キ\u309a", [0x25, 0x78]), ("ク\u309a", [0x25, 0x79]), ("ケ\u309a", [0x25, 0x7a]),
    ("コ\u309a", [0x25, 0x7b]), ("セ\u309a", [0x25, 0x7c]), ("ツ\u309a", [0x25, 0x7d]),
    ("ト\u309a", [0x25, 0x7e]), ("ㇷ\u309a", [0x26, 0x78]), ("æ\u0300", [0x2b, 0x44]),
    ("ɔ\u0300", [0x2b, 0x48]), ("ɔ\u0301", [0x2b, 0x49]), ("ʌ\u0300", [0x2b, 0x4a]),
    ("ʌ\u0301", [0x2b, 0x4b]), ("ə\u0300", [0x2b, 0x4c]), ("ə\u0301", [0x2b, 0x4d]),
    ("ɚ\u0300", [0x2b, 0x4e]), ("ɚ\u0301", [0x2b, 0x4f]), ("˩˥", [0x2b, 0x65]),
    ("˥˩", [0x2b, 0x66])]

/-- The first plane of JIS X 0213, which takes in JIS X 0208. A letter that may have a mark is written
together with a null character after it. -/
def firstPlane : Codebook :=
  let letters := kanji.orElse
    (.ofGrid (.ofText standardScale standardScale JapaneseTable.newerKanji))
  let withNull := markedLetters.pairs.filterMap fun (text, _) => do
    let c ← text.head?
    let code ← letters.code? c
    some ([c, '\x00'], code)
  { letters with pairs := markedLetters.pairs ++ withNull }

/-- The rows of the second plane of JIS X 0213, in the order in which they are folded. -/
def secondPlaneRows : Scale :=
  [(0x21, 0x21), (0x28, 0x28), (0x23, 0x25), (0x2c, 0x2f), (0x6e, 0x7e)]

/-- The second plane of JIS X 0213. -/
def secondPlane : Codebook :=
  .ofGrid (.ofText secondPlaneRows standardScale JapaneseTable.rareKanji)

/-- The kanji that the second edition of JIS X 0213 added. -/
def addedKanji : List Char := "俱剝𠮟吞噓姸屛幷瘦繫".toList

/-- The first edition of a plane: the kanji added later are missing, one has another form, and where
the others will be there is no character. -/
def firstEdition (plane : Codebook) : Codebook where
  char? code := (plane.char? code).map fun c =>
    if addedKanji.elem c then Utf8.replacement else if c = '鬜' then '鬝' else c
  code? c :=
    if addedKanji.elem c ∨ c = '鬜' then none else plane.code? (if c = '鬝' then '鬜' else c)
  pairs := plane.pairs

/-- Half-width kana. -/
def kana : Codebook := .ofRun 0xa1 0xdf 0xff61

/-- The yen sign and the overline, which stand where ASCII has others. -/
def nationalSigns : Codebook := .ofList [('¥', [0x5c]), ('‾', [0x7e])]

/-- ASCII with the national signs in place of others. -/
def roman : Codebook := nationalSigns.orElse (Codebook.ascii.withoutWriting ['\x5c', '~'])

/-- Signs that vendors read as others of the same look. -/
def vendorSigns : Codebook :=
  .ofList [('～', [0x81, 0x60]), ('∥', [0x81, 0x61]), ('－', [0x81, 0x7c]), ('￠', [0x81, 0x91]),
    ('￡', [0x81, 0x92]), ('￢', [0x81, 0xca])]

/-- The backslash, which the national signs leave without an octet. -/
def displacedSign : Codebook := .ofList [('\x5c', [0x81, 0x5f])]

/-- Characters for private use: ten folded rows, and octets that nothing else uses. -/
def privateUse : Codebook where
  char?
    | [b] =>
      if b = 0x80 then some '\x80'
      else if b = 0xa0 then some '\uf8f0'
      else if 0xfd ≤ b then some (Char.ofNat (0xf8f1 + (b.toNat - 0xfd)))
      else none
    | [row, cell] => do
      let x ← Scale.place? [(0xf0, 0xf9)] row.toNat
      let y ← foldedCells.place? cell.toNat
      some (Char.ofNat (0xe000 + (188 * x + y)))
    | _ => none
  code? c :=
    let n := c.toNat
    if n = 0x80 then some [0x80]
    else if n = 0xf8f0 then some [0xa0]
    else if 0xf8f1 ≤ n ∧ n ≤ 0xf8f3 then some [UInt8.ofNat (0xfd + (n - 0xf8f1))]
    else if 0xe000 ≤ n ∧ n < 0xe000 + 1880 then do
      let cell ← foldedCells.octet? ((n - 0xe000) % 188)
      some [UInt8.ofNat (0xf0 + (n - 0xe000) / 188), UInt8.ofNat cell]
    else none

/-- The rule for folded rows up to a last one, kana having one octet. -/
def foldedMore (last : UInt8) (b : UInt8) (_ : Option UInt8) : Nat :=
  if (0x81 ≤ b && b ≤ 0x9f) || (0xe0 ≤ b && b ≤ last) then 1 else 0

/-- Shift JIS with the characters of JIS X 0208. -/
def shiftJis : WideCode where
  toCodebook := Codebook.ascii.orElse <| kana.orElse <|
    (kanji.folded standardScale foldedRows foldedCells).orElse nationalSigns.writing
  more := foldedMore 0xea

/-- Shift JIS as vendors extend it. -/
def vendorShiftJis : WideCode where
  toCodebook := Codebook.ascii.orElse <| kana.orElse <| vendorSigns.orElse <|
    (kanji.folded standardScale foldedRows foldedCells).orElse <| vendorKanji.orElse privateUse
  more := foldedMore 0xfc

/-- Shift JIS with two planes. -/
def shiftJisOf (one two : Codebook) : WideCode where
  toCodebook := roman.orElse <| kana.orElse <| displacedSign.orElse <|
    ((one.folded standardScale foldedRows foldedCells).orElse
      (two.folded secondPlaneRows [(0xf0, 0xfc)] foldedCells)).withoutWriting ['＼']
  more := foldedMore 0xfc

/-- Shift JIS with the characters of JIS X 0213. -/
def shiftJis2004 : WideCode := shiftJisOf firstPlane secondPlane

/-- Shift JIS with the characters of the first edition of JIS X 0213. -/
def shiftJis2000 : WideCode := shiftJisOf (firstEdition firstPlane) (firstEdition secondPlane)

/-- The rule for the standards in the upper half. -/
def eucMore (b : UInt8) (_ : Option UInt8) : Nat :=
  if b < 0x80 then 0 else if b = 0x8f then 2 else 1

/-- The standards in the upper half, with one octet that announces kana and one for JIS X 0212. -/
def eucJp : WideCode where
  toCodebook := Codebook.ascii.orElse <| (kana.after [0x8e]).orElse <| kanji.turned.orElse <|
    (moreKanji.turned.after [0x8f]).orElse nationalSigns.writing
  more := eucMore

/-- The tilde of full width, which takes the place of the narrow one. -/
def wideTilde : Codebook := .ofList [('～', [0x22, 0x32])]

/-- Two planes in the upper half. The octet for the second plane goes for JIS X 0212 as well. -/
def eucOf (one two more : Codebook) : WideCode where
  toCodebook := Codebook.ascii.orElse <| (kana.after [0x8e]).orElse <|
    wideTilde.turned.orElse <| one.turned.orElse <|
    (two.turned.after [0x8f]).orElse (more.turned.after [0x8f])
  more := eucMore

/-- JIS X 0213 in the upper half. -/
def eucJis2004 : WideCode := eucOf firstPlane secondPlane moreKanji

/-- The first edition of JIS X 0213 in the upper half. -/
def eucJis2000 : WideCode :=
  eucOf (firstEdition firstPlane) (firstEdition secondPlane)
    (moreKanji.withoutWriting ('鬜' :: addedKanji))

end HttpFetch.Japanese
