import HttpFetch.Charset.Hz
import HttpFetch.Charset.Iso2022

/-!
# The encodings of East Asia

They write their characters in one of three ways: with codes of a length that the octets tell,
switching between sets, or with runs of characters between tildes.
-/

namespace HttpFetch

/-- An encoding of Chinese, Japanese or Korean. -/
inductive EastAsian
  | gb2312
  | gbk
  | gb18030
  | hz
  | bigFive
  | vendorBigFive
  | hongKong
  | shiftJis
  | vendorShiftJis
  | shiftJis2000
  | shiftJis2004
  | eucJp
  | eucJis2000
  | eucJis2004
  | switchingJapanese
  | switchingJapanese1
  | switchingJapanese2
  | switchingJapanese3
  | switchingJapanese2004
  | switchingJapaneseExtended
  | eucKr
  | vendorKorean
  | johab
  | switchingKorean
  deriving DecidableEq, Repr

namespace EastAsian

/-- A way of writing. -/
inductive Form
  | wide (code : WideCode)
  | switching (scheme : Iso2022.Scheme)
  | tildes

def form : EastAsian → Form
  | gb2312 => .wide Chinese.gb2312
  | gbk => .wide Chinese.gbk
  | gb18030 => .wide Chinese.gb18030
  | hz => .tildes
  | bigFive => .wide Chinese.bigFive
  | vendorBigFive => .wide Chinese.vendorBigFive
  | hongKong => .wide Chinese.hongKong
  | shiftJis => .wide Japanese.shiftJis
  | vendorShiftJis => .wide Japanese.vendorShiftJis
  | shiftJis2000 => .wide Japanese.shiftJis2000
  | shiftJis2004 => .wide Japanese.shiftJis2004
  | eucJp => .wide Japanese.eucJp
  | eucJis2000 => .wide Japanese.eucJis2000
  | eucJis2004 => .wide Japanese.eucJis2004
  | switchingJapanese => .switching Iso2022.japanese
  | switchingJapanese1 => .switching Iso2022.japanese1
  | switchingJapanese2 => .switching Iso2022.japanese2
  | switchingJapanese3 => .switching Iso2022.japanese3
  | switchingJapanese2004 => .switching Iso2022.japanese2004
  | switchingJapaneseExtended => .switching Iso2022.japaneseExtended
  | eucKr => .wide Korean.eucKr
  | vendorKorean => .wide Korean.vendorKorean
  | johab => .wide Korean.johab
  | switchingKorean => .switching Iso2022.korean

/-- The names of an encoding, its own before others. -/
def names : EastAsian → String × List String
  | gb2312 => ("gb2312", ["chinese", "csiso58gb231280", "euc_cn", "euccn", "eucgb2312_cn",
      "gb2312_1980", "gb2312_80", "iso_ir_58", "x_mac_simp_chinese"])
  | gbk => ("gbk", ["936", "cp936", "ms936"])
  | gb18030 => ("gb18030", ["gb18030_2000"])
  | hz => ("hz", ["hz_gb", "hz_gb_2312", "hzgb"])
  | bigFive => ("big5", ["big5_tw", "csbig5", "x_mac_trad_chinese"])
  | vendorBigFive => ("cp950", ["950", "ms950"])
  | hongKong => ("big5hkscs", ["big5_hkscs", "hkscs"])
  | shiftJis => ("shift_jis", ["csshiftjis", "s_jis", "shiftjis", "sjis", "x_mac_japanese"])
  | vendorShiftJis => ("cp932", ["932", "ms932", "ms_kanji", "mskanji"])
  | shiftJis2000 => ("shift_jisx0213", ["s_jisx0213", "shiftjisx0213", "sjisx0213"])
  | shiftJis2004 => ("shift_jis_2004", ["s_jis_2004", "shiftjis2004", "sjis_2004"])
  | eucJp => ("euc_jp", ["eucjp", "u_jis", "ujis"])
  | eucJis2000 => ("euc_jisx0213", ["eucjisx0213"])
  | eucJis2004 => ("euc_jis_2004", ["euc_jis2004", "eucjis2004", "jisx0213"])
  | switchingJapanese => ("iso2022_jp", ["csiso2022jp", "iso2022jp", "iso_2022_jp"])
  | switchingJapanese1 => ("iso2022_jp_1", ["iso2022jp_1", "iso_2022_jp_1"])
  | switchingJapanese2 => ("iso2022_jp_2", ["iso2022jp_2", "iso_2022_jp_2"])
  | switchingJapanese3 => ("iso2022_jp_3", ["iso2022jp_3", "iso_2022_jp_3"])
  | switchingJapanese2004 => ("iso2022_jp_2004", ["iso2022jp_2004", "iso_2022_jp_2004"])
  | switchingJapaneseExtended => ("iso2022_jp_ext", ["iso2022jp_ext", "iso_2022_jp_ext"])
  | eucKr => ("euc_kr", ["euckr", "korean", "ks_c_5601", "ks_c_5601_1987", "ks_x_1001", "ksc5601",
      "ksx1001", "x_mac_korean"])
  | vendorKorean => ("cp949", ["949", "ms949", "uhc"])
  | johab => ("johab", ["cp1361", "ms1361"])
  | switchingKorean => ("iso2022_kr", ["csiso2022kr", "iso2022kr", "iso_2022_kr"])

def all : List EastAsian :=
  [gb2312, gbk, gb18030, hz, bigFive, vendorBigFive, hongKong, shiftJis, vendorShiftJis,
    shiftJis2000, shiftJis2004, eucJp, eucJis2000, eucJis2004, switchingJapanese,
    switchingJapanese1, switchingJapanese2, switchingJapanese3, switchingJapanese2004,
    switchingJapaneseExtended, eucKr, vendorKorean, johab, switchingKorean]

/-- The text of octets, with replacement characters for what is wrong. -/
def decode (encoding : EastAsian) (data : Bytes) : Text :=
  match encoding.form with
  | .wide code => code.decode data
  | .switching scheme => Iso2022.decode scheme data
  | .tildes => Hz.decode data

/-- Whether the encoding has a code for a character. -/
def covers (encoding : EastAsian) (c : Char) : Bool :=
  match encoding.form with
  | .wide code => (code.code? c).isSome
  | .switching scheme => scheme.covers c
  | .tildes => Hz.covers c

/-- The octets of a text, if its characters are all covered. -/
def encode? (encoding : EastAsian) (s : Text) : Option Bytes :=
  match encoding.form with
  | .wide code => code.toCodebook.encode? s
  | .switching scheme => Iso2022.encode? scheme s
  | .tildes => Hz.encode? s

end EastAsian

end HttpFetch
