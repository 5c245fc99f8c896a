import HttpFetch.Charset.CodePageTable
import HttpFetch.Charset.EastAsian
import HttpFetch.Charset.Escaped
import HttpFetch.Charset.HostName
import HttpFetch.Charset.Utf32
import HttpFetch.Charset.Utf7

/-!
# Character sets by name

Encodings go by several names each: their own, and others in which a point may stand for an
underscore. Most decoding never fails, since octets that encode nothing become replacement
characters. Encoding fails at the first run of characters that the set lacks.
-/

namespace HttpFetch

/-- An encoding that bodies are read and written in. -/
inductive Charset
  | utf8
  | utf8Marked
  | utf16
  | utf16In (order : Utf16.Order)
  | utf32
  | utf32In (order : Utf16.Order)
  | utf7
  | latin1
  | ascii
  | codePage (page : CodePage)
  | eastAsian (encoding : EastAsian)
  | escaped
  | escapedRaw
  | punycode
  | hostName
  | undefined
  deriving DecidableEq, Repr

namespace Charset

/-- An entry of the list of encodings: its own name, other names in plain form, and the encoding
unless it is not one of text. -/
structure Entry where
  name : String
  otherNames : List String
  charset : Option Charset

/-- The encodings apart from code pages and those of East Asia. -/
def named : List Entry :=
  [⟨"utf_8", ["u8", "utf", "utf8", "utf8_ucs2", "utf8_ucs4", "cp65001"], utf8⟩,
    ⟨"utf_8_sig", [], utf8Marked⟩,
    ⟨"utf_16", ["u16", "utf16"], utf16⟩,
    ⟨"utf_16_le", ["utf_16le", "unicodelittleunmarked"], utf16In .little⟩,
    ⟨"utf_16_be", ["utf_16be", "unicodebigunmarked"], utf16In .big⟩,
    ⟨"utf_32", ["u32", "utf32"], utf32⟩,
    ⟨"utf_32_le", ["utf_32le"], utf32In .little⟩,
    ⟨"utf_32_be", ["utf_32be"], utf32In .big⟩,
    ⟨"utf_7", ["u7", "utf7", "unicode_1_1_utf_7"], utf7⟩,
    ⟨"latin_1", ["latin1", "latin", "l1", "iso_8859_1", "iso8859_1", "iso8859", "8859", "cp819",
      "iso_8859_1_1987", "iso_ir_100", "csisolatin1", "ibm819"], latin1⟩,
    ⟨"charmap", [], latin1⟩,
    ⟨"ascii", ["us_ascii", "us", "646", "ansi_x3.4_1968", "ansi_x3_4_1968", "ansi_x3.4_1986",
      "cp367", "csascii", "ibm367", "iso646_us", "iso_646.irv_1991", "iso_ir_6"], ascii⟩,
    ⟨"unicode_escape", [], escaped⟩,
    ⟨"raw_unicode_escape", [], escapedRaw⟩,
    ⟨"punycode", [], punycode⟩,
    ⟨"idna", [], hostName⟩,
    ⟨"undefined", [], undefined⟩,
    ⟨"base64_codec", ["base64", "base_64"], none⟩,
    ⟨"bz2_codec", ["bz2"], none⟩,
    ⟨"hex_codec", ["hex"], none⟩,
    ⟨"quopri_codec", ["quopri", "quoted_printable", "quotedprintable"], none⟩,
    ⟨"rot_13", ["rot13"], none⟩,
    ⟨"uu_codec", ["uu"], none⟩,
    ⟨"zlib_codec", ["zip", "zlib"], none⟩]

/-- All encodings. -/
def entries : List Entry :=
  named ++ CodePage.all.map (fun (name, others, page) => ⟨name, others, codePage page⟩)
    ++ EastAsian.all.map fun encoding => ⟨encoding.names.1, encoding.names.2, eastAsian encoding⟩

/-- Why a name is not that of a text encoding. -/
inductive NameDefect
  | hasNull
  | unknown
  | notText
  deriving DecidableEq, Repr

/-- A name with its letters in lower case and one underscore for each run of other signs. -/
def plainName (name : Text) : Text :=
  let plain := fun (c : Char) => c.isAlphanum || c == '.'
  ['_'].intercalate ((Text.splitOn (!plain ·) (name.map Char.toLower)).filter (!·.isEmpty))

/-- A plain name without points. -/
def pointless (name : Text) : Text := name.map fun c => if c = '.' then '_' else c

/-- Whether an entry has a plain name, which if it has points has to be another than its own. -/
def Entry.hasName (name : Text) (entry : Entry) : Bool :=
  entry.otherNames.any (fun other => other.toList == name || other.toList == pointless name)
    || entry.name.toList == name

/-- The encoding with a given name. -/
def ofName (name : Text) : Except NameDefect Charset :=
  if name.elem '\x00' then .error .hasNull
  else
    match entries.find? (Entry.hasName (plainName name)) with
    | some entry => entry.charset.elim (.error .notText) .ok
    | none => .error .unknown

/-- The mark that may precede a text in UTF-8. -/
def utf8Mark : Bytes := [0xef, 0xbb, 0xbf]

/-- The text of some octets, with replacement characters where there is none. Host names cannot be
read that way, and in the undefined encoding nothing can. -/
def decode? (charset : Charset) (data : Bytes) : Option Text :=
  match charset with
  | utf8 => some (Utf8.decode data)
  | utf8Marked => some (Utf8.decode (if utf8Mark.isPrefixOf data then data.drop 3 else data))
  | utf16 => some (Utf16.decodeMarked data)
  | utf16In order => some (Utf16.decode order data)
  | utf32 => some (Utf32.decodeMarked data)
  | utf32In order => some (Utf32.decode order data)
  | utf7 => some (Utf7.decode data)
  | latin1 => some (Latin.decode data)
  | ascii => some (data.map fun b => if b < 0x80 then Char.ofNat b.toNat else Utf8.replacement)
  | codePage page => some (page.decode data)
  | eastAsian encoding => some (encoding.decode data)
  | escaped => some (Escaped.decode data)
  | escapedRaw => some (Escaped.decodeRaw data)
  | punycode => Punycode.decodeLoosely? data
  | hostName | undefined => none

/-- Whether the encoding has a code for a character. -/
def covers : Charset → Char → Bool
  | latin1, c => c.toNat < 256
  | ascii, c => c.toNat < 128
  | codePage page, c => (page.encodeChar? c).isSome
  | eastAsian encoding, c => encoding.covers c
  | _, _ => true

/-- The octets of a text, if its characters are all covered. -/
def encode? (charset : Charset) (s : Text) : Option Bytes :=
  match charset with
  | utf8 => some (Utf8.encode s)
  | utf8Marked => some (utf8Mark ++ Utf8.encode s)
  | utf16 => some (Utf16.encodeMarked s)
  | utf16In order => some (Utf16.encode order s)
  | utf32 => some (Utf32.encodeMarked s)
  | utf32In order => some (Utf32.encode order s)
  | utf7 => some (Utf7.encode s)
  | latin1 => Latin.encode? s
  | ascii => if s.all (·.toNat < 128) then Latin.encode? s else none
  | codePage page => s.mapM page.encodeChar?
  | eastAsian encoding => encoding.encode? s
  | escaped => some (Escaped.encode s)
  | escapedRaw => some (Escaped.encodeRaw s)
  | punycode => some (Escaped.octets (Punycode.encode s))
  | hostName => HostName.encode? s
  | undefined => none

/-- The name that messages use. -/
def name : Charset → String
  | utf8 => "utf-8"
  | utf8Marked => "utf-8-sig"
  | utf16 => "utf-16"
  | utf16In .little => "utf-16-le"
  | utf16In .big => "utf-16-be"
  | utf32 => "utf-32"
  | utf32In .little => "utf-32-le"
  | utf32In .big => "utf-32-be"
  | utf7 => "utf-7"
  | latin1 => "latin-1"
  | ascii => "ascii"
  | codePage _ => "charmap"
  | eastAsian encoding => encoding.names.1
  | escaped => "unicode-escape"
  | escapedRaw => "raw-unicode-escape"
  | punycode => "punycode"
  | hostName => "idna"
  | undefined => "undefined"

/-- Whether messages name a whole run of characters that are not covered. -/
def namesRuns : Charset → Bool
  | eastAsian _ => false
  | _ => true

/-- Why messages say that a character is not covered. -/
def lack : Charset → String
  | codePage _ => "character maps to <undefined>"
  | eastAsian _ => "illegal multibyte sequence"
  | ascii => "ordinal not in range(128)"
  | _ => "ordinal not in range(256)"

end Charset

end HttpFetch
