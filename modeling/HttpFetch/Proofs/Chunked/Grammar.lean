import HttpFetch.Proofs.Number.Hexadecimal
import HttpFetch.Proofs.Response.BodyDecoding

/-!
# The grammar of chunked coding

A chunk is a line that tells a size in hexadecimal, so many octets, and the end of their line;
blanks may follow the size, and an extension after a semicolon.  A body is chunks, a size line for
no octets, lines of a trailer that are not blank, and a blank line.  Lines end with a line feed, and
a carriage return may stand before it.  Chunks are decoded one by one whatever follows them, and the
end of a body leaves what follows it.
-/

namespace HttpFetch

namespace Bytes

def lineEnds : List Bytes := [[13, 10], [10]]

/-- Octets whose only line feed is their last octet. -/
def IsLine (line : Bytes) : Prop := ∃ text : Bytes, (10 : UInt8) ∉ text ∧ line = text ++ [10]

theorem IsLine.firstLine_append {line : Bytes} (h : IsLine line) (rest : Bytes) :
    firstLine (line ++ rest) = line ∧ afterLine (line ++ rest) = rest := by
  obtain ⟨text, htext, rfl⟩ := h
  simpa only [List.append_assoc, List.singleton_append] using firstLine_of_line htext rest

theorem IsLine.lineFeed_mem {line : Bytes} (h : IsLine line) : (10 : UInt8) ∈ line := by
  obtain ⟨text, -, rfl⟩ := h
  exact List.mem_append_right text List.mem_cons_self

theorem isLine_append {text ending : Bytes} (htext : (10 : UInt8) ∉ text)
    (hending : ending ∈ lineEnds) : IsLine (text ++ ending) := by
  rw [lineEnds, List.mem_cons, List.mem_singleton] at hending
  rcases hending with rfl | rfl
  · refine ⟨text ++ [13], ?_, by simp⟩
    rw [List.mem_append, not_or]
    exact ⟨htext, by decide⟩
  · exact ⟨text, htext, rfl⟩

theorem lineEnd_mem : Chunked.lineEnd ∈ lineEnds := List.mem_cons_self

theorem isLine_lineEnd {ending : Bytes} (hending : ending ∈ lineEnds) : IsLine ending :=
  isLine_append List.not_mem_nil hending

/-- The blanks that may stand on the line of a size, its end among them. -/
def blanks : Bytes := [32, 9, 13, 10]

theorem mem_blanks_of_lineEnd {ending : Bytes} (hending : ending ∈ lineEnds) :
    ∀ octet ∈ ending, octet ∈ blanks := by
  rw [lineEnds, List.mem_cons, List.mem_singleton] at hending
  rcases hending with rfl | rfl <;> simp [blanks]

end Bytes

namespace Collected

def prepend {σ : Type} (pieces : List Bytes) (rest : Collected σ) : Collected σ :=
  { rest with pieces := pieces ++ rest.pieces }

end Collected

namespace Chunked

/-! ## The lines that tell sizes -/

/-- Trimming and cutting leave the digits of a size and blanks after them. -/
theorem cut_of_digits {digits : Text} (hne : digits ≠ []) (hover : digits.Over Text.hexDigits)
    {blanks more : Bytes} (hblanks : ∀ octet ∈ blanks, octet ∈ Bytes.blanks)
    (hmore : more = [] ∨ ∃ rest, more = 59 :: rest) :
    ∃ written spaces, (Latin.decode (Utf8.encode digits ++ blanks ++ more)).trim = written ∧
      written ≠ [] ∧ (Text.cut ';' written).1 = digits ++ spaces ∧
      ∀ c ∈ spaces, Text.isSpace c = true := by
  have hascii := hover.forall_mem (P := fun c => c.toNat < 128) (by decide)
  have hblank := hover.forall_mem (P := fun c => Text.isBlank c = false) (by decide)
  have hsemicolon : ';' ∉ digits := hover.notMem (by decide)
  have hdecoded : ∀ c ∈ Latin.decode blanks,
      Text.isBlank c = true ∧ Text.isSpace c = true ∧ c ≠ ';' := by
    intro c hc
    obtain ⟨octet, hoctet, rfl⟩ := List.mem_map.mp hc
    replace hoctet := hblanks octet hoctet
    simp only [Bytes.blanks, List.mem_cons, List.not_mem_nil, or_false] at hoctet
    rcases hoctet with rfl | rfl | rfl | rfl <;> decide
  simp only [Latin.decode_append, Latin.decode_encode hascii, List.append_assoc, Text.trim]
  rcases hmore with rfl | ⟨rest, rfl⟩
  · refine ⟨digits, [], ?_, hne, ?_, by simp⟩
    · rw [Latin.decode_nil, List.append_nil]
      exact Text.trimOf_append hblank hne fun c hc => (hdecoded c hc).1
    · rw [List.append_nil, Text.cut_of_notMem hsemicolon]
  · have hkept : ';' ∉ digits ++ Latin.decode blanks := by
      rw [List.mem_append, not_or]
      exact ⟨hsemicolon, fun hmem => (hdecoded ';' hmem).2.2 rfl⟩
    refine ⟨digits ++ Latin.decode blanks ++
        ';' :: Text.trimRight Text.isBlank (Latin.decode rest), Latin.decode blanks, ?_, by simp,
      by rw [Text.cut_append_cons hkept], fun c hc => (hdecoded c hc).2.1⟩
    rw [Text.trimOf, Text.trimLeft_append hblank hne, ← List.append_assoc]
    exact Text.trimRight_append_cons _ (by decide) _

/-- Of a line the digits at its front tell the size; an extension and blanks before it do not
matter. -/
theorem lineSize_of_digits {digits : Text} (hne : digits ≠ []) (hover : digits.Over Text.hexDigits)
    {blanks more : Bytes} (hblanks : ∀ octet ∈ blanks, octet ∈ Bytes.blanks)
    (hmore : more = [] ∨ ∃ rest, more = 59 :: rest) :
    lineSize (Utf8.encode digits ++ blanks ++ more) =
      .ok (Digit.value 16 (digits.filterMap Digit.hex?) : Int) := by
  obtain ⟨written, spaces, hwritten, hwritten_ne, hcut, hspaces⟩ :=
    cut_of_digits hne hover hblanks hmore
  have hsize : size? written = some (Digit.value 16 (digits.filterMap Digit.hex?) : Int) := by
    rw [size?, hcut, Integer.parseHex_append hne hover hspaces]
  unfold lineSize
  rw [hwritten]
  simp [hwritten_ne, hsize]

structure SizeLine where
  digits : Text
  padding : Bytes
  extension : Bytes
  ending : Bytes
  digits_ne_nil : digits ≠ []
  digits_over : digits.Over Text.hexDigits
  padding_blank : ∀ octet ∈ padding, octet = 32 ∨ octet = 9
  extension_head : extension = [] ∨ ∃ more, extension = 59 :: more
  extension_line : (10 : UInt8) ∉ extension
  ending_mem : ending ∈ Bytes.lineEnds

namespace SizeLine

def octets (line : SizeLine) : Bytes :=
  Utf8.encode line.digits ++ line.padding ++ line.extension ++ line.ending

def size (line : SizeLine) : Nat := Digit.value 16 (line.digits.filterMap Digit.hex?)

theorem digits_ascii (line : SizeLine) : ∀ c ∈ line.digits, c.toNat < 128 :=
  line.digits_over.forall_mem (P := fun c => c.toNat < 128) (by decide)

theorem decode_digits (line : SizeLine) : Latin.decode (Utf8.encode line.digits) = line.digits :=
  Latin.decode_encode line.digits_ascii

theorem length_encode_digits (line : SizeLine) :
    (Utf8.encode line.digits).length = line.digits.length := by
  rw [← Latin.length_decode, line.decode_digits]

theorem isLine (line : SizeLine) : Bytes.IsLine line.octets := by
  have hpadding : (10 : UInt8) ∉ line.padding := by
    intro hmem
    exact absurd (line.padding_blank 10 hmem) (by decide)
  apply Bytes.isLine_append _ line.ending_mem
  simp only [List.mem_append, not_or]
  exact ⟨⟨Latin.notMem_encode line.digits_ascii (line.digits_over.notMem (by decide)), hpadding⟩,
    line.extension_line⟩

theorem lineSize_octets (line : SizeLine) : lineSize line.octets = .ok line.size := by
  have hpadding : ∀ octet ∈ line.padding, octet ∈ Bytes.blanks := by
    intro octet hoctet
    rcases line.padding_blank octet hoctet with rfl | rfl <;> decide
  unfold octets size
  rcases line.extension_head with hnone | ⟨more, hmore⟩
  · have hblanks : ∀ octet ∈ line.padding ++ line.ending, octet ∈ Bytes.blanks :=
      List.forall_mem_append.mpr ⟨hpadding, Bytes.mem_blanks_of_lineEnd line.ending_mem⟩
    have hsize := lineSize_of_digits line.digits_ne_nil line.digits_over hblanks (Or.inl rfl)
    simpa only [hnone, List.append_nil, List.append_assoc] using hsize
  · have hhead : ∃ rest, 59 :: (more ++ line.ending) = 59 :: rest := ⟨_, rfl⟩
    have hsize := lineSize_of_digits line.digits_ne_nil line.digits_over hpadding (Or.inr hhead)
    simpa only [hmore, List.append_assoc, List.cons_append] using hsize

end SizeLine

/-! ## Chunks -/

structure Chunk where
  sizeLine : SizeLine
  octets : Bytes
  ending : Bytes
  octets_ne_nil : octets ≠ []
  size_eq : sizeLine.size = octets.length
  ending_mem : ending ∈ Bytes.lineEnds

namespace Chunk

def written (chunk : Chunk) : Bytes := chunk.sizeLine.octets ++ chunk.octets ++ chunk.ending

def lines (chunk : Chunk) : List Bytes := [chunk.sizeLine.octets, chunk.ending]

theorem lines_isLine (chunk : Chunk) : ∀ line ∈ chunk.lines, Bytes.IsLine line := by
  simp only [lines, List.forall_mem_cons, List.not_mem_nil, IsEmpty.forall_iff, implies_true]
  exact ⟨chunk.sizeLine.isLine, Bytes.isLine_lineEnd chunk.ending_mem, trivial⟩

end Chunk

theorem decodeNext_chunk (chunk : Chunk) (rest : Bytes) (lines : List Bytes) :
    decodeNext ⟨chunk.written ++ rest, lines⟩ =
      .ok (some chunk.octets) ⟨chunk.ending ++ rest, lines ++ [chunk.sizeLine.octets]⟩ := by
  have hpos := List.length_pos_iff.mpr chunk.octets_ne_nil
  have hsplit : chunk.written ++ rest =
      chunk.sizeLine.octets ++ (chunk.octets ++ (chunk.ending ++ rest)) := by
    simp only [Chunk.written, List.append_assoc]
  obtain ⟨hfirst, hafter⟩ :=
    chunk.sizeLine.isLine.firstLine_append (chunk.octets ++ (chunk.ending ++ rest))
  rw [decodeNext_eq]
  simp only [hsplit, hfirst, hafter, chunk.sizeLine.lineSize_octets, chunk.size_eq, Wire.skipLine,
    decodeAnnounced, Int.toNat_natCast]
  rw [if_neg (by omega), if_pos (by simp), List.take_left, List.drop_left]

/-- Inside the line of a chunk the rest of the line is passed first. -/
theorem decodeAll_true (wire : Wire) : decodeAll true wire = decodeAll false wire.skipLine := by
  rw [decodeAll_eq, decodeAll_eq, decodeChunk_true]
  rfl

theorem decodeAll_chunk (chunk : Chunk) (rest : Bytes) (lines : List Bytes) :
    decodeAll false ⟨chunk.written ++ rest, lines⟩ =
      (decodeAll false ⟨rest, lines ++ chunk.lines⟩).cons chunk.octets := by
  obtain ⟨hfirst, hafter⟩ := (Bytes.isLine_lineEnd chunk.ending_mem).firstLine_append rest
  have hnext : decodeChunk false ⟨chunk.written ++ rest, lines⟩ = _ :=
    decodeNext_chunk chunk rest lines
  rw [decodeAll_eq, hnext]
  simp only [decodeAll_true, Wire.skipLine, hfirst, hafter, Chunk.lines, List.append_assoc,
    List.singleton_append]

/-- Chunks are decoded one by one, whatever follows them. -/
theorem decodeAll_chunks (chunks : List Chunk) (rest : Bytes) (lines : List Bytes) :
    decodeAll false ⟨(chunks.map Chunk.written).flatten ++ rest, lines⟩ =
      (decodeAll false ⟨rest, lines ++ chunks.flatMap Chunk.lines⟩).prepend
        (chunks.map Chunk.octets) := by
  induction chunks generalizing lines with
  | nil =>
      rw [List.flatMap_nil, List.append_nil]
      rfl
  | cons chunk chunks ih =>
      rw [List.map_cons, List.flatten_cons, List.append_assoc, decodeAll_chunk, ih,
        List.flatMap_cons, List.append_assoc]
      rfl

/-- Where the data ends between chunks, the body is cut short. -/
theorem decodeAll_nil (lines : List Bytes) :
    decodeAll false ⟨[], lines⟩ = ⟨[], some (.body .cutChunks), ⟨[], lines ++ [[]]⟩⟩ := by
  rw [decodeAll_eq]
  rfl

/-! ## The end of a body -/

structure Closing where
  sizeLine : SizeLine
  trailer : List Bytes
  blankLine : Bytes
  size_eq : sizeLine.size = 0
  trailer_isLine : ∀ line ∈ trailer, Bytes.IsLine line
  trailer_not_blank : ∀ line ∈ trailer, line.all Bytes.isBlank = false
  blankLine_mem : blankLine ∈ Bytes.lineEnds

namespace Closing

def written (closing : Closing) : Bytes :=
  closing.sizeLine.octets ++ closing.trailer.flatten ++ closing.blankLine

def lines (closing : Closing) : List Bytes :=
  closing.sizeLine.octets :: (closing.trailer ++ [closing.blankLine])

theorem lines_isLine (closing : Closing) : ∀ line ∈ closing.lines, Bytes.IsLine line := by
  rw [lines, List.forall_mem_cons, List.forall_mem_append, List.forall_mem_singleton]
  exact ⟨closing.sizeLine.isLine, closing.trailer_isLine,
    Bytes.isLine_lineEnd closing.blankLine_mem⟩

end Closing

theorem dropTrailer_append {trailer : List Bytes} (hlines : ∀ line ∈ trailer, Bytes.IsLine line)
    (hblank : ∀ line ∈ trailer, line.all Bytes.isBlank = false) {blankLine : Bytes}
    (hmem : blankLine ∈ Bytes.lineEnds) (rest : Bytes) (lines : List Bytes) :
    dropTrailer ⟨trailer.flatten ++ (blankLine ++ rest), lines⟩ =
      ⟨rest, lines ++ (trailer ++ [blankLine])⟩ := by
  induction trailer generalizing lines with
  | nil =>
      obtain ⟨hfirst, hafter⟩ := (Bytes.isLine_lineEnd hmem).firstLine_append rest
      have hall : blankLine.all Bytes.isBlank = true := by
        rw [Bytes.lineEnds, List.mem_cons, List.mem_singleton] at hmem
        rcases hmem with rfl | rfl <;> decide
      rw [dropTrailer]
      simp only [List.flatten_nil, List.nil_append, hfirst, hafter, hall, Wire.skipLine, dite_true]
  | cons line trailer ih =>
      rw [List.forall_mem_cons] at hlines hblank
      obtain ⟨hfirst, hafter⟩ :=
        hlines.1.firstLine_append (trailer.flatten ++ (blankLine ++ rest))
      rw [List.flatten_cons, List.append_assoc, dropTrailer]
      simp only [hfirst, hafter, hblank.1, Wire.skipLine, Bool.false_eq_true, dite_false]
      rw [ih hlines.2 hblank.2, List.append_assoc]
      rfl

theorem decodeAll_closing (closing : Closing) (rest : Bytes) (lines : List Bytes) :
    decodeAll false ⟨closing.written ++ rest, lines⟩ =
      ⟨[], none, ⟨rest, lines ++ closing.lines⟩⟩ := by
  have hsplit : closing.written ++ rest =
      closing.sizeLine.octets ++ (closing.trailer.flatten ++ (closing.blankLine ++ rest)) := by
    simp only [Closing.written, List.append_assoc]
  obtain ⟨hfirst, hafter⟩ := closing.sizeLine.isLine.firstLine_append
    (closing.trailer.flatten ++ (closing.blankLine ++ rest))
  have hnext : decodeChunk false ⟨closing.written ++ rest, lines⟩ =
      .ok none ⟨rest, lines ++ closing.lines⟩ := by
    change decodeNext _ = _
    rw [decodeNext_eq]
    simp only [hsplit, hfirst, hafter, closing.sizeLine.lineSize_octets, closing.size_eq,
      Wire.skipLine]
    rw [decodeAnnounced, if_pos (by rfl), dropTrailer_append closing.trailer_isLine
      closing.trailer_not_blank closing.blankLine_mem, List.append_assoc]
    rfl
  rw [decodeAll_eq, hnext]

/-! ## Bodies -/

/-- A body as it is written in chunked coding. -/
structure Body where
  chunks : List Chunk
  closing : Closing

namespace Body

def written (body : Body) : Bytes := (body.chunks.map Chunk.written).flatten ++ body.closing.written

def lines (body : Body) : List Bytes := body.chunks.flatMap Chunk.lines ++ body.closing.lines

def pieces (body : Body) : List Bytes := body.chunks.map Chunk.octets

theorem lines_isLine (body : Body) : ∀ line ∈ body.lines, Bytes.IsLine line := by
  rw [lines, List.forall_mem_append]
  refine ⟨fun line hline => ?_, body.closing.lines_isLine⟩
  obtain ⟨chunk, -, hchunk⟩ := List.mem_flatMap.mp hline
  exact chunk.lines_isLine line hchunk

end Body

/-- A written body is decoded into the octets of its chunks, and what follows it is left. -/
theorem decodeAll_body (body : Body) (rest : Bytes) (lines : List Bytes) :
    decodeAll false ⟨body.written ++ rest, lines⟩ =
      ⟨body.pieces, none, ⟨rest, lines ++ body.lines⟩⟩ := by
  rw [Body.written, List.append_assoc, decodeAll_chunks, decodeAll_closing, Body.lines,
    ← List.append_assoc]
  simp only [Collected.prepend, List.append_nil, Body.pieces]

end Chunked

end HttpFetch
