import HttpFetch.Proofs.Chunked.Grammar

/-!
# Blocks that are written are read back

A written block is a chunk whose line tells its length in hexadecimal, so what it holds is never
looked at when it is read: line ends and zeros among the data do no harm, and whatever follows the
body is left.  Blocks without the end of the body are read back as well, and the body is then cut
short.
-/

namespace HttpFetch

namespace Chunked

/-- The line that tells the length of a block. -/
def sizeLine (octets : Bytes) : Bytes :=
  Utf8.encode (Text.ofNatBase 16 octets.length) ++ lineEnd

def SizeLine.ofLength (count : Nat) : SizeLine where
  digits := Text.ofNatBase 16 count
  padding := []
  extension := []
  ending := lineEnd
  digits_ne_nil := Text.ofNatBase_ne_nil count
  digits_over := Text.ofNatBase_over (by decide) count
  padding_blank := by simp
  extension_head := Or.inl rfl
  extension_line := List.not_mem_nil
  ending_mem := by decide

theorem SizeLine.octets_ofLength (octets : Bytes) :
    (ofLength octets.length).octets = sizeLine octets := by
  simp [ofLength, SizeLine.octets, sizeLine]

theorem SizeLine.size_ofLength (count : Nat) : (ofLength count).size = count :=
  Digit.value_ofNatBase count

def Chunk.ofOctets (octets : Bytes) (hne : octets ≠ []) : Chunk where
  sizeLine := .ofLength octets.length
  octets := octets
  ending := lineEnd
  octets_ne_nil := hne
  size_eq := SizeLine.size_ofLength octets.length
  ending_mem := by decide

theorem Chunk.written_ofOctets {octets : Bytes} (hne : octets ≠ []) :
    (ofOctets octets hne).written = block octets := by
  change (SizeLine.ofLength octets.length).octets ++ octets ++ lineEnd = block octets
  rw [SizeLine.octets_ofLength]
  rfl

def Closing.plain : Closing where
  sizeLine := .ofLength 0
  trailer := []
  blankLine := lineEnd
  size_eq := SizeLine.size_ofLength 0
  trailer_isLine := by simp
  trailer_not_blank := by simp
  blankLine_mem := by decide

theorem Closing.written_plain : Closing.plain.written = terminator := rfl

theorem length_sizeLine_le {octets : Bytes} (h : octets.length < 16 ^ 16) :
    ((sizeLine octets).length : Int) ≤ lineLimit := by
  have hdigits := Text.length_ofNatBase_le h (by omega)
  have hlength : (Utf8.encode (Text.ofNatBase 16 octets.length)).length =
      (Text.ofNatBase 16 octets.length).length :=
    (SizeLine.ofLength octets.length).length_encode_digits
  rw [sizeLine, List.length_append, hlength]
  simp only [lineEnd, lineLimit, List.length_cons, List.length_nil]
  omega

theorem terminator_notMem_blocks {pieces : List Bytes} (hne : ∀ piece ∈ pieces, piece ≠ []) :
    terminator ∉ pieces.map block := by
  intro hmem
  obtain ⟨piece, hpiece, hblock⟩ := List.mem_map.mp hmem
  have hpos := List.length_pos_iff.mpr (hne piece hpiece)
  have hdigits := List.length_pos_iff.mpr (Text.ofNatBase_ne_nil piece.length)
  have hencode : (Utf8.encode (Text.ofNatBase 16 piece.length)).length =
      (Text.ofNatBase 16 piece.length).length :=
    (SizeLine.ofLength piece.length).length_encode_digits
  have hlength := congrArg List.length hblock
  rw [show terminator.length = 5 from rfl] at hlength
  simp only [block, lineEnd, List.length_append, List.length_cons, List.length_nil,
    hencode] at hlength
  omega

/-- Pieces that are not empty are the octets of chunks, written as their blocks. -/
theorem exists_chunks {pieces : List Bytes} (hne : ∀ piece ∈ pieces, piece ≠ [])
    (hlength : ∀ piece ∈ pieces, piece.length < 16 ^ 16) :
    ∃ chunks : List Chunk, chunks.map Chunk.octets = pieces ∧
      chunks.map Chunk.written = pieces.map block ∧
      ∀ line ∈ chunks.flatMap Chunk.lines, (line.length : Int) ≤ lineLimit := by
  induction pieces with
  | nil => exact ⟨[], rfl, rfl, by simp⟩
  | cons piece pieces ih =>
      rw [List.forall_mem_cons] at hne hlength
      obtain ⟨chunks, hoctets, hwritten, hlines⟩ := ih hne.2 hlength.2
      refine ⟨.ofOctets piece hne.1 :: chunks, ?_, ?_, ?_⟩
      · rw [List.map_cons, hoctets]
        rfl
      · rw [List.map_cons, List.map_cons, hwritten, Chunk.written_ofOctets]
      · rw [List.flatMap_cons, List.forall_mem_append]
        refine ⟨?_, hlines⟩
        have hsize : (Chunk.ofOctets piece hne.1).lines = [sizeLine piece, lineEnd] := by
          rw [← SizeLine.octets_ofLength]
          rfl
        rw [hsize, List.forall_mem_cons, List.forall_mem_singleton]
        exact ⟨length_sizeLine_le hlength.1, by decide⟩

/-- The octets of a body in chunked coding. -/
def coded (pieces : List Bytes) : Bytes := (pieces.map block).flatten ++ terminator

/-- A coded body is decoded into its pieces, and what follows it is left. -/
theorem decodeAll_coded
    {pieces : List Bytes} (hne : ∀ piece ∈ pieces, piece ≠ [])
    (hlength : ∀ piece ∈ pieces, piece.length < 16 ^ 16) (rest : Bytes) :
    ∃ taken, decodeAll false (.ofBytes (coded pieces ++ rest)) = ⟨pieces, none, ⟨rest, taken⟩⟩ ∧
      ∀ line ∈ taken, (line.length : Int) ≤ lineLimit := by
  obtain ⟨chunks, hoctets, hwritten, hlines⟩ := exists_chunks hne hlength
  have hbody := decodeAll_body ⟨chunks, .plain⟩ rest []
  rw [Body.written, hwritten, Closing.written_plain, Body.pieces, hoctets] at hbody
  refine ⟨_, hbody, ?_⟩
  have hclosing : ∀ line ∈ Closing.plain.lines, (line.length : Int) ≤ lineLimit := by decide
  rw [List.nil_append, Body.lines, List.forall_mem_append]
  exact ⟨hlines, hclosing⟩

/-- Blocks without an end are decoded into their pieces, and the body is cut short. -/
theorem decodeAll_blocks
    {pieces : List Bytes} (hne : ∀ piece ∈ pieces, piece ≠ [])
    (hlength : ∀ piece ∈ pieces, piece.length < 16 ^ 16) :
    ∃ taken, decodeAll false (.ofBytes (pieces.map block).flatten) =
        ⟨pieces, some (.body .cutChunks), ⟨[], taken⟩⟩ ∧
      ∀ line ∈ taken, (line.length : Int) ≤ lineLimit := by
  obtain ⟨chunks, hoctets, hwritten, hlines⟩ := exists_chunks hne hlength
  have hdecode := decodeAll_chunks chunks [] []
  rw [List.append_nil, hwritten, hoctets, decodeAll_nil] at hdecode
  refine ⟨_, hdecode.trans (by rw [Collected.prepend, List.append_nil]), ?_⟩
  rw [List.nil_append, List.forall_mem_append]
  exact ⟨hlines, by decide⟩

/-- A coded body is collected from any connection that supplies it, and what follows it is left
to be read. -/
theorem collect_coded
    {pieces : List Bytes} (hne : ∀ piece ∈ pieces, piece ≠ [])
    (hlength : ∀ piece ∈ pieces, piece.length < 16 ^ 16) {rest : Bytes} {reader : Reader}
    (hsupplies : reader.Supplies (coded pieces ++ rest)) :
    (Response.collect (.chunks false) reader).pieces = pieces ∧
      (Response.collect (.chunks false) reader).failure = none ∧
      (Response.collect (.chunks false) reader).left.leftover = rest := by
  obtain ⟨taken, hdecode, htaken⟩ := decodeAll_coded hne hlength rest
  have hwire : reader.Supplies (Wire.ofBytes (coded pieces ++ rest)).rest := hsupplies
  have hlimit : (decodeAll false (.ofBytes (coded pieces ++ rest))).left.WithinLimit := by
    rw [hdecode]
    exact htaken
  have hcollect := collect_chunks hwire hlimit
  rw [hdecode] at hcollect
  exact ⟨hcollect.1, hcollect.2.1, hcollect.2.2.leftover_eq⟩

/-- Blocks without an end are collected from any connection that supplies them and nothing else,
and then the connection has ended inside the body. -/
theorem collect_blocks
    {pieces : List Bytes} (hne : ∀ piece ∈ pieces, piece ≠ [])
    (hlength : ∀ piece ∈ pieces, piece.length < 16 ^ 16) {reader : Reader}
    (hsupplies : reader.Supplies (pieces.map block).flatten) :
    (Response.collect (.chunks false) reader).pieces = pieces ∧
      (Response.collect (.chunks false) reader).failure = some (.body .cutChunks) := by
  obtain ⟨taken, hdecode, htaken⟩ := decodeAll_blocks hne hlength
  have hwire : reader.Supplies (Wire.ofBytes (pieces.map block).flatten).rest := hsupplies
  have hlimit : (decodeAll false (.ofBytes (pieces.map block).flatten)).left.WithinLimit := by
    rw [hdecode]
    exact htaken
  have hcollect := collect_chunks hwire hlimit
  rw [hdecode] at hcollect
  exact ⟨hcollect.1, hcollect.2.1⟩

end Chunked

end HttpFetch
