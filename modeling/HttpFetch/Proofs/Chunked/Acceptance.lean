import HttpFetch.Proofs.Chunked.Grammar
import HttpFetch.Proofs.Number.Spelling

/-!
# What passes for chunked coding

A reader of chunked coding takes more than what a writer writes.  A size may have a sign, a mark and
underscores, a negative size stands for an empty chunk, what follows a chunk on its line is dropped,
and the end of the data ends any line.  `Decodes` lists all byte strings that are taken for a body,
without mentioning how they are read, and `Response.collect_chunks_iff` says that reading ends
normally over these and over no others.  Over the others it fails for a defect of the body, but for
a chunk that lacks more octets than can be written in decimal (`Exceeds`).
-/

namespace HttpFetch

namespace Bytes

/-- A line in front of what follows it.  Only the last line may lack its line feed. -/
def LineBefore (line rest : Bytes) : Prop :=
  IsLine line ∨ ((10 : UInt8) ∉ line ∧ rest = [])

theorem LineBefore.firstLine_append {line rest : Bytes} (h : LineBefore line rest) :
    firstLine (line ++ rest) = line ∧ afterLine (line ++ rest) = rest := by
  rcases h with hline | ⟨hline, rfl⟩
  · exact hline.firstLine_append rest
  · rw [List.append_nil]
    exact firstLine_of_notMem hline

theorem lineBefore_firstLine (octets : Bytes) :
    LineBefore (firstLine octets) (afterLine octets) := by
  by_cases h : (10 : UInt8) ∈ octets
  · obtain ⟨text, rest, rfl, htext⟩ := List.eq_append_cons_of_mem h
    obtain ⟨hfirst, -⟩ := firstLine_of_line htext rest
    exact Or.inl ⟨text, htext, hfirst⟩
  · obtain ⟨hfirst, hafter⟩ := firstLine_of_notMem h
    rw [hfirst, hafter]
    exact Or.inr ⟨h, rfl⟩

end Bytes

theorem Text.isBlank_of_isSpace {c : Char} (h : isSpace c = true) : isBlank c = true := by
  rw [isBlank, h, Bool.true_or]

namespace Chunked

/-! ## Lines that tell sizes -/

/-- How the text of a line tells a size: a hexadecimal integer between blanks, or in front of white
space, a semicolon and anything. -/
inductive TellsSize : Text → Int → Prop
  | alone {left spelled right : Text} {size : Int}
      (hleft : ∀ c ∈ left, Text.isBlank c = true) (hspelled : Integer.SpelledHex spelled size)
      (hright : ∀ c ∈ right, Text.isBlank c = true) : TellsSize (left ++ spelled ++ right) size
  | extended {left spelled spaces extension : Text} {size : Int}
      (hleft : ∀ c ∈ left, Text.isBlank c = true) (hspelled : Integer.SpelledHex spelled size)
      (hspaces : ∀ c ∈ spaces, Text.isSpace c = true) :
      TellsSize (left ++ spelled ++ spaces ++ ';' :: extension) size

theorem lineSize_eq_ok_iff {line : Bytes} {size : Int} :
    lineSize line = .ok size ↔ TellsSize (Latin.decode line) size := by
  have hline := Latin.decode_lt line
  unfold lineSize size?
  dsimp only
  generalize Latin.decode line = s at hline ⊢
  constructor
  · intro h
    split at h
    next => cases h
    next =>
      split at h
      next => cases h
      next hsize =>
        cases h
        obtain ⟨left, right, hs, hleft, hright⟩ := Text.exists_of_trimOf Text.isBlank s
        change s = left ++ s.trim ++ right at hs
        generalize s.trim = written at hs hsize
        have hcut : (Text.cut ';' written).1 <+: written := List.takeWhile_prefix _
        rw [Integer.parseHex_eq_some_iff
          fun c hc => hline c (by simp [hs, hcut.subset hc])] at hsize
        obtain ⟨before, spelled, after, hfirst, hbefore, hafter, hspelled⟩ := hsize
        have hfront : ∀ c ∈ left ++ before, Text.isBlank c = true :=
          List.forall_mem_append.mpr ⟨hleft, fun c hc => Text.isBlank_of_isSpace (hbefore c hc)⟩
        rcases Text.cut_cases ';' written with ⟨-, hnone⟩ | ⟨first, rest, -, rfl, hsome⟩
        · have hback : ∀ c ∈ after ++ right, Text.isBlank c = true :=
            List.forall_mem_append.mpr ⟨fun c hc => Text.isBlank_of_isSpace (hafter c hc), hright⟩
          have halone := TellsSize.alone hfront hspelled hback
          rw [hnone] at hfirst
          rw [hs, show written = before ++ spelled ++ after from hfirst]
          simpa only [List.append_assoc] using halone
        · have hextended : TellsSize
              (left ++ before ++ spelled ++ after ++ ';' :: (rest ++ right)) _ :=
            .extended hfront hspelled hafter
          rw [hsome] at hfirst
          rw [hs, show first = before ++ spelled ++ after from hfirst]
          simpa only [List.append_assoc, List.cons_append] using hextended
  · intro h
    cases h with
    | @alone left spelled right _ hleft hspelled hright =>
        have hblank := hspelled.overSpelling.forall_mem
          (P := fun c => Text.isBlank c = false) (by decide)
        have htrim : (left ++ spelled ++ right).trim = spelled :=
          Text.trimOf_surrounded hblank hspelled.ne_nil hleft hright
        have hparse := (Integer.parseHex_eq_some_iff (s := spelled)
          fun c hc => hline c (by simp [hc])).mpr
          ⟨[], spelled, [], by simp, by simp, by simp, hspelled⟩
        rw [htrim, Text.cut_of_notMem (hspelled.overSpelling.notMem (by decide)), hparse]
        simp [hspelled.ne_nil]
    | @extended left spelled spaces extension _ hleft hspelled hspaces =>
        have hblank := hspelled.overSpelling.forall_mem
          (P := fun c => Text.isBlank c = false) (by decide)
        have hsemicolon : ';' ∉ spelled ++ spaces := by
          rw [List.mem_append, not_or]
          refine ⟨hspelled.overSpelling.notMem (by decide), fun hmem => ?_⟩
          exact absurd (hspaces ';' hmem) (by decide)
        have htrim : (left ++ spelled ++ spaces ++ ';' :: extension).trim =
            spelled ++ spaces ++ ';' :: Text.trimRight Text.isBlank extension := by
          rw [Text.trim, List.append_assoc, List.append_assoc, Text.trimOf_append_left hleft,
            Text.trimOf, Text.trimLeft_append hblank hspelled.ne_nil, ← List.append_assoc,
            Text.trimRight_append_cons _ (by decide)]
        have hparse := (Integer.parseHex_eq_some_iff (s := spelled ++ spaces)
          fun c hc => hline c (by grind)).mpr
          ⟨[], spelled, spaces, by simp, by simp, hspaces, hspelled⟩
        rw [htrim, Text.cut_append_cons hsemicolon, hparse]
        simp

theorem lineSize_failure {line : Bytes} {failure : Failure} (h : lineSize line = .error failure) :
    ∃ defect, failure = .body defect := by
  unfold lineSize at h
  dsimp only at h
  split at h
  next =>
    cases h
    exact ⟨_, rfl⟩
  next =>
    split at h
    next =>
      cases h
      exact ⟨_, rfl⟩
    next => cases h

/-! ## Bodies -/

/-- How a chunk is taken off some octets, and what is left of them: the line of its size, so many
octets, none for a negative size, and the rest of their line, whatever it says. -/
inductive TakesChunk : Bytes → Bytes → Bytes → Prop
  | intro {sizeLine octets ending rest : Bytes} {size : Int}
      (hline : Bytes.LineBefore sizeLine (octets ++ (ending ++ rest)))
      (hsize : TellsSize (Latin.decode sizeLine) size) (hsize_ne : size ≠ 0)
      (hlength : octets.length = size.toNat) (hending : Bytes.LineBefore ending rest) :
      TakesChunk (sizeLine ++ (octets ++ (ending ++ rest))) octets rest

/-- How a trailer is taken off some octets: its lines up to the first blank one, which may be the
empty line at the end of the data. -/
inductive TakesTrailer : Bytes → Bytes → Prop
  | blank {line rest : Bytes} (hline : Bytes.LineBefore line rest)
      (hblank : line.all Bytes.isBlank = true) : TakesTrailer (line ++ rest) rest
  | field {line octets rest : Bytes} (hline : Bytes.LineBefore line octets)
      (hfield : line.all Bytes.isBlank = false) (hrest : TakesTrailer octets rest) :
      TakesTrailer (line ++ octets) rest

/-- Octets that pass for a body in chunked coding, with its chunks and what it leaves. -/
inductive Decodes : Bytes → List Bytes → Bytes → Prop
  | closing {sizeLine trailer rest : Bytes} (hline : Bytes.LineBefore sizeLine trailer)
      (hsize : TellsSize (Latin.decode sizeLine) 0) (htrailer : TakesTrailer trailer rest) :
      Decodes (sizeLine ++ trailer) [] rest
  | chunk {octets piece behind rest : Bytes} {pieces : List Bytes}
      (hchunk : TakesChunk octets piece behind) (hrest : Decodes behind pieces rest) :
      Decodes octets (piece :: pieces) rest

/-- Octets that lack more of a chunk than can be written in decimal. -/
inductive Exceeds : Bytes → Prop
  | here {sizeLine rest : Bytes} {size : Int} (hline : Bytes.LineBefore sizeLine rest)
      (hsize : TellsSize (Latin.decode sizeLine) size)
      (hlarge : Nat.pow 10 Integer.maxDigits ≤ size.toNat - rest.length) :
      Exceeds (sizeLine ++ rest)
  | later {octets piece behind : Bytes} (hchunk : TakesChunk octets piece behind)
      (hrest : Exceeds behind) : Exceeds octets

/-! ## Decoding -/

theorem TakesTrailer.dropTrailer_eq {octets rest : Bytes} (h : TakesTrailer octets rest)
    (lines : List Bytes) : (dropTrailer ⟨octets, lines⟩).rest = rest := by
  induction h generalizing lines with
  | blank hline hblank =>
      obtain ⟨hfirst, hafter⟩ := hline.firstLine_append
      rw [dropTrailer]
      simp only [hfirst, hafter, hblank, Wire.skipLine, dite_true]
  | field hline hfield hrest ih =>
      obtain ⟨hfirst, hafter⟩ := hline.firstLine_append
      rw [dropTrailer]
      simp only [hfirst, hafter, hfield, Wire.skipLine, Bool.false_eq_true, dite_false]
      exact ih _

theorem takesTrailer_dropTrailer (wire : Wire) :
    TakesTrailer wire.rest (dropTrailer wire).rest := by
  fun_induction dropTrailer wire with
  | case1 wire hblank =>
      have htakes := TakesTrailer.blank (Bytes.lineBefore_firstLine wire.rest) hblank
      rwa [Bytes.firstLine_append_afterLine] at htakes
  | case2 wire hblank ih =>
      have htakes := TakesTrailer.field (Bytes.lineBefore_firstLine wire.rest)
        (Bool.eq_false_iff.mpr hblank) ih
      rwa [Bytes.firstLine_append_afterLine] at htakes

/-- A body begins with a line that tells a size, and goes on behind the line of its chunk. -/
theorem decodeAll_false_eq (wire : Wire) :
    decodeAll false wire =
      match lineSize (Bytes.firstLine wire.rest) with
      | .error failure => ⟨[], some failure, wire.skipLine⟩
      | .ok size =>
        match decodeAnnounced size wire.skipLine with
        | .ok (some octets) wire => (decodeAll false wire.skipLine).cons octets
        | .ok none wire => ⟨[], none, wire⟩
        | .error failure wire => ⟨[], some failure, wire⟩ := by
  rw [decodeAll_eq, show decodeChunk false wire = decodeNext wire from rfl, decodeNext_eq]
  cases lineSize (Bytes.firstLine wire.rest) with
  | error failure => rfl
  | ok size =>
      dsimp only
      cases decodeAnnounced size wire.skipLine with
      | error failure after => rfl
      | ok octets after =>
          cases octets with
          | none => rfl
          | some octets => exact congrArg (·.cons octets) (decodeAll_true after)

/-- The line of a size is followed by what it announces. -/
theorem decodeAll_of_tellsSize {sizeLine rest : Bytes} (hline : Bytes.LineBefore sizeLine rest)
    {size : Int} (hsize : TellsSize (Latin.decode sizeLine) size) (lines : List Bytes) :
    decodeAll false ⟨sizeLine ++ rest, lines⟩ =
      match decodeAnnounced size ⟨rest, lines ++ [sizeLine]⟩ with
      | .ok (some octets) wire => (decodeAll false wire.skipLine).cons octets
      | .ok none wire => ⟨[], none, wire⟩
      | .error failure wire => ⟨[], some failure, wire⟩ := by
  obtain ⟨hfirst, hafter⟩ := hline.firstLine_append
  rw [decodeAll_false_eq]
  simp only [Wire.skipLine, hfirst, hafter, lineSize_eq_ok_iff.mpr hsize]

theorem TakesChunk.decodeAll_eq {octets piece behind : Bytes} (h : TakesChunk octets piece behind)
    (lines : List Bytes) : ∃ taken,
      decodeAll false ⟨octets, lines⟩ = (decodeAll false ⟨behind, taken⟩).cons piece := by
  cases h with
  | @intro sizeLine _ ending _ size hline hsize hsize_ne hlength hending =>
      obtain ⟨hfirst, hafter⟩ := hending.firstLine_append
      rw [decodeAll_of_tellsSize hline hsize, decodeAnnounced, if_neg hsize_ne,
        if_pos (by simp [hlength])]
      simp only [← hlength, List.take_left, List.drop_left, Wire.skipLine, hfirst, hafter]
      exact ⟨_, rfl⟩

theorem Decodes.decodeAll_eq {octets rest : Bytes} {pieces : List Bytes}
    (h : Decodes octets pieces rest) (lines : List Bytes) :
    ∃ taken, decodeAll false ⟨octets, lines⟩ = ⟨pieces, none, ⟨rest, taken⟩⟩ := by
  induction h generalizing lines with
  | @closing sizeLine trailer rest hline hsize htrailer =>
      have hdrop := htrailer.dropTrailer_eq (lines ++ [sizeLine])
      rw [decodeAll_of_tellsSize hline hsize, decodeAnnounced, if_pos rfl]
      exact ⟨_, by rw [← hdrop]⟩
  | chunk hchunk hrest ih =>
      obtain ⟨before, hbefore⟩ := hchunk.decodeAll_eq lines
      obtain ⟨taken, htaken⟩ := ih before
      rw [hbefore, htaken]
      exact ⟨taken, rfl⟩

theorem lacks_of_large {size : Int} {count : Nat}
    (h : Nat.pow 10 Integer.maxDigits ≤ size.toNat - count) : size ≠ 0 ∧ ¬ size.toNat ≤ count := by
  have hpos : 0 < Nat.pow 10 Integer.maxDigits := by
    generalize Integer.maxDigits = places
    exact Nat.pow_pos (by decide)
  have hmissing : 0 < size.toNat - count := hpos.trans_le h
  refine ⟨?_, Nat.not_le.mpr (Nat.sub_pos_iff_lt.mp hmissing)⟩
  rintro rfl
  simp at hmissing

theorem Exceeds.decodeAll_failure {octets : Bytes} (h : Exceeds octets) (lines : List Bytes) :
    (decodeAll false ⟨octets, lines⟩).failure = some (.value .tooLarge) := by
  induction h generalizing lines with
  | @here sizeLine rest size hline hsize hlarge =>
      obtain ⟨hsize_ne, hlacks⟩ := lacks_of_large hlarge
      rw [decodeAll_of_tellsSize hline hsize, decodeAnnounced, if_neg hsize_ne, if_neg hlacks,
        Failure.ofMissing, if_pos hlarge]
  | later hchunk hrest ih =>
      obtain ⟨taken, htaken⟩ := hchunk.decodeAll_eq lines
      rw [htaken]
      exact ih taken

theorem TellsSize.ne_nil {s : Text} {size : Int} (h : TellsSize s size) : s ≠ [] := by
  cases h with
  | alone hleft hspelled hright => simp [hspelled.ne_nil]
  | extended hleft hspelled hspaces => simp

theorem TakesChunk.length_lt {octets piece behind : Bytes} (h : TakesChunk octets piece behind) :
    behind.length < octets.length := by
  obtain ⟨hline, hsize, hsize_ne, hlength, hending⟩ := h
  have hsizeLine := List.length_pos_iff.mpr hsize.ne_nil
  simp only [Latin.length_decode, List.length_append] at hsizeLine ⊢
  omega

/-- Where a line tells a size and so many octets follow, there is a chunk. -/
theorem takesChunk_of_covered {sizeLine rest : Bytes} (hline : Bytes.LineBefore sizeLine rest)
    {size : Int} (hsize : TellsSize (Latin.decode sizeLine) size) (hsize_ne : size ≠ 0)
    (hcovered : size.toNat ≤ rest.length) :
    TakesChunk (sizeLine ++ rest) (rest.take size.toNat)
      (Bytes.afterLine (rest.drop size.toNat)) := by
  have hrest : rest = rest.take size.toNat ++ (Bytes.firstLine (rest.drop size.toNat) ++
      Bytes.afterLine (rest.drop size.toNat)) := by
    rw [Bytes.firstLine_append_afterLine, List.take_append_drop]
  rw [hrest] at hline
  have htakes := TakesChunk.intro hline hsize hsize_ne
    (List.length_take_of_le hcovered) (Bytes.lineBefore_firstLine (rest.drop size.toNat))
  rwa [← hrest] at htakes

/-- How some octets are decoded: as a body, as far as a chunk that lacks too much, or as far as a
defect. -/
inductive Outcome (octets : Bytes) : Collected Wire → Prop
  | body {pieces : List Bytes} {left : Wire} (hdecodes : Decodes octets pieces left.rest) :
      Outcome octets ⟨pieces, none, left⟩
  | exceeds {pieces : List Bytes} {left : Wire} (hexceeds : Exceeds octets) :
      Outcome octets ⟨pieces, some (.value .tooLarge), left⟩
  | defect {pieces : List Bytes} {defect : BodyDefect} {left : Wire} :
      Outcome octets ⟨pieces, some (.body defect), left⟩

theorem Outcome.cons {octets piece behind : Bytes} {decoded : Collected Wire}
    (h : Outcome behind decoded) (hchunk : TakesChunk octets piece behind) :
    Outcome octets (decoded.cons piece) := by
  cases h with
  | body hdecodes => exact .body (.chunk hchunk hdecodes)
  | exceeds hexceeds => exact .exceeds (.later hchunk hexceeds)
  | defect => exact .defect

theorem Outcome.of_sizeLine {sizeLine rest : Bytes} (hline : Bytes.LineBefore sizeLine rest)
    {size : Int} (hsize : TellsSize (Latin.decode sizeLine) size) (lines : List Bytes)
    (hrest : ∀ piece behind, TakesChunk (sizeLine ++ rest) piece behind →
      ∀ lines, Outcome behind (decodeAll false ⟨behind, lines⟩)) :
    Outcome (sizeLine ++ rest) (decodeAll false ⟨sizeLine ++ rest, lines⟩) := by
  by_cases hzero : size = 0
  · subst hzero
    rw [decodeAll_of_tellsSize hline hsize, decodeAnnounced, if_pos rfl]
    exact .body (.closing hline hsize (takesTrailer_dropTrailer ⟨rest, _⟩))
  by_cases hcovered : size.toNat ≤ rest.length
  · have hchunk := takesChunk_of_covered hline hsize hzero hcovered
    obtain ⟨taken, htaken⟩ := hchunk.decodeAll_eq lines
    rw [htaken]
    exact (hrest _ _ hchunk taken).cons hchunk
  · rw [decodeAll_of_tellsSize hline hsize, decodeAnnounced, if_neg hzero, if_neg hcovered,
      Failure.ofMissing]
    by_cases hlarge : Nat.pow 10 Integer.maxDigits ≤ size.toNat - rest.length
    · rw [if_pos hlarge]
      exact .exceeds (.here hline hsize hlarge)
    · rw [if_neg hlarge]
      exact .defect

theorem outcome_decodeAll (octets : Bytes) (lines : List Bytes) :
    Outcome octets (decodeAll false ⟨octets, lines⟩) := by
  -- By what is left behind a chunk.
  induction hlength : octets.length using Nat.strong_induction_on generalizing octets lines with
  | _ length ih =>
      subst hlength
      have hline := Bytes.lineBefore_firstLine octets
      have hsplit := Bytes.firstLine_append_afterLine octets
      cases hsize : lineSize (Bytes.firstLine octets) with
      | error failure =>
          obtain ⟨defect, rfl⟩ := lineSize_failure hsize
          rw [decodeAll_false_eq]
          simp only [hsize]
          exact .defect
      | ok size =>
          have houtcome := Outcome.of_sizeLine hline (lineSize_eq_ok_iff.mp hsize) lines
          rw [hsplit] at houtcome
          exact houtcome fun piece behind hchunk lines => ih _ hchunk.length_lt behind lines rfl

end Chunked

/-! ## Reading -/

namespace Response

/-- Reading a chunked body over any connection ends normally exactly over the octets that pass for
one, with the pieces of their chunks. -/
theorem collect_chunks_iff {reader : Reader} {octets : Bytes} (hsupplies : reader.Supplies octets)
    (hlines : ∀ line ∈ (Chunked.decodeAll false (.ofBytes octets)).left.lines,
      line.length ≤ 65536) :
    (∀ pieces rest, Chunked.Decodes octets pieces rest ↔
      (collect (.chunks false) reader).pieces = pieces ∧
        (collect (.chunks false) reader).failure = none ∧
        (collect (.chunks false) reader).left.Supplies rest) ∧
    (Chunked.Exceeds octets ↔
      (collect (.chunks false) reader).failure = some (.value .tooLarge)) ∧
    ((collect (.chunks false) reader).failure = none ∨
      (collect (.chunks false) reader).failure = some (.value .tooLarge) ∨
      ∃ defect, (collect (.chunks false) reader).failure = some (.body defect)) := by
  have hlimit : (Chunked.decodeAll false (.ofBytes octets)).left.WithinLimit := by
    intro line hline
    have hline := hlines line hline
    unfold Chunked.lineLimit
    omega
  have hwire : reader.Supplies (Wire.ofBytes octets).rest := hsupplies
  obtain ⟨hpieces, hfailure, hleft⟩ := Chunked.collect_chunks hwire hlimit
  rw [hpieces, hfailure]
  have hdecodes : ∀ pieces rest, Chunked.Decodes octets pieces rest →
      ∃ taken, Chunked.decodeAll false (.ofBytes octets) = ⟨pieces, none, ⟨rest, taken⟩⟩ :=
    fun pieces rest h => h.decodeAll_eq []
  have hexceeds : Chunked.Exceeds octets →
      (Chunked.decodeAll false (.ofBytes octets)).failure = some (.value .tooLarge) :=
    fun h => h.decodeAll_failure []
  have houtcome : Chunked.Outcome octets (Chunked.decodeAll false (.ofBytes octets)) :=
    Chunked.outcome_decodeAll octets []
  generalize Chunked.decodeAll false (.ofBytes octets) = decoded at *
  refine ⟨fun pieces rest => ⟨fun h => ?_, fun h => ?_⟩, ⟨hexceeds, fun h => ?_⟩, ?_⟩
  · obtain ⟨taken, rfl⟩ := hdecodes pieces rest h
    exact ⟨rfl, rfl, hleft⟩
  · obtain ⟨rfl, hsound, hrest⟩ := h
    cases houtcome with
    | body hbody =>
        rw [← hrest.leftover_eq, hleft.leftover_eq]
        exact hbody
    | exceeds | defect => cases hsound
  · cases houtcome with
    | exceeds hlacks => exact hlacks
    | body | defect => cases h
  · cases houtcome with
    | body => exact Or.inl rfl
    | exceeds => exact Or.inr (Or.inl rfl)
    | defect => exact Or.inr (Or.inr ⟨_, rfl⟩)

/-- A sign, a mark, underscores, text behind a chunk, a negative size, and an end of the data in
zeros: all of it passes. -/
theorem collect_chunks_iff_lenient :
    let octets := Utf8.encode "+0X_1_0;a\r\n0123456789abcdefZ\n-1\nY\n00".toList
    let reader := Reader.ofTransport (.ofArrivals false [.data octets])
    reader.Supplies octets ∧
      (∀ line ∈ (Chunked.decodeAll false (.ofBytes octets)).left.lines, line.length ≤ 65536) ∧
      Chunked.Decodes octets [Utf8.encode "0123456789abcdef".toList, []] [] := by
  intro octets reader
  have hsupplies : reader.Supplies octets := Reader.supplies_ofTransport rfl
  have hlines : ∀ line ∈ (Chunked.decodeAll false (.ofBytes octets)).left.lines,
      line.length ≤ 65536 := by decide +kernel
  refine ⟨hsupplies, hlines, ((collect_chunks_iff hsupplies hlines).1 _ _).mpr ⟨?_, ?_, ?_⟩⟩
  · decide +kernel
  · decide +kernel
  · exact ⟨by decide +kernel, by decide +kernel, by decide +kernel⟩

/-- A negative size passes for that of a chunk without octets. -/
theorem collect_gives_empty_piece :
    ¬ ∀ (reader : Reader) (octets : Bytes), reader.Supplies octets →
      (∀ line ∈ (Chunked.decodeAll false (.ofBytes octets)).left.lines, line.length ≤ 65536) →
      (collect (.chunks false) reader).failure = none →
      ∀ piece ∈ (collect (.chunks false) reader).pieces, piece ≠ [] := by
  intro hclaim
  have hempty := hclaim
    (.ofTransport (.ofArrivals false [.data (Utf8.encode "-5\r\n\r\n0\r\n\r\n".toList)])) _
    (Reader.supplies_ofTransport rfl) (by decide +kernel) (by decide +kernel) []
    (by decide +kernel)
  exact hempty rfl

end Response

end HttpFetch
