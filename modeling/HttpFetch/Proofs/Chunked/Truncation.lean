import HttpFetch.Proofs.Chunked.Grammar

/-!
# Chunked bodies that are cut short

A connection may end anywhere inside a body.  The beginning of the body that has arrived is decoded
as far as it goes: the chunks that are there whole, and then a part of a line or of a chunk.  The
part of a line still tells a size, by the digits that are left of it.  If these are zeros, the part
tells that no more chunks come, and the beginning passes for a whole body; `decodeAll_of_cut`
says that this is the only way to lose chunks without a failure.
-/

namespace HttpFetch

/-! ## Beginnings of lines -/

namespace Bytes

/-- A beginning of two parts ends in the first of them or in the second. -/
theorem prefix_or_of_prefix_append {part front back : Bytes} (h : part <+: front ++ back) :
    part <+: front ∨ ∃ rest, part = front ++ rest ∧ rest <+: back := by
  rcases List.prefix_or_prefix_of_prefix h (List.prefix_append front back) with hfront | ⟨rest, rfl⟩
  · exact Or.inl hfront
  · exact Or.inr ⟨rest, rfl, (List.prefix_append_right_inj front).mp h⟩

/-- A beginning of a line is a line of its own where the data ends. -/
theorem IsLine.firstLine_of_cut {line part : Bytes} (h : IsLine line) (hpart : part <+: line) :
    firstLine part = part ∧ afterLine part = [] := by
  obtain ⟨text, htext, rfl⟩ := h
  rcases List.prefix_concat_iff.mp hpart with rfl | hpart
  · exact firstLine_of_line htext []
  · exact firstLine_of_notMem fun hmem => htext (hpart.subset hmem)

end Bytes

/-! ## Beginnings of numbers -/

namespace Digit

theorem le_foldl {base : Nat} (hbase : 1 ≤ base) (digits : List Nat) (n : Nat) :
    n ≤ digits.foldl (fun n d => n * base + d) n := by
  induction digits generalizing n with
  | nil => exact le_rfl
  | cons d digits ih =>
      calc n ≤ n * base := Nat.le_mul_of_pos_right n hbase
        _ ≤ n * base + d := Nat.le_add_right _ _
        _ ≤ _ := ih (n * base + d)

theorem value_le_append {base : Nat} (hbase : 1 ≤ base) (digits more : List Nat) :
    value base digits ≤ value base (digits ++ more) := by
  rw [value, value, List.foldl_append]
  exact le_foldl hbase more _

theorem value_eq_zero {base : Nat} (hbase : 1 ≤ base) {digits : List Nat}
    (h : value base digits = 0) : ∀ d ∈ digits, d = 0 := by
  induction digits using List.reverseRecOn with
  | nil => exact fun d hd => absurd hd List.not_mem_nil
  | append_singleton digits d ih =>
      have hfront := Nat.le_zero.mp ((value_le_append hbase digits [d]).trans h.le)
      rw [value, List.foldl_append, List.foldl_cons, List.foldl_nil] at h
      rw [List.forall_mem_append, List.forall_mem_singleton]
      exact ⟨ih hfront, (Nat.add_eq_zero_iff.mp h).2⟩

theorem value_of_zeros {digits : Text} (h : ∀ c ∈ digits, c = '0') :
    value 16 (digits.filterMap hex?) = 0 := by
  induction digits with
  | nil => rfl
  | cons c digits ih =>
      rw [List.forall_mem_cons] at h
      obtain ⟨rfl, hdigits⟩ := h
      exact ih hdigits

/-- Of hexadecimal digits that make zero, all are zeros. -/
theorem eq_zero_of_value {digits : Text} (hover : digits.Over Text.hexDigits)
    (h : value 16 (digits.filterMap hex?) = 0) : ∀ c ∈ digits, c = '0' := by
  have hdigit := hover.forall_mem
    (P := fun c => (hex? c).isSome = true ∧ (hex? c = some 0 → c = '0')) (by decide)
  intro c hc
  obtain ⟨hsome, hzero⟩ := hdigit c hc
  obtain ⟨d, hd⟩ := Option.isSome_iff_exists.mp hsome
  have hmem : d ∈ digits.filterMap hex? := List.mem_filterMap.mpr ⟨c, hc, hd⟩
  rw [value_eq_zero (by decide) h d hmem] at hd
  exact hzero hd

end Digit

namespace Latin

theorem exists_of_cut_encode {s : Text} (hascii : ∀ c ∈ s, c.toNat < 128) {part : Bytes}
    (h : part <+: Utf8.encode s) : ∃ t : Text, t <+: s ∧ part = Utf8.encode t := by
  induction s generalizing part with
  | nil => exact ⟨[], List.prefix_refl _, List.prefix_nil.mp h⟩
  | cons c s ih =>
      rw [List.forall_mem_cons] at hascii
      have hchar : ∀ t, Utf8.encode (c :: t) = UInt8.ofNat c.toNat :: Utf8.encode t := by
        intro t
        rw [Utf8.encode, List.flatMap_cons, Utf8.encodeChar, if_pos (by omega)]
        rfl
      rw [hchar] at h
      cases part with
      | nil => exact ⟨[], List.nil_prefix, rfl⟩
      | cons octet part =>
          obtain ⟨rfl, hrest⟩ := List.cons_prefix_cons.mp h
          obtain ⟨t, ht, rfl⟩ := ih hascii.2 hrest
          exact ⟨c :: t, List.cons_prefix_cons.mpr ⟨rfl, ht⟩, (hchar t).symm⟩

end Latin

namespace Chunked

/-! ## Beginnings of size lines -/

/-- A beginning of a size line has a beginning of its digits in front, all of them if anything
follows. -/
theorem SizeLine.exists_of_cut (line : SizeLine) {part : Bytes} (hpart : part <+: line.octets) :
    ∃ (digits : Text) (blanks more : Bytes), digits <+: line.digits ∧
      part = Utf8.encode digits ++ blanks ++ more ∧
      (digits = line.digits ∨ part = Utf8.encode digits) ∧
      (∀ octet ∈ blanks, octet ∈ Bytes.blanks) ∧ (more = [] ∨ ∃ rest, more = 59 :: rest) := by
  have hpadding : ∀ octet ∈ line.padding, octet ∈ Bytes.blanks := by
    intro octet hoctet
    rcases line.padding_blank octet hoctet with rfl | rfl <;> decide
  unfold octets at hpart
  rw [List.append_assoc, List.append_assoc] at hpart
  rcases Bytes.prefix_or_of_prefix_append hpart with hdigits | ⟨behind, rfl, hbehind⟩
  · obtain ⟨digits, hbegins, rfl⟩ := Latin.exists_of_cut_encode line.digits_ascii hdigits
    exact ⟨digits, [], [], hbegins, by simp, Or.inr rfl, by simp, Or.inl rfl⟩
  rcases Bytes.prefix_or_of_prefix_append hbehind with hblanks | ⟨rest, rfl, hrest⟩
  · exact ⟨line.digits, behind, [], List.prefix_refl _, by simp, Or.inl rfl,
      fun octet hoctet => hpadding octet (hblanks.subset hoctet), Or.inl rfl⟩
  rcases line.extension_head with hnone | ⟨more, hmore⟩
  · rw [hnone, List.nil_append] at hrest
    refine ⟨line.digits, line.padding ++ rest, [], List.prefix_refl _, by simp, Or.inl rfl, ?_,
      Or.inl rfl⟩
    rw [List.forall_mem_append]
    exact ⟨hpadding, fun octet hoctet =>
      Bytes.mem_blanks_of_lineEnd line.ending_mem octet (hrest.subset hoctet)⟩
  · refine ⟨line.digits, line.padding, rest, List.prefix_refl _, by simp, Or.inl rfl, hpadding, ?_⟩
    rw [hmore, List.cons_append] at hrest
    rcases List.prefix_cons_iff.mp hrest with rfl | ⟨rest, rfl, -⟩
    · exact Or.inl rfl
    · exact Or.inr ⟨rest, rfl⟩

/-- Where the data ends inside a size line, or right after it, the digits that are left tell the
size. -/
theorem SizeLine.decodeNext_of_cut (line : SizeLine) {part : Bytes} (hpart : part <+: line.octets)
    (hne : part ≠ []) (lines : List Bytes) :
    ∃ digits : Text, digits ≠ [] ∧ digits <+: line.digits ∧
      (digits = line.digits ∨ part = Utf8.encode digits) ∧
      decodeNext ⟨part, lines⟩ =
        decodeAnnounced (Digit.value 16 (digits.filterMap Digit.hex?) : Int)
          ⟨[], lines ++ [part]⟩ := by
  obtain ⟨digits, blanks, more, hbegins, hwritten, hdigits, hblanks, hmore⟩ :=
    line.exists_of_cut hpart
  obtain ⟨hfirst, hafter⟩ := line.isLine.firstLine_of_cut hpart
  have hdigits_ne : digits ≠ [] := by
    rintro rfl
    rcases hdigits with hnone | hnone
    · exact line.digits_ne_nil hnone.symm
    · exact hne hnone
  have hover : digits.Over Text.hexDigits := fun c hc => line.digits_over c (hbegins.subset hc)
  have hsize : lineSize part = _ := hwritten ▸ lineSize_of_digits hdigits_ne hover hblanks hmore
  refine ⟨digits, hdigits_ne, hbegins, hdigits, ?_⟩
  rw [decodeNext_eq]
  simp only [hfirst, hafter, hsize, Wire.skipLine]

theorem SizeLine.value_le (line : SizeLine) {digits : Text} (h : digits <+: line.digits) :
    Digit.value 16 (digits.filterMap Digit.hex?) ≤ line.size := by
  obtain ⟨more, hmore⟩ := h
  rw [size, ← hmore, List.filterMap_append]
  exact Digit.value_le_append (by decide) _ _

/-! ## What becomes of a beginning -/

/-- Chunks of which a beginning ends inside the zeros in front of a size, and the chunks before. -/
def EndsInZeros (chunks : List Chunk) (part : Bytes) (earlier : List Chunk) : Prop :=
  ∃ (chunk : Chunk) (later : List Chunk) (zeros : Text), chunks = earlier ++ chunk :: later ∧
    zeros ≠ [] ∧ zeros <+: chunk.sizeLine.digits ∧ (∀ c ∈ zeros, c = '0') ∧
    part = (earlier.map Chunk.written).flatten ++ Utf8.encode zeros

theorem EndsInZeros.cons {chunks earlier : List Chunk} {part : Bytes}
    (h : EndsInZeros chunks part earlier) (chunk : Chunk) :
    EndsInZeros (chunk :: chunks) (chunk.written ++ part) (chunk :: earlier) := by
  obtain ⟨next, later, zeros, rfl, hne, hbegins, hzeros, rfl⟩ := h
  exact ⟨next, later, zeros, rfl, hne, hbegins, hzeros, by simp⟩

/-- How a beginning of a body is decoded: into the chunks before the zeros that it ends in, into all
chunks, or with a failure.  A failure that does not tell of the body needs a chunk too large for its
size to be written in decimal. -/
inductive Truncated (chunks : List Chunk) (part : Bytes) : Collected Wire → Prop
  | zeros {earlier : List Chunk} {left : Wire} (hends : EndsInZeros chunks part earlier) :
      Truncated chunks part ⟨earlier.map Chunk.octets, none, left⟩
  | whole {left : Wire} : Truncated chunks part ⟨chunks.map Chunk.octets, none, left⟩
  | cut {pieces : List Bytes} {defect : BodyDefect} {left : Wire} :
      Truncated chunks part ⟨pieces, some (.body defect), left⟩
  | large {pieces : List Bytes} {left : Wire} (chunk : Chunk) (hmem : chunk ∈ chunks)
      (hlarge : Nat.pow 10 Integer.maxDigits ≤ chunk.octets.length) :
      Truncated chunks part ⟨pieces, some (.value .tooLarge), left⟩

namespace Truncated

variable {chunks : List Chunk} {part : Bytes}

theorem ofMissing {chunk : Chunk} (hmem : chunk ∈ chunks) {missing : Nat}
    (hmissing : missing ≤ chunk.octets.length) (pieces : List Bytes) (left : Wire) :
    Truncated chunks part ⟨pieces, some (.ofMissing missing), left⟩ := by
  unfold Failure.ofMissing
  split
  next hlarge => exact .large chunk hmem (Nat.le_trans hlarge hmissing)
  next => exact .cut

theorem cons {decoded : Collected Wire} (h : Truncated chunks part decoded) (chunk : Chunk) :
    Truncated (chunk :: chunks) (chunk.written ++ part) (decoded.cons chunk.octets) := by
  cases h with
  | zeros hends => exact .zeros (hends.cons chunk)
  | whole => exact .whole
  | cut => exact .cut
  | large next hmem hlarge => exact .large next (List.mem_cons_of_mem chunk hmem) hlarge

end Truncated

/-- Every line taken is one of the lines before or a beginning of one of the lines to come. -/
def TakesFrom (before ahead taken : List Bytes) : Prop :=
  ∀ line ∈ taken, line ∈ before ∨ ∃ whole ∈ ahead, line <+: whole

namespace TakesFrom

variable {before ahead taken : List Bytes}

theorem refl (before ahead : List Bytes) : TakesFrom before ahead before :=
  fun _ hline => Or.inl hline

theorem append (h : TakesFrom before ahead taken) {line whole : Bytes} (hmem : whole ∈ ahead)
    (hline : line <+: whole) : TakesFrom before ahead (taken ++ [line]) := by
  intro next hnext
  rcases List.mem_append.mp hnext with hnext | hnext
  · exact h next hnext
  · rw [List.mem_singleton] at hnext
    exact Or.inr ⟨whole, hmem, hnext ▸ hline⟩

theorem mono (h : TakesFrom before ahead taken) {ahead' : List Bytes} (hsubset : ahead ⊆ ahead') :
    TakesFrom before ahead' taken :=
  fun line hline => (h line hline).imp_right fun ⟨whole, hmem, hprefix⟩ =>
    ⟨whole, hsubset hmem, hprefix⟩

theorem trans {between : List Bytes} (h : TakesFrom before ahead between)
    (hnext : TakesFrom between ahead taken) : TakesFrom before ahead taken := by
  intro line hline
  rcases hnext line hline with hbetween | hahead
  · exact h line hbetween
  · exact Or.inr hahead

/-- Lines to come that have been taken whole count among those before. -/
theorem of_append {passed : List Bytes} (h : TakesFrom (before ++ passed) ahead taken)
    (hpassed : passed ⊆ ahead) : TakesFrom before ahead taken := by
  intro line hline
  rcases h line hline with hbefore | hahead
  · rcases List.mem_append.mp hbefore with hbefore | hline
    · exact Or.inl hbefore
    · exact Or.inr ⟨line, hpassed hline, List.prefix_refl line⟩
  · exact Or.inr hahead

/-- Beginnings of lines within a limit are within it. -/
theorem withinLimit {left : Wire} (h : TakesFrom [] ahead left.lines)
    (hahead : ∀ line ∈ ahead, line.length ≤ 65536) : left.WithinLimit := by
  intro line hline
  rcases h line hline with hnone | ⟨whole, hwhole, hbegins⟩
  · exact absurd hnone List.not_mem_nil
  · have hpart := hbegins.length_le
    have hwhole := hahead whole hwhole
    unfold lineLimit
    omega

end TakesFrom

/-! ## Beginnings of bodies -/

theorem dropTrailer_nil (lines : List Bytes) :
    dropTrailer ⟨[], lines⟩ = ⟨[], lines ++ [[]]⟩ := by
  rw [dropTrailer]
  rfl

/-- Where the data ends inside a trailer, only beginnings of its lines are taken. -/
theorem dropTrailer_of_cut {trailer : List Bytes} (hlines : ∀ line ∈ trailer, Bytes.IsLine line)
    (hblank : ∀ line ∈ trailer, line.all Bytes.isBlank = false) {blankLine : Bytes}
    (hend : Bytes.IsLine blankLine) {part : Bytes} (hpart : part <+: trailer.flatten ++ blankLine)
    (lines : List Bytes) :
    TakesFrom lines (trailer ++ [blankLine]) (dropTrailer ⟨part, lines⟩).lines := by
  -- A line that is cut is the last one but for the end of the data.
  have hcut : ∀ {ahead : List Bytes} {line part : Bytes}, Bytes.IsLine line → part <+: line →
      line ∈ ahead → ∀ lines, TakesFrom lines ahead (dropTrailer ⟨part, lines⟩).lines := by
    intro ahead line part hline hpart hmem lines
    obtain ⟨hfirst, hafter⟩ := hline.firstLine_of_cut hpart
    have htakes := (TakesFrom.refl lines ahead).append hmem hpart
    rw [dropTrailer]
    simp only [hfirst, hafter, Wire.skipLine, dropTrailer_nil]
    split
    · exact htakes
    · exact htakes.append hmem List.nil_prefix
  induction trailer generalizing part lines with
  | nil => exact hcut hend (by simpa using hpart) (List.mem_singleton_self _) lines
  | cons line trailer ih =>
      rw [List.forall_mem_cons] at hlines hblank
      rw [List.flatten_cons, List.append_assoc] at hpart
      rcases Bytes.prefix_or_of_prefix_append hpart with hline | ⟨behind, rfl, hbehind⟩
      · exact hcut hlines.1 hline List.mem_cons_self lines
      · obtain ⟨hfirst, hafter⟩ := hlines.1.firstLine_append behind
        have hrest := ih hlines.2 hblank.2 hbehind (lines ++ [line])
        rw [dropTrailer]
        simp only [hfirst, hafter, hblank.1, Wire.skipLine, Bool.false_eq_true, dite_false]
        exact (hrest.mono (List.subset_cons_self _ _)).of_append
          (List.cons_subset.mpr ⟨List.mem_cons_self, List.nil_subset _⟩)

theorem decodeAnnounced_nil (size : Nat) (lines : List Bytes) :
    decodeAnnounced (size : Int) ⟨[], lines⟩ =
      if size = 0 then .ok none ⟨[], lines ++ [[]]⟩ else .error (.ofMissing size) ⟨[], lines⟩ := by
  unfold decodeAnnounced
  by_cases hzero : size = 0
  · subst hzero
    rw [if_pos rfl, if_pos (by rfl), dropTrailer_nil]
  · rw [if_neg hzero, if_neg (by omega), if_neg (by simpa using hzero)]
    rfl

/-- Where the data ends in a size line, nothing is decoded, and that the body is cut goes unnoticed
only if the digits that are left make zero. -/
theorem decodeAll_of_cut_sizeLine (line : SizeLine) {part : Bytes} (hpart : part <+: line.octets)
    (lines : List Bytes) :
    ∃ failure left, decodeAll false ⟨part, lines⟩ = ⟨[], failure, left⟩ ∧
      TakesFrom lines [line.octets] left.lines ∧
      (failure = some (.body .cutChunks) ∨
        ∃ digits : Text, digits ≠ [] ∧ digits <+: line.digits ∧
          (digits = line.digits ∨ part = Utf8.encode digits) ∧
          failure = (if Digit.value 16 (digits.filterMap Digit.hex?) = 0 then none
            else some (.ofMissing (Digit.value 16 (digits.filterMap Digit.hex?))))) := by
  have hself : line.octets ∈ [line.octets] := List.mem_singleton_self _
  by_cases hnone : part = []
  · subst hnone
    rw [decodeAll_nil]
    exact ⟨_, _, rfl, (TakesFrom.refl _ _).append hself hpart, Or.inl rfl⟩
  · obtain ⟨digits, hne, hbegins, hdigits, hnext⟩ := line.decodeNext_of_cut hpart hnone lines
    have htakes := (TakesFrom.refl lines [line.octets]).append hself hpart
    rw [decodeAnnounced_nil] at hnext
    have hchunk : decodeChunk false ⟨part, lines⟩ = _ := hnext
    rw [decodeAll_eq, hchunk]
    by_cases hzero : Digit.value 16 (digits.filterMap Digit.hex?) = 0
    · rw [if_pos hzero]
      exact ⟨_, _, rfl, htakes.append hself List.nil_prefix,
        Or.inr ⟨digits, hne, hbegins, hdigits, (if_pos hzero).symm⟩⟩
    · rw [if_neg hzero]
      exact ⟨_, _, rfl, htakes, Or.inr ⟨digits, hne, hbegins, hdigits, (if_neg hzero).symm⟩⟩

/-- Where the data ends inside the octets of a chunk or after them, no more chunks are decoded. -/
theorem decodeAll_of_cut_octets (chunk : Chunk) {part : Bytes}
    (hpart : part <+: chunk.octets ++ chunk.ending) (lines : List Bytes) :
    ∃ pieces failure left, decodeAll false ⟨chunk.sizeLine.octets ++ part, lines⟩ =
        ⟨pieces, some failure, left⟩ ∧
      TakesFrom lines chunk.lines left.lines ∧
      (failure = .body .cutChunks ∨
        ∃ missing, missing ≤ chunk.octets.length ∧ failure = .ofMissing missing) := by
  have hpos := List.length_pos_iff.mpr chunk.octets_ne_nil
  have hsizeLine : chunk.sizeLine.octets ∈ chunk.lines := List.mem_cons_self
  have hending : chunk.ending ∈ chunk.lines := List.mem_cons_of_mem _ List.mem_cons_self
  have htakes := (TakesFrom.refl lines chunk.lines).append hsizeLine (List.prefix_refl _)
  obtain ⟨hfirst, hafter⟩ := chunk.sizeLine.isLine.firstLine_append part
  have hnext : decodeChunk false ⟨chunk.sizeLine.octets ++ part, lines⟩ =
      decodeAnnounced (chunk.octets.length : Int) ⟨part, lines ++ [chunk.sizeLine.octets]⟩ := by
    change decodeNext _ = _
    rw [decodeNext_eq]
    simp only [hfirst, hafter, chunk.sizeLine.lineSize_octets, chunk.size_eq, Wire.skipLine]
  rw [decodeAnnounced, if_neg (by omega), Int.toNat_natCast] at hnext
  by_cases hshort : part.length < chunk.octets.length
  · rw [if_neg (Nat.not_le.mpr hshort)] at hnext
    rw [decodeAll_eq, hnext]
    exact ⟨_, _, _, rfl, htakes, Or.inr ⟨_, Nat.sub_le _ _, rfl⟩⟩
  · obtain ⟨behind, rfl⟩ := List.prefix_of_prefix_length_le (List.prefix_append _ _) hpart
      (Nat.not_lt.mp hshort)
    rw [List.prefix_append_right_inj] at hpart
    obtain ⟨hfirst, hafter⟩ :=
      (Bytes.isLine_lineEnd chunk.ending_mem).firstLine_of_cut hpart
    rw [if_pos (by simp), List.drop_left] at hnext
    rw [decodeAll_eq, hnext]
    simp only [decodeAll_true, Wire.skipLine, hfirst, hafter, decodeAll_nil]
    exact ⟨_, _, _, rfl, (htakes.append hending hpart).append hending List.nil_prefix,
      Or.inl rfl⟩

/-- Where the data ends inside a chunk, a failure tells so, or zeros of its size are left. -/
theorem decodeAll_of_cut_chunk (chunk : Chunk) {part : Bytes} (hpart : part <+: chunk.written)
    (later : List Chunk) (lines : List Bytes) :
    Truncated (chunk :: later) part (decodeAll false ⟨part, lines⟩) ∧
      TakesFrom lines chunk.lines (decodeAll false ⟨part, lines⟩).left.lines := by
  have hmem : chunk ∈ chunk :: later := List.mem_cons_self
  rw [Chunk.written, List.append_assoc] at hpart
  rcases Bytes.prefix_or_of_prefix_append hpart with hsize | ⟨behind, rfl, hbehind⟩
  · obtain ⟨failure, left, hdecode, htakes, hfailure⟩ :=
      decodeAll_of_cut_sizeLine chunk.sizeLine hsize lines
    rw [hdecode]
    refine ⟨?_, htakes.mono (List.cons_subset.mpr ⟨List.mem_cons_self, List.nil_subset _⟩)⟩
    rcases hfailure with rfl | ⟨digits, hne, hbegins, hdigits, rfl⟩
    · exact .cut
    split
    next hzero =>
      rcases hdigits with rfl | rfl
      · -- The digits of a chunk do not make zero.
        have hpos := List.length_pos_iff.mpr chunk.octets_ne_nil
        exact absurd (chunk.size_eq.symm.trans hzero) hpos.ne'
      · have hover : digits.Over Text.hexDigits :=
          fun c hc => chunk.sizeLine.digits_over c (hbegins.subset hc)
        have hends : EndsInZeros (chunk :: later) (Utf8.encode digits) [] :=
          ⟨chunk, later, digits, rfl, hne, hbegins, Digit.eq_zero_of_value hover hzero, rfl⟩
        exact .zeros hends
    next =>
      exact .ofMissing hmem ((chunk.sizeLine.value_le hbegins).trans chunk.size_eq.le) _ _
  · obtain ⟨pieces, failure, left, hdecode, htakes, hfailure⟩ :=
      decodeAll_of_cut_octets chunk hbehind lines
    rw [hdecode]
    refine ⟨?_, htakes⟩
    rcases hfailure with rfl | ⟨missing, hmissing, hfailure⟩
    · exact .cut
    · rw [hfailure]
      exact .ofMissing hmem hmissing _ _

/-- Where the data ends behind the chunks, all of them have been decoded. -/
theorem decodeAll_of_cut_closing (closing : Closing) {part : Bytes}
    (hpart : part <+: closing.written) (lines : List Bytes) :
    Truncated [] part (decodeAll false ⟨part, lines⟩) ∧
      TakesFrom lines closing.lines (decodeAll false ⟨part, lines⟩).left.lines := by
  rw [Closing.written, List.append_assoc] at hpart
  rcases Bytes.prefix_or_of_prefix_append hpart with hsize | ⟨behind, rfl, hbehind⟩
  · obtain ⟨failure, left, hdecode, htakes, hfailure⟩ :=
      decodeAll_of_cut_sizeLine closing.sizeLine hsize lines
    rw [hdecode]
    refine ⟨?_, htakes.mono (List.cons_subset.mpr ⟨List.mem_cons_self, List.nil_subset _⟩)⟩
    rcases hfailure with rfl | ⟨digits, -, hbegins, -, rfl⟩
    · exact .cut
    · have hzero := Nat.le_zero.mp ((closing.sizeLine.value_le hbegins).trans closing.size_eq.le)
      rw [if_pos hzero]
      exact .whole
  · obtain ⟨hfirst, hafter⟩ := closing.sizeLine.isLine.firstLine_append behind
    have hnext : decodeChunk false ⟨closing.sizeLine.octets ++ behind, lines⟩ =
        .ok none (dropTrailer ⟨behind, lines ++ [closing.sizeLine.octets]⟩) := by
      change decodeNext _ = _
      rw [decodeNext_eq]
      simp only [hfirst, hafter, closing.sizeLine.lineSize_octets, closing.size_eq, Wire.skipLine]
      rw [decodeAnnounced, if_pos (by rfl)]
    have htrailer := dropTrailer_of_cut closing.trailer_isLine closing.trailer_not_blank
      (Bytes.isLine_lineEnd closing.blankLine_mem) hbehind (lines ++ [closing.sizeLine.octets])
    rw [decodeAll_eq, hnext]
    refine ⟨.whole, (htrailer.mono (List.subset_cons_self _ _)).of_append ?_⟩
    exact List.cons_subset.mpr ⟨List.mem_cons_self, List.nil_subset _⟩

/-- A beginning of a body is decoded into all its octets or with a failure, unless it ends inside
zeros in front of the size of a chunk.  No line is taken that is longer than those of the body. -/
theorem decodeAll_of_cut (body : Body) {part : Bytes} (hpart : part <+: body.written)
    (lines : List Bytes) :
    Truncated body.chunks part (decodeAll false ⟨part, lines⟩) ∧
      TakesFrom lines body.lines (decodeAll false ⟨part, lines⟩).left.lines := by
  obtain ⟨chunks, closing⟩ := body
  simp only [Body.written, Body.lines] at hpart ⊢
  induction chunks generalizing lines part with
  | nil => exact decodeAll_of_cut_closing closing hpart lines
  | cons chunk chunks ih =>
      rw [List.map_cons, List.flatten_cons, List.append_assoc] at hpart
      rw [List.flatMap_cons, List.append_assoc]
      rcases Bytes.prefix_or_of_prefix_append hpart with hchunk | ⟨behind, rfl, hbehind⟩
      · obtain ⟨htruncated, htakes⟩ := decodeAll_of_cut_chunk chunk hchunk chunks lines
        exact ⟨htruncated, htakes.mono (List.subset_append_left _ _)⟩
      · obtain ⟨htruncated, htakes⟩ := ih (lines ++ chunk.lines) hbehind
        rw [decodeAll_chunk]
        exact ⟨htruncated.cons chunk, (htakes.mono (List.subset_append_right _ _)).of_append
          (List.subset_append_left _ _)⟩

/-- A beginning that ends in zeros is decoded as if the body ended there. -/
theorem decodeAll_of_endsInZeros {chunks earlier : List Chunk} {part : Bytes}
    (h : EndsInZeros chunks part earlier) (lines : List Bytes) :
    ∃ left, decodeAll false ⟨part, lines⟩ = ⟨earlier.map Chunk.octets, none, left⟩ := by
  obtain ⟨chunk, later, zeros, -, hne, ⟨more, hmore⟩, hzeros, rfl⟩ := h
  have hover : zeros.Over Text.hexDigits :=
    fun c hc => chunk.sizeLine.digits_over c (hmore ▸ List.mem_append_left _ hc)
  have hpart : Utf8.encode zeros <+: chunk.sizeLine.octets := by
    simp only [SizeLine.octets, ← hmore, Utf8.encode_append, List.append_assoc]
    exact List.prefix_append _ _
  obtain ⟨hfirst, hafter⟩ := chunk.sizeLine.isLine.firstLine_of_cut hpart
  have hnone : ∀ octet ∈ ([] : Bytes), octet ∈ Bytes.blanks := by simp
  have hsize := lineSize_of_digits hne hover hnone (Or.inl rfl)
  rw [List.append_nil, List.append_nil, Digit.value_of_zeros hzeros] at hsize
  have hnext : ∀ lines, decodeChunk false ⟨Utf8.encode zeros, lines⟩ =
      .ok none ⟨[], lines ++ [Utf8.encode zeros] ++ [[]]⟩ := by
    intro lines
    change decodeNext _ = _
    rw [decodeNext_eq]
    simp only [hfirst, hafter, hsize, Wire.skipLine, decodeAnnounced_nil, if_true]
  rw [decodeAll_chunks, decodeAll_eq, hnext]
  simp only [Collected.prepend, List.append_nil]
  exact ⟨_, rfl⟩

end Chunked

end HttpFetch
