import HttpFetch.Proofs.Response.Grammar

/-!
# Heads are read as they are printed

A head is printed as its status line, the lines of its fields, and an empty line.  A field is
printed as its name with the first piece of its value, and every further piece on a line of its own
that begins with blanks.  `PrintedHead.read_printed` says that such a head is read as it was meant,
over any connection: fields keep their order and are as many as were printed, the pieces of a value
are joined by single spaces, and what follows the empty line is left.
-/

namespace HttpFetch

namespace ResponseHead

/-- What is trimmed at the end of a line. -/
def isLineEnd (c : Char) : Bool := c = '\r' || c = '\n'

theorem isBlank_of_isLineEnd {c : Char} (h : isLineEnd c = true) : Text.isBlank c = true := by
  rw [isLineEnd, Bool.or_eq_true, decide_eq_true_eq, decide_eq_true_eq] at h
  rcases h with rfl | rfl <;> decide

theorem isLineEnd_of_mem {ending : Bytes} (hending : ending ∈ Bytes.lineEnds) :
    ∀ c ∈ Latin.decode ending, isLineEnd c = true := by
  rw [Bytes.lineEnds, List.mem_cons, List.mem_singleton] at hending
  rcases hending with rfl | rfl <;> exact List.all_eq_true.mp (by decide)

theorem lineText_append (text : Bytes) {ending : Bytes} (hending : ending ∈ Bytes.lineEnds) :
    lineText (text ++ ending) = Text.trimRight isLineEnd (Latin.decode text) := by
  have hdropped : ∀ c ∈ (Latin.decode ending).reverse, isLineEnd c = true :=
    fun c hc => isLineEnd_of_mem hending c (List.mem_reverse.mp hc)
  have hline : lineText (text ++ ending) =
      Text.trimRight isLineEnd (Latin.decode (text ++ ending)) := rfl
  rw [hline, Latin.decode_append, Text.trimRight, List.reverse_append,
    List.dropWhile_append_of_pos hdropped]
  rfl

end ResponseHead

/-- Octets of one line whose text trimming does not change. -/
structure Trimmed (octets : Bytes) : Prop where
  one_line : (10 : UInt8) ∉ octets
  trim_eq : (Latin.decode octets).trim = Latin.decode octets

namespace Trimmed

variable {octets : Bytes}

theorem head_not_blank (h : Trimmed octets) :
    ∀ c ∈ (Latin.decode octets).head?, Text.isBlank c = false := by
  have hleft := (Text.sides_of_trimOf h.trim_eq).1
  generalize Latin.decode octets = text at hleft
  cases text with
  | nil => simp
  | cons c text =>
      rw [Text.trimLeft, List.dropWhile_eq_self_iff] at hleft
      simpa using hleft

theorem trimRight_eq (h : Trimmed octets) :
    Text.trimRight ResponseHead.isLineEnd (Latin.decode octets) = Latin.decode octets := by
  have hlast := Text.trimRight_eq_self_iff.mp (Text.sides_of_trimOf h.trim_eq).2
  apply Text.trimRight_eq_self_iff.mpr
  intro c hc
  by_contra hend
  have hblank := ResponseHead.isBlank_of_isLineEnd (Bool.not_eq_false _ ▸ hend)
  rw [hlast c hc] at hblank
  cases hblank

end Trimmed

/-! ## Fields -/

/-- A line that continues a field: blanks and a further piece of its value. -/
structure FoldedLine where
  blanks : Bytes
  piece : Bytes
  ending : Bytes
  blanks_ne_nil : blanks ≠ []
  blanks_mem : ∀ octet ∈ blanks, octet = 32 ∨ octet = 9
  piece_trimmed : Trimmed piece
  ending_mem : ending ∈ Bytes.lineEnds

namespace FoldedLine

variable (line : FoldedLine)

def octets : Bytes := line.blanks ++ line.piece ++ line.ending

def text : Text := Latin.decode line.piece

theorem isLine : Bytes.IsLine line.octets := by
  apply Bytes.isLine_append _ line.ending_mem
  rw [List.mem_append, not_or]
  refine ⟨fun hmem => ?_, line.piece_trimmed.one_line⟩
  exact absurd (line.blanks_mem 10 hmem) (by decide)

theorem mem_blanks {c : Char} (hc : c ∈ Latin.decode line.blanks) : c = ' ' ∨ c = '\t' := by
  obtain ⟨octet, hoctet, rfl⟩ := List.mem_map.mp hc
  rcases line.blanks_mem octet hoctet with rfl | rfl
  · exact Or.inl rfl
  · exact Or.inr rfl

theorem lineText_octets :
    ResponseHead.lineText line.octets = Latin.decode line.blanks ++ line.text := by
  have hkept : ∀ c ∈ Latin.decode line.blanks, ResponseHead.isLineEnd c = false := by
    intro c hc
    rcases line.mem_blanks hc with rfl | rfl <;> decide
  rw [octets, ResponseHead.lineText_append _ line.ending_mem, Latin.decode_append,
    Text.trimRight_append hkept, line.piece_trimmed.trimRight_eq]
  rfl

/-- A folded line adds a space and its piece to the field before it. -/
theorem addLine_octets (field : Field) (before : Headers) :
    ResponseHead.addLine (field :: before) (ResponseHead.lineText line.octets) =
      { field with value := field.value ++ ' ' :: line.text } :: before := by
  have hblanks : ∀ c ∈ Latin.decode line.blanks, Text.isBlank c = true := by
    intro c hc
    rcases line.mem_blanks hc with rfl | rfl <;> decide
  have htrim : (Latin.decode line.blanks ++ line.text).trim = line.text := by
    rw [Text.trim, Text.trimOf_append_left hblanks]
    exact line.piece_trimmed.trim_eq
  have hcontinues :
      ResponseHead.isContinuation (Latin.decode line.blanks ++ line.text) = true := by
    obtain ⟨octet, rest, hsplit⟩ := List.exists_cons_of_ne_nil line.blanks_ne_nil
    have hfirst : Latin.decodeOctet octet ∈ Latin.decode line.blanks := by
      rw [hsplit]
      exact List.mem_cons_self
    rw [hsplit, ResponseHead.isContinuation]
    rcases line.mem_blanks hfirst with hspace | htab
    · simp [Latin.decode, hspace]
    · simp [Latin.decode, htab]
  rw [line.lineText_octets, ResponseHead.addLine, if_pos hcontinues, htrim]

theorem lineText_ne_nil : ResponseHead.lineText line.octets ≠ [] := by
  have hne := line.blanks_ne_nil
  rw [line.lineText_octets]
  simp [Latin.decode, hne]

end FoldedLine

/-- A field with the first piece of its value, and the lines that continue it. -/
structure PrintedField where
  name : Bytes
  first : Bytes
  ending : Bytes
  folded : List FoldedLine
  name_ne_nil : name ≠ []
  name_trimmed : Trimmed name
  name_colon : (58 : UInt8) ∉ name
  first_trimmed : Trimmed first
  ending_mem : ending ∈ Bytes.lineEnds

namespace PrintedField

variable (printed : PrintedField)

def firstLine : Bytes := printed.name ++ 58 :: 32 :: printed.first ++ printed.ending

def lines : List Bytes := printed.firstLine :: printed.folded.map FoldedLine.octets

/-- The pieces of the value. -/
def pieces : List Text := Latin.decode printed.first :: printed.folded.map FoldedLine.text

def field : Field := ⟨Latin.decode printed.name, [' '].intercalate printed.pieces⟩

theorem firstLine_isLine : Bytes.IsLine printed.firstLine := by
  apply Bytes.isLine_append _ printed.ending_mem
  simp only [List.mem_append, List.mem_cons, not_or]
  exact ⟨printed.name_trimmed.one_line, by decide, by decide, printed.first_trimmed.one_line⟩

theorem lineText_firstLine :
    ResponseHead.lineText printed.firstLine =
      Latin.decode printed.name ++ ':' :: ' ' :: Latin.decode printed.first := by
  have hdecode : Latin.decode (printed.name ++ 58 :: 32 :: printed.first) =
      (Latin.decode printed.name ++ [':']) ++ ' ' :: Latin.decode printed.first := by
    rw [Latin.decode_append, List.append_assoc]
    rfl
  rw [firstLine, ResponseHead.lineText_append _ printed.ending_mem, hdecode,
    Text.trimRight_append_cons _ (by decide), printed.first_trimmed.trimRight_eq, List.append_assoc]
  rfl

/-- The first line of a field adds the field, with the first piece for a value. -/
theorem addLine_firstLine (reversed : Headers) :
    ResponseHead.addLine reversed (ResponseHead.lineText printed.firstLine) =
      ⟨Latin.decode printed.name, Latin.decode printed.first⟩ :: reversed := by
  have hcolon : ':' ∉ Latin.decode printed.name := Latin.notMem_decode printed.name_colon
  have hname : Latin.decode printed.name ≠ [] := by simpa [Latin.decode] using printed.name_ne_nil
  have hfield : Field.ofLine? (ResponseHead.lineText printed.firstLine) =
      some ⟨Latin.decode printed.name, Latin.decode printed.first⟩ := by
    have hspace : ∀ c ∈ [' '], Text.isBlank c = true := List.all_eq_true.mp (by decide)
    have hvalue : Text.trim (' ' :: Latin.decode printed.first) = Latin.decode printed.first :=
      (Text.trimOf_append_left hspace _).trans printed.first_trimmed.trim_eq
    rw [printed.lineText_firstLine, Field.ofLine?, Text.cut_append_cons hcolon]
    simp only [printed.name_trimmed.trim_eq, hvalue]
    rw [if_neg (by simpa using hname)]
  have hbegins : ResponseHead.isContinuation (ResponseHead.lineText printed.firstLine) = false := by
    obtain ⟨c, rest, hsplit⟩ := List.exists_cons_of_ne_nil hname
    have hblank := printed.name_trimmed.head_not_blank c (by rw [hsplit]; rfl)
    rw [printed.lineText_firstLine, hsplit, ResponseHead.isContinuation]
    have hspace : c ≠ ' ' := by
      rintro rfl
      exact absurd hblank (by decide)
    have htab : c ≠ '\t' := by
      rintro rfl
      exact absurd hblank (by decide)
    simp [hspace, htab]
  rw [ResponseHead.addLine.eq_def]
  cases reversed with
  | nil => simp [hfield]
  | cons field before => simp [hfield, hbegins]

theorem addLines_folded (folded : List FoldedLine) (name value : Text) (before : Headers) :
    WrittenHead.addLines (⟨name, value⟩ :: before) (folded.map FoldedLine.octets) =
      ⟨name, value ++ (folded.map FoldedLine.text).flatMap fun piece => [' '] ++ piece⟩ ::
        before := by
  induction folded generalizing value with
  | nil => simp [WrittenHead.addLines]
  | cons line folded ih =>
      have hrest := ih (value ++ ' ' :: line.text)
      rw [List.append_assoc] at hrest
      simp only [WrittenHead.addLines, List.map_cons, List.foldl_cons, line.addLine_octets]
      exact hrest

/-- The lines of a field add the field. -/
theorem addLines_lines (reversed : Headers) :
    WrittenHead.addLines reversed printed.lines = printed.field :: reversed := by
  have hfolded := addLines_folded printed.folded (Latin.decode printed.name)
    (Latin.decode printed.first) reversed
  rw [← Text.intercalate_cons] at hfolded
  rw [← printed.addLine_firstLine] at hfolded
  exact hfolded

theorem lines_isLine : ∀ line ∈ printed.lines, Bytes.IsLine line := by
  rw [lines, List.forall_mem_cons, List.forall_mem_map]
  exact ⟨printed.firstLine_isLine, fun line _ => line.isLine⟩

theorem lines_not_blank : ∀ line ∈ printed.lines, ResponseHead.lineText line ≠ [] := by
  rw [lines, List.forall_mem_cons, List.forall_mem_map]
  refine ⟨?_, fun line _ => line.lineText_ne_nil⟩
  rw [printed.lineText_firstLine]
  simp

end PrintedField

/-! ## Heads -/

theorem WrittenHead.addLines_append (reversed : Headers) (lines more : List Bytes) :
    addLines reversed (lines ++ more) = addLines (addLines reversed lines) more :=
  List.foldl_append ..

/-- A head as it is printed, within what readers take: no line longer than 65536 octets, and no more
than 255 lines of fields. -/
structure PrintedHead where
  status : WrittenStatus
  fields : List PrintedField
  blankLine : Bytes
  reason_end : ∀ text ∈ status.reason, text.getLast? ≠ some 13
  blankLine_mem : blankLine ∈ Bytes.lineEnds
  lines_count : (fields.flatMap PrintedField.lines).length ≤ 255
  lines_length : ∀ line ∈ status.octets :: fields.flatMap PrintedField.lines, line.length ≤ 65536

namespace PrintedHead

variable (printed : PrintedHead)

def written : WrittenHead where
  status := printed.status
  fields := printed.fields.flatMap PrintedField.lines
  blankLine := printed.blankLine
  fields_isLine := by
    rw [List.forall_mem_flatMap]
    exact fun field _ => field.lines_isLine
  fields_not_blank := by
    rw [List.forall_mem_flatMap]
    exact fun field _ => field.lines_not_blank
  fields_length := printed.lines_count
  blankLine_mem := printed.blankLine_mem

/-- All the lines, one after the other. -/
def octets : Bytes :=
  printed.status.octets ++ (printed.fields.flatMap PrintedField.lines).flatten ++ printed.blankLine

/-- What is printed. -/
def head : ResponseHead where
  status := printed.status.number
  reason := Latin.decode (printed.status.reason.getD [])
  version := Latin.decode printed.status.version
  headers := printed.fields.map PrintedField.field

theorem addLines_fields (fields : List PrintedField) (reversed : Headers) :
    WrittenHead.addLines reversed (fields.flatMap PrintedField.lines) =
      (fields.map PrintedField.field).reverse ++ reversed := by
  induction fields generalizing reversed with
  | nil => rfl
  | cons field fields ih =>
      rw [List.flatMap_cons, WrittenHead.addLines_append, field.addLines_lines, ih, List.map_cons,
        List.reverse_cons, List.append_assoc]
      rfl

theorem reasonText_eq :
    printed.status.reasonText = Latin.decode (printed.status.reason.getD []) := by
  unfold WrittenStatus.reasonText
  cases hreason : printed.status.reason with
  | none => rfl
  | some text =>
      have hline := printed.status.reason_line text hreason
      have hend := printed.reason_end text hreason
      simp only [ResponseHead.lineText_append text printed.status.ending_mem, Option.getD_some]
      apply Text.trimRight_eq_self_iff.mpr
      intro c hc
      rw [Latin.decode, List.getLast?_map] at hc
      obtain ⟨octet, hoctet, rfl⟩ := Option.map_eq_some_iff.mp hc
      have hreturn : Latin.decodeOctet octet ≠ '\r' := by
        intro h
        have h13 : octet = 13 := Latin.decodeOctet_injective (h.trans rfl)
        rw [h13] at hoctet
        exact hend hoctet
      have hfeed : Latin.decodeOctet octet ≠ '\n' := by
        intro h
        have h10 : octet = 10 := Latin.decodeOctet_injective (h.trans rfl)
        rw [h10] at hoctet
        exact hline (List.mem_of_getLast? hoctet)
      simp [ResponseHead.isLineEnd, hreturn, hfeed]

theorem written_head : printed.written.head = printed.head := by
  have hfields : (WrittenHead.addLines [] printed.written.fields).reverse =
      printed.fields.map PrintedField.field := by
    rw [show printed.written.fields = printed.fields.flatMap PrintedField.lines from rfl,
      addLines_fields, List.append_nil, List.reverse_reverse]
  rw [WrittenHead.head, hfields, show printed.written.status = printed.status from rfl,
    printed.reasonText_eq]
  rfl

theorem written_octets : printed.written.octets = printed.octets := (List.append_assoc ..).symm

theorem withinLimit (rest : Bytes) : Wire.WithinLimit ⟨rest, printed.written.lines⟩ := by
  have hlimit : Chunked.lineLimit = 65536 := rfl
  have hlines := printed.lines_length
  have hblank : printed.blankLine.length ≤ 2 := by
    have hmem := printed.blankLine_mem
    rw [Bytes.lineEnds, List.mem_cons, List.mem_singleton] at hmem
    rcases hmem with hmem | hmem <;> simp [hmem]
  rw [List.forall_mem_cons] at hlines
  simp only [Wire.WithinLimit, WrittenHead.lines, List.forall_mem_cons, List.forall_mem_append,
    List.not_mem_nil, IsEmpty.forall_iff, implies_true, and_true, hlimit]
  refine ⟨by exact_mod_cast hlines.1, fun line hline => ?_, ?_⟩
  · exact_mod_cast hlines.2 line hline
  · change (printed.blankLine.length : Int) ≤ 65536
    omega

/-- A printed head is read as it was meant over any connection, and what follows it is left. -/
theorem read_printed {rest : Bytes} {transport : Transport}
    (hdelivers : transport.Delivers (printed.octets ++ rest)) :
    ∃ reader, ResponseHead.read (.ofTransport transport) = .ok printed.head reader ∧
      reader.leftover = rest := by
  have hagrees := ResponseHead.read_refines.agrees (Reader.ofTransport transport)
    (Wire.ofBytes (printed.octets ++ rest)) hdelivers.supplies
  have hdecode := ResponseHead.decode_written printed.written rest []
  rw [printed.written_octets, printed.written_head, List.nil_append] at hdecode
  rw [Wire.ofBytes, hdecode] at hagrees
  obtain ⟨reader, hread, hsupplies⟩ := (hagrees (printed.withinLimit rest)).of_ok
  exact ⟨reader, hread, hsupplies.leftover_eq⟩

/-- A status without a reason, and two fields of one name, the first of them folded. -/
def ofTwoFields : PrintedHead where
  status :=
    { version := Utf8.encode "HTTP/1.0".toList
      code := "204".toList
      reason := none
      ending := [10]
      version_name := by decide
      version_line := by decide
      version_word := by decide
      code_over := by decide
      code_length := rfl
      reason_line := by decide
      ending_mem := by decide }
  fields :=
    [{ name := [65], first := [], ending := [13, 10]
       folded :=
        [⟨[9, 32], [98, 32, 99], [10], by decide, by simp, ⟨by decide, by decide⟩, by decide⟩,
          ⟨[32], [], [13, 10], by decide, by simp, ⟨by decide, by decide⟩, List.mem_cons_self⟩]
       name_ne_nil := by decide
       name_trimmed := ⟨by decide, by decide⟩
       name_colon := by decide
       first_trimmed := ⟨by decide, by decide⟩
       ending_mem := List.mem_cons_self },
      { name := [65], first := [100], ending := [10], folded := []
        name_ne_nil := by decide
        name_trimmed := ⟨by decide, by decide⟩
        name_colon := by decide
        first_trimmed := ⟨by decide, by decide⟩
        ending_mem := by decide }]
  blankLine := [13, 10]
  reason_end := by decide
  blankLine_mem := List.mem_cons_self
  lines_count := by decide
  lines_length := by decide +kernel

/-- A head that is cut inside the end of a line, and an octet of the body. -/
theorem read_printed_two_fields :
    ∃ reader, ResponseHead.read (.ofTransport (.ofArrivals false
        (["HTTP/1.0 204\nA: \r", "\n\t b c\n \r\nA: d\n\r\n0"].map
          fun item => .data (Utf8.encode item.toList)))) =
        .ok ⟨204, [], "HTTP/1.0".toList,
          [⟨"A".toList, " b c ".toList⟩, ⟨"A".toList, "d".toList⟩]⟩ reader ∧
      reader.leftover = [48] := by
  have hhead : ofTwoFields.head = ⟨204, [], "HTTP/1.0".toList,
      [⟨"A".toList, " b c ".toList⟩, ⟨"A".toList, "d".toList⟩]⟩ := by decide +kernel
  have hoctets : (["HTTP/1.0 204\nA: \r", "\n\t b c\n \r\nA: d\n\r\n0"].map
      fun item => Utf8.encode item.toList).flatten = ofTwoFields.octets ++ [48] := by
    decide +kernel
  rw [← hhead]
  exact ofTwoFields.read_printed ⟨_, hoctets, Or.inl (List.map_map ..).symm⟩

end PrintedHead

end HttpFetch
