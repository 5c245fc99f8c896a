import HttpFetch.Proofs.Cookie.Date
import HttpFetch.Proofs.Response.HeadDecoding

/-!
# Codes that are no numbers

The code of a status line is checked before it is read as a number: it has to be three digits.  But
three characters of Latin-1 count as digits and stand in no number, the superscripts.  A code with
one of them passes the check, and once the fields have ended it fails as a number does.
`ResponseHead.read_soundEnd_iff` says that over a peer without faults nothing else goes wrong:
reading a head gives the status that three ASCII digits write, or fails for a defect of the head.
-/

namespace HttpFetch

/-! ## Digits that are in no number -/

/-- The digits of Latin-1 that stand in no number. -/
def Text.superscripts : Text := "²³¹".toList

theorem StatusLine.mem_of_isDigit {c : Char} (h : isDigit c = true) :
    c ∈ Text.decimalDigits ++ Text.superscripts := by
  by_cases hascii : c.toNat < 128
  · exact forall_ascii
      (P := fun c => isDigit c = true → c ∈ Text.decimalDigits ++ Text.superscripts)
      (by decide) hascii h
  · simp only [isDigit, Bool.or_eq_true, Bool.and_eq_true, decide_eq_true_eq] at h
    have hnine : ¬ c ≤ '9' := fun hle => hascii (Nat.lt_of_le_of_lt hle (by decide))
    rcases h with ((h | h) | h) | h
    · exact absurd h.2 hnine
    · rw [← Char.ofNat_toNat c, h]
      decide
    · rw [← Char.ofNat_toNat c, h]
      decide
    · rw [← Char.ofNat_toNat c, h]
      decide

theorem StatusLine.areDigits_iff {s : Text} :
    areDigits s = true ↔ s ≠ [] ∧ s.Over (Text.decimalDigits ++ Text.superscripts) := by
  rw [areDigits, Bool.and_eq_true, List.all_eq_true]
  constructor
  · rintro ⟨hne, hdigits⟩
    exact ⟨by simpa using hne, fun c hc => mem_of_isDigit (hdigits c hc)⟩
  · rintro ⟨hne, hover⟩
    exact ⟨by simpa using hne, hover.forall_mem (P := fun c => isDigit c = true) (by decide)⟩

/-- Digits among which there is a superscript denote no integer. -/
theorem Integer.parse_of_superscript {s : Text}
    (hover : s.Over (Text.decimalDigits ++ Text.superscripts))
    (hsuper : ¬ s.Over Text.decimalDigits) :
    ∃ defect, parse s = .error defect ∧ (s.length ≤ maxDigits → defect = .malformed) := by
  have hne : s ≠ [] := by
    rintro rfl
    exact hsuper fun c hc => absurd hc List.not_mem_nil
  have hspaces := hover.forall_mem (P := fun c => Text.isSpace c = false) (by decide)
  have hdigits := hover.forall_mem
    (P := fun c => ((Digit.decimal? c).isSome || c == '_') = true → c ∈ Text.decimalDigits)
    (by decide)
  have hrest : s.dropWhile (fun c => (Digit.decimal? c).isSome || c == '_') ≠ [] := by
    rw [ne_eq, List.dropWhile_eq_nil_iff]
    exact fun hall => hsuper fun c hc => hdigits c hc (hall c hc)
  unfold parse
  rw [Text.trimOf_of_none hspaces hne,
    sign_of_notMem (hover.notMem (by decide)) (hover.notMem (by decide))]
  simp only
  unfold Digit.span
  dsimp only
  split
  next => exact ⟨.malformed, rfl, fun _ => rfl⟩
  next hspan =>
    split at hspan
    next => cases hspan
    next =>
      cases hspan
      have hcount : ((s.takeWhile fun c => (Digit.decimal? c).isSome || c == '_').filterMap
          Digit.decimal?).length ≤ s.length :=
        (List.length_filterMap_le _ _).trans (List.takeWhile_prefix _).length_le
      split
      next hlong =>
        exact ⟨_, rfl, fun hlength => absurd (hcount.trans hlength) (Nat.not_le.mpr hlong)⟩
      next =>
        rw [if_pos (by simpa using hrest)]
        exact ⟨.malformed, rfl, fun _ => rfl⟩

/-! ## Lines without a limit -/

/-- Over a peer that ends without a fault some line is read, whatever the limit. -/
theorem Reader.Supplies.readLine_ok {reader : Reader} {octets : Bytes}
    (h : reader.Supplies octets) (limit : Int) :
    ∃ line rest reader', Reader.readLine limit reader = .ok line reader' ∧
      line ++ rest = octets ∧ reader'.Supplies rest := by
  have htake : ∀ {buffered : Reader}, buffered.Supplies octets → ∀ count,
      ∃ line rest reader', Reader.takeBuffered count buffered = .ok line reader' ∧
        line ++ rest = octets ∧ reader'.Supplies rest := by
    intro buffered hbuffered count
    obtain ⟨reader', htaken, hrest⟩ := hbuffered.takeSome count
    exact ⟨_, _, reader', htaken, List.take_append_drop _ _, hrest⟩
  fun_induction Reader.readLine limit reader with
  | case1 reader count hcount => exact htake h count
  | case2 reader hnone hfull => exact htake h _
  | case3 reader hnone hroom more hfill ih => exact ih (h.of_fill hfill).1
  | case4 reader hnone hroom all hfill => exact htake (h.of_fill hfill).1 _
  | case5 reader hnone hroom failure reader' hfill => exact absurd hfill h.fill_ne_error

/-! ## Heads -/

namespace StatusLine

/-- Three characters stand between the first two spaces of a line that begins like a status line.
The second space may be missing. -/
def HasCode (line code : Text) : Prop :=
  ∃ (version : Text) (reason : Option Text),
    line = version ++ ' ' :: (code ++ reason.elim [] (' ' :: ·)) ∧ ' ' ∉ version ∧
      "HTTP/".toList <+: version ∧ ' ' ∉ code ∧ code.length = 3

theorem HasCode.length_eq {line code : Text} (h : HasCode line code) : code.length = 3 := by
  obtain ⟨version, reason, -, -, -, -, hlength⟩ := h
  exact hlength

theorem hasCode_of_ofLine {line : Text} {status : StatusLine} (h : ofLine? line = some status) :
    HasCode line status.code ∧ status.code.Over (Text.decimalDigits ++ Text.superscripts) := by
  unfold ofLine? at h
  rcases Text.cut_cases ' ' line with ⟨-, hcut⟩ | ⟨version, rest, hversion, rfl, hcut⟩
  · rw [hcut] at h
    cases h
  · have hparts : ∃ code reason, ' ' ∉ code ∧ rest = code ++ reason.elim [] (' ' :: ·) ∧
        Text.cut ' ' rest = (code, reason) := by
      rcases Text.cut_cases ' ' rest with ⟨hcode, hnone⟩ | ⟨code, reason, hcode, hrest, hsome⟩
      · exact ⟨rest, none, hcode, (List.append_nil rest).symm, hnone⟩
      · exact ⟨code, some reason, hcode, hrest, hsome⟩
    obtain ⟨code, reason, hcode, rfl, hrest⟩ := hparts
    rw [hcut] at h
    simp only [hrest] at h
    split at h
    next hchecked =>
      cases h
      simp only [Bool.and_eq_true, decide_eq_true_eq, List.isPrefixOf_iff_prefix,
        areDigits_iff] at hchecked
      obtain ⟨⟨hname, hlength⟩, -, hover⟩ := hchecked
      exact ⟨⟨version, reason, rfl, hversion, hname, hcode, hlength⟩, hover⟩
    next => cases h

theorem ofLine_of_hasCode {line code : Text} (h : HasCode line code)
    (hover : code.Over (Text.decimalDigits ++ Text.superscripts)) :
    ∃ status, ofLine? line = some status ∧ status.code = code := by
  obtain ⟨version, reason, rfl, hversion, hname, hcode, hlength⟩ := h
  have hrest : Text.cut ' ' (code ++ reason.elim [] (' ' :: ·)) = (code, reason) := by
    cases reason with
    | none => rw [Option.elim_none, List.append_nil, Text.cut_of_notMem hcode]
    | some reason => exact Text.cut_append_cons hcode reason
  have hne : code ≠ [] := List.ne_nil_of_length_pos (by rw [hlength]; decide)
  have hdigits : areDigits code = true := areDigits_iff.mpr ⟨hne, hover⟩
  have hprefix : "HTTP/".toList.isPrefixOf version = true := List.isPrefixOf_iff_prefix.mpr hname
  refine ⟨⟨version, code, reason.getD []⟩, ?_, rfl⟩
  rw [ofLine?, Text.cut_append_cons hversion]
  simp only [hrest, hprefix, hlength, hdigits]
  rfl

/-- Whether three digits are the code of a line and one of them is a superscript. -/
def HasSuperscript (line : Text) : Prop :=
  ∃ code, HasCode line code ∧ code.Over (Text.decimalDigits ++ Text.superscripts) ∧
    ¬ code.Over Text.decimalDigits

theorem hasSuperscript_iff {line : Text} :
    HasSuperscript line ↔
      ∃ status, ofLine? line = some status ∧ ¬ status.code.Over Text.decimalDigits := by
  constructor
  · rintro ⟨code, hcode, hover, hsuper⟩
    obtain ⟨status, hstatus, rfl⟩ := ofLine_of_hasCode hcode hover
    exact ⟨status, hstatus, hsuper⟩
  · rintro ⟨status, hstatus, hsuper⟩
    obtain ⟨hcode, hover⟩ := hasCode_of_ofLine hstatus
    exact ⟨status.code, hcode, hover, hsuper⟩

end StatusLine

namespace ResponseHead

/-- Whether a blank line is among those that a reader looks for it in. -/
def FieldsEnd (reader : Reader) : Prop :=
  ∃ headers after, readFields maxLines [] reader = .ok headers after

/-- How the reading of a head should end: with the status that the first line writes in three ASCII
digits, or for a defect of the head. -/
inductive SoundEnd (line : Text) : EStateM.Result Failure Reader ResponseHead → Prop
  | head (code : Text) (has_code : StatusLine.HasCode line code)
    (code_over : code.Over Text.decimalDigits) (head : ResponseHead)
    (status_eq : head.status = Digit.value 10 (code.filterMap Digit.decimal?)) (after : Reader) :
    SoundEnd line (.ok head after)
  | defect (defect : HeadDefect) (after : Reader) : SoundEnd line (.error (.head defect) after)

theorem readFields_of_supplies {reader : Reader} {octets : Bytes} (h : reader.Supplies octets)
    (lines : Nat) (reversed : Headers) :
    (∃ headers after, readFields lines reversed reader = .ok headers after) ∨
      ∃ after, readFields lines reversed reader = .error (.head .tooManyLines) after := by
  induction lines generalizing reader octets reversed with
  | zero => exact Or.inr ⟨reader, rfl⟩
  | succ lines ih =>
      obtain ⟨line, rest, reader', hline, -, hrest⟩ := h.readLine_ok Chunked.lineLimit
      simp only [readFields, bind, EStateM.bind, hline]
      split
      next => exact Or.inl ⟨_, _, rfl⟩
      next => exact ih hrest _

/-- A head whose code is a number, or whose fields do not end, ends soundly. -/
theorem readAfter_soundEnd {reader : Reader} {octets : Bytes} (h : reader.Supplies octets)
    {line : Text} (hline : ¬ (StatusLine.HasSuperscript line ∧ FieldsEnd reader)) :
    SoundEnd line (readAfter line reader) := by
  cases hstatus : StatusLine.ofLine? line with
  | none =>
      simp only [readAfter, hstatus]
      exact .defect _ reader
  | some status =>
      rcases readFields_of_supplies h maxLines [] with ⟨headers, after, hfields⟩ | ⟨after, hfields⟩
      · have hdecimal : status.code.Over Text.decimalDigits := by
          by_contra hsuper
          exact hline ⟨StatusLine.hasSuperscript_iff.mpr ⟨status, hstatus, hsuper⟩,
            headers, after, hfields⟩
        have hcode := (StatusLine.hasCode_of_ofLine hstatus).1
        have hne : status.code ≠ [] := List.ne_nil_of_length_pos (by rw [hcode.length_eq]; decide)
        have hparse := Integer.parse_of_over hne hdecimal (by rw [hcode.length_eq]; decide)
        simp only [readAfter, hstatus, bind, EStateM.bind, hfields, hparse]
        exact .head status.code hcode hdecimal _ rfl after
      · simp only [readAfter, hstatus, bind, EStateM.bind, hfields]
        exact .defect _ after

/-- A superscript is found out after the fields. -/
theorem readAfter_of_superscript {reader : Reader} {line : Text}
    (hsuper : StatusLine.HasSuperscript line) (hfields : FieldsEnd reader) :
    ∃ code after, StatusLine.HasCode line code ∧
      readAfter line reader = .error (.value (.integer code .malformed)) after := by
  obtain ⟨status, hstatus, hsuper⟩ := StatusLine.hasSuperscript_iff.mp hsuper
  obtain ⟨headers, after, hfields⟩ := hfields
  obtain ⟨hcode, hover⟩ := StatusLine.hasCode_of_ofLine hstatus
  obtain ⟨defect, hparse, hdefect⟩ := Integer.parse_of_superscript hover hsuper
  cases hdefect (by rw [hcode.length_eq]; decide)
  refine ⟨status.code, after, hcode, ?_⟩
  simp only [readAfter, hstatus, bind, EStateM.bind, hfields, hparse]
  rfl

/-- Over a peer without faults, a head ends soundly unless a superscript stands in its code and its
fields end; then its code is refused as a number. -/
theorem read_soundEnd_iff {transport : Transport} (hwell : transport.endsWell = true) :
    ∃ line after, Reader.readLine Chunked.lineLimit (.ofTransport transport) = .ok line after ∧
      (SoundEnd (lineText line) (read (.ofTransport transport)) ↔
        ¬ (StatusLine.HasSuperscript (lineText line) ∧ FieldsEnd after)) ∧
      (StatusLine.HasSuperscript (lineText line) → FieldsEnd after →
        ∃ code after', StatusLine.HasCode (lineText line) code ∧
          read (.ofTransport transport) = .error (.value (.integer code .malformed)) after') := by
  obtain ⟨line, rest, after, hline, -, hrest⟩ :=
    (Reader.supplies_ofTransport hwell).readLine_ok Chunked.lineLimit
  refine ⟨line, after, hline, ?_⟩
  rw [read_eq]
  simp only [bind, EStateM.bind, hline]
  split
  next hempty =>
    have hnone : ¬ StatusLine.HasSuperscript (lineText line) := by
      rw [List.isEmpty_iff.mp hempty]
      rintro ⟨code, ⟨version, reason, hline, -⟩, -⟩
      exact List.append_ne_nil_of_right_ne_nil version (List.cons_ne_nil _ _) hline.symm
    exact ⟨iff_of_true (.defect _ after) fun h => hnone h.1, fun h => absurd h hnone⟩
  next =>
    refine ⟨⟨?_, readAfter_soundEnd hrest⟩, readAfter_of_superscript⟩
    rintro hsound ⟨hsuper, hfields⟩
    obtain ⟨code, after', -, hread⟩ := readAfter_of_superscript hsuper hfields
    rw [hread] at hsound
    cases hsound

/-- A status line that is cut inside its code. -/
theorem read_soundEnd_cut :
    SoundEnd "HTTP/1.1 204".toList (read (.ofTransport (.ofArrivals false
      [.data (Utf8.encode "HTTP/1.1 2".toList), .data (Utf8.encode "04\r\n\r\n".toList)]))) := by
  have hdelivers : Transport.Delivers (.ofArrivals false
      [.data (Utf8.encode "HTTP/1.1 2".toList), .data (Utf8.encode "04\r\n\r\n".toList)])
      (Utf8.encode "HTTP/1.1 204\r\n\r\n".toList) := ⟨[_, _], by decide, Or.inl rfl⟩
  obtain ⟨line, after, hline, hsound, -⟩ := read_soundEnd_iff hdelivers.supplies.endsWell
  have hshort : (Bytes.firstLine (Utf8.encode "HTTP/1.1 204\r\n\r\n".toList)).length ≤
      Chunked.lineLimit := by decide
  obtain ⟨after', hfirst, -⟩ := hdelivers.supplies.readLine hshort
  cases hfirst.symm.trans hline
  have htext : lineText (Bytes.firstLine (Utf8.encode "HTTP/1.1 204\r\n\r\n".toList)) =
      "HTTP/1.1 204".toList := by decide
  rw [htext] at hsound
  refine hsound.mpr fun hboth => ?_
  obtain ⟨status, hstatus, hsuper⟩ := StatusLine.hasSuperscript_iff.mp hboth.1
  have hread : StatusLine.ofLine? "HTTP/1.1 204".toList =
      some ⟨"HTTP/1.1".toList, "204".toList, []⟩ := by decide
  cases hread.symm.trans hstatus
  exact hsuper (by decide)

/-- A superscript passes for a digit of the code, and then it denotes none. -/
theorem read_refuses_superscript :
    let result := read (.ofTransport (.ofArrivals false
      [.data (Utf8.encode "HTTP/1.1 2".toList ++ 0xb2 :: Utf8.encode "0 OK\r\n\r\n".toList)]))
    (∃ after, result = .error (.value (.integer "2²0".toList .malformed)) after) ∧
      ∀ line, ¬ SoundEnd line result := by
  intro result
  have hdelivers : Transport.Delivers (.ofArrivals false
      [.data (Utf8.encode "HTTP/1.1 2".toList ++ 0xb2 :: Utf8.encode "0 OK\r\n\r\n".toList)])
      (Utf8.encode "HTTP/1.1 2".toList ++ 0xb2 :: Utf8.encode "0 OK\r\n\r\n".toList) :=
    ⟨[_], by decide, Or.inl rfl⟩
  have hdecode : decode (Wire.ofBytes
      (Utf8.encode "HTTP/1.1 2".toList ++ 0xb2 :: Utf8.encode "0 OK\r\n\r\n".toList)) =
      .error (.value (.integer "2²0".toList .malformed))
        ⟨[], [Utf8.encode "HTTP/1.1 2".toList ++ 0xb2 :: Utf8.encode "0 OK\r\n".toList,
          Utf8.encode "\r\n".toList]⟩ := rfl
  have hagrees := read_refines.agrees _ (Wire.ofBytes _) hdelivers.supplies
  rw [hdecode] at hagrees
  obtain ⟨after, hread, -⟩ := (hagrees (by decide)).of_error
  have hresult : result = _ := hread
  refine ⟨⟨after, hresult⟩, fun line hsound => ?_⟩
  rw [hresult] at hsound
  cases hsound

end ResponseHead

end HttpFetch
