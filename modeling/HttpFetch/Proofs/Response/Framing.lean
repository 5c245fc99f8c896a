import HttpFetch.Proofs.Chunked.Acceptance
import HttpFetch.Proofs.Response.StatusCode
import HttpFetch.Proofs.Response.Truncation

/-!
# Which octets are the body

Text that a server writes decides where a body ends.  `Response.Frames` lists what a head may say
and what reading the body gives then, whatever octets arrive and however they are cut: no data, the
data of chunks, so many octets, or all of them.  `Response.frames_read` says that reading gives one
of these.  A failure tells that the connection ended too early, but in two cases: a length may count
as digits and be no number that is read, and a chunk may lack more octets than can be told.
-/

namespace HttpFetch

/-! ## Chunks without a limit on lines -/

namespace Chunked

theorem skipTrailer_ok {reader : Reader} {octets : Bytes} (h : reader.Supplies octets) :
    ∃ after rest, skipTrailer reader = .ok () after ∧ after.Supplies rest := by
  fun_induction skipTrailer reader generalizing octets with
  | case1 reader line after hline hblank =>
      obtain ⟨line', rest, after', hread, -, hrest⟩ := h.readLine_ok lineLimit
      cases hline.symm.trans hread
      exact ⟨after, rest, rfl, hrest⟩
  | case2 reader line after hline hblank ih =>
      obtain ⟨line', rest, after', hread, -, hrest⟩ := h.readLine_ok lineLimit
      cases hline.symm.trans hread
      exact ih hrest
  | case3 reader failure after hline =>
      obtain ⟨line', rest, after', hread, -⟩ := h.readLine_ok lineLimit
      cases hline.symm.trans hread

/-- Whether the next line of a reader tells the size of a chunk that lacks more octets than can be
told in decimal. -/
def LacksTooMuch (reader : Reader) : Prop :=
  ∃ line after left size, Reader.readLine lineLimit reader = .ok line after ∧
    after.Supplies left ∧ TellsSize (Latin.decode line) size ∧
    Nat.pow 10 Integer.maxDigits ≤ size.toNat - left.length

theorem LacksTooMuch.next_eq {reader : Reader} (h : LacksTooMuch reader) :
    ∃ after, next reader = .error (.value .tooLarge) after := by
  obtain ⟨line, after, left, size, hline, hleft, hsize, hlarge⟩ := h
  obtain ⟨hsize_ne, hlacks⟩ := lacks_of_large hlarge
  have hblock := readAnnounced_block hleft hsize_ne
  rw [if_neg hlacks, Failure.ofMissing, if_pos hlarge] at hblock
  obtain ⟨after', hread, -⟩ := hblock
  rw [next_eq_bind]
  simp only [bind, EStateM.bind, hline, lineSize_eq_ok_iff.mpr hsize]
  exact ⟨after', hread⟩

/-- What reading a chunk may come to. -/
inductive NextChunk (reader : Reader) : EStateM.Result Failure Reader (Option Bytes) → Prop
  | chunk {octets rest : Bytes} {after : Reader} (hrest : after.Supplies rest) :
      NextChunk reader (.ok (some octets) after)
  | closing {after : Reader} : NextChunk reader (.ok none after)
  | defect {defect : BodyDefect} {after : Reader} :
      NextChunk reader (.error (.body defect) after)
  | tooLarge {after : Reader} (hlacks : LacksTooMuch reader) :
      NextChunk reader (.error (.value .tooLarge) after)

theorem nextChunk_next {reader : Reader} {octets : Bytes} (h : reader.Supplies octets) :
    NextChunk reader (next reader) := by
  obtain ⟨line, rest, after, hline, -, hrest⟩ := h.readLine_ok lineLimit
  rw [next_eq_bind]
  simp only [bind, EStateM.bind, hline]
  cases hsize : lineSize line with
  | error failure =>
      obtain ⟨defect, rfl⟩ := lineSize_failure hsize
      exact .defect
  | ok size =>
      dsimp only
      by_cases hzero : size = 0
      · obtain ⟨after', rest', hskip, -⟩ := skipTrailer_ok hrest
        rw [readAnnounced, if_pos hzero, hskip]
        exact .closing
      have hblock := readAnnounced_block hrest hzero
      by_cases hcovered : size.toNat ≤ rest.length
      · rw [if_pos hcovered] at hblock
        obtain ⟨after', hread, hrest'⟩ := hblock
        rw [hread]
        exact .chunk hrest'
      rw [if_neg hcovered, Failure.ofMissing] at hblock
      obtain ⟨after', hread, -⟩ := hblock
      by_cases hlarge : Nat.pow 10 Integer.maxDigits ≤ size.toNat - rest.length
      · rw [hread, if_pos hlarge]
        exact .tooLarge
          ⟨line, after, rest, size, hline, hrest, lineSize_eq_ok_iff.mp hsize, hlarge⟩
      · rw [hread, if_neg hlarge]
        exact .defect

/-- Whether reading chunk after chunk leads to one that lacks more octets than can be told. -/
inductive Overruns : Reader → Prop
  | here {reader : Reader} (hlacks : LacksTooMuch reader) : Overruns reader
  | later {reader between after : Reader} {octets line : Bytes}
      (hnext : next reader = .ok (some octets) between)
      (hline : Reader.readLine lineLimit between = .ok line after) (hrest : Overruns after) :
      Overruns reader

end Chunked

namespace Response

open Chunked (Overruns)

/-- Behind a chunk, its line is ended first. -/
theorem collect_insideLine {reader after : Reader} {line : Bytes}
    (hline : Reader.readLine Chunked.lineLimit reader = .ok line after) :
    collect (.chunks true) reader = collect (.chunks false) after := by
  have hnext : nextChunk true reader = nextChunk false after := by
    simp only [nextChunk, hline, if_true, Bool.false_eq_true, if_false]
  rw [collect_eq, collect_eq]
  simp only [piece, hnext]

theorem collect_of_next {reader between after : Reader} {octets line : Bytes}
    (hnext : Chunked.next reader = .ok (some octets) between)
    (hline : Reader.readLine Chunked.lineLimit between = .ok line after) :
    collect (.chunks false) reader = (collect (.chunks false) after).cons octets := by
  have hpiece : piece (.chunks false) reader = .ok (some octets, .chunks true) between := by
    simp only [piece, nextChunk, Bool.false_eq_true, if_false, hnext]
  rw [collect_eq, hpiece]
  exact congrArg (·.cons octets) (collect_insideLine hline)

theorem Overruns.collect_failure {reader : Reader} (h : Overruns reader) :
    (collect (.chunks false) reader).failure = some (.value .tooLarge) := by
  induction h with
  | here hlacks =>
      obtain ⟨after, hnext⟩ := hlacks.next_eq
      rw [collect_eq]
      simp only [piece, nextChunk, Bool.false_eq_true, if_false, hnext]
  | later hnext hline hrest ih =>
      rw [collect_of_next hnext hline]
      exact ih

/-- How a chunked body may end, whatever arrives. -/
inductive ChunksEnd (reader : Reader) : Option Failure → Prop
  | closing : ChunksEnd reader none
  | defect {defect : BodyDefect} : ChunksEnd reader (some (.body defect))
  | tooLarge (hoverruns : Overruns reader) : ChunksEnd reader (some (.value .tooLarge))

theorem chunksEnd_collect {reader : Reader} {octets : Bytes} (h : reader.Supplies octets) :
    ChunksEnd reader (collect (.chunks false) reader).failure := by
  -- By what is unread: a chunk takes something of it.
  induction hunread : reader.unread using Nat.strong_induction_on generalizing reader octets with
  | _ unread ih =>
      subst hunread
      have houtcome := Chunked.nextChunk_next h
      cases hnext : Chunked.next reader with
      | ok chunk between =>
          rw [hnext] at houtcome
          cases houtcome with
          | chunk hrest =>
              obtain ⟨line, rest, after, hline, -, hafter⟩ := hrest.readLine_ok Chunked.lineLimit
              have hshorter := Chunked.next_unread hnext
              have hline_shorter := Reader.readLine_unread hline
              have hend := ih after.unread (by omega) hafter rfl
              rw [collect_of_next hnext hline]
              dsimp only [Collected.cons]
              generalize (collect (.chunks false) after).failure = failure at hend
              cases hend with
              | closing => exact .closing
              | defect => exact .defect
              | tooLarge hoverruns => exact .tooLarge (.later hnext hline hoverruns)
          | closing =>
              rw [collect_eq]
              simp only [piece, nextChunk, Bool.false_eq_true, if_false, hnext]
              exact .closing
      | error failure after =>
          rw [hnext] at houtcome
          rw [collect_eq]
          simp only [piece, nextChunk, Bool.false_eq_true, if_false, hnext]
          cases houtcome with
          | defect => exact .defect
          | tooLarge hlacks => exact .tooLarge (.here hlacks)

/-! ## Heads -/

/-- Digits, superscripts among them, that are no length: not ASCII digits alone, or too many. -/
def IsRefusedLength (written : Text) : Prop :=
  written ≠ [] ∧ written.Over (Text.decimalDigits ++ Text.superscripts) ∧
    (¬ written.Over Text.decimalDigits ∨ Integer.maxDigits < written.length)

/-- How many octets a text of digits tells. -/
def octetsOf (digits : Text) : Nat := Digit.value 10 (digits.filterMap Digit.decimal?)

/-- What reading the body of a response to a method gives over a reader that supplies some octets,
by what the head says. -/
inductive Frames (method : Text) (head : ResponseHead) (reader : Reader) (octets : Bytes) :
    EStateM.Result Failure Response Bytes → Prop
  | bodiless {finished : Response} (hnone : Bodiless method head.status) :
      Frames method head reader octets (.ok [] finished)
  | chunks {finished : Response} (hsome : ¬ Bodiless method head.status)
      (hchunked : NamesChunked head) (hend : (collect (.chunks false) reader).failure = none) :
      Frames method head reader octets
        (.ok (collect (.chunks false) reader).pieces.flatten finished)
  | brokenChunks {defect : BodyDefect} {finished : Response}
      (hsome : ¬ Bodiless method head.status) (hchunked : NamesChunked head)
      (hend : (collect (.chunks false) reader).failure = some (.body defect)) :
      Frames method head reader octets (.error (.body defect) finished)
  | hugeChunk {finished : Response} (hsome : ¬ Bodiless method head.status)
      (hchunked : NamesChunked head) (hoverruns : Overruns reader) :
      Frames method head reader octets (.error (.value .tooLarge) finished)
  | counted {digits : Text} {finished : Response} (hsome : ¬ Bodiless method head.status)
      (hplain : ¬ NamesChunked head)
      (hlength : head.headers.value? "content-length".toList = some digits) (hne : digits ≠ [])
      (hover : digits.Over Text.decimalDigits) (hdigits : digits.length ≤ Integer.maxDigits)
      (hcovered : octetsOf digits ≤ octets.length) :
      Frames method head reader octets (.ok (octets.take (octetsOf digits)) finished)
  | cut {digits : Text} {finished : Response} (hsome : ¬ Bodiless method head.status)
      (hplain : ¬ NamesChunked head)
      (hlength : head.headers.value? "content-length".toList = some digits) (hne : digits ≠ [])
      (hover : digits.Over Text.decimalDigits) (hdigits : digits.length ≤ Integer.maxDigits)
      (hshort : octets.length < octetsOf digits) :
      Frames method head reader octets
        (.error (.body (.cutBody (octetsOf digits - octets.length))) finished)
  | refused {written : Text} {defect : Integer.Defect} {finished : Response}
      (hsome : ¬ Bodiless method head.status) (hplain : ¬ NamesChunked head)
      (hlength : head.headers.value? "content-length".toList = some written)
      (hrefused : IsRefusedLength written) :
      Frames method head reader octets (.error (.value (.integer written defect)) finished)
  | rest {finished : Response} (hsome : ¬ Bodiless method head.status)
      (hplain : ¬ NamesChunked head)
      (hlength : ∀ written, head.headers.value? "content-length".toList = some written →
        written = [] ∨ ¬ written.Over (Text.decimalDigits ++ Text.superscripts)) :
      Frames method head reader octets (.ok octets finished)

/-- A body that can be begun gives what its cursor collects. -/
theorem read_of_cursor {head : ResponseHead} {method : Text} {cursor : Cursor}
    (hcursor : Framing.cursor readChunkSize (HttpFetch.Framing.ofHead head method) = .ok cursor)
    (url : Option Url) (reader : Reader) :
    ∃ finished, read { ofHead head url method reader with attached := true } =
      match (collect cursor reader).failure.map Failure.amongPieces with
      | none => .ok (collect cursor reader).pieces.flatten finished
      | some failure => .error failure finished := by
  have hstart : drainFrom (.start readChunkSize)
      { ofHead head url method reader with attached := true } = _ :=
    drainFrom_start rfl rfl hcursor
  unfold read drain
  rw [hstart, drainFrom_of_isBegun (cursor_isBegun hcursor)]
  exact ⟨_, rfl⟩

/-- A length that is refused is refused before anything is read. -/
theorem read_of_badLength {head : ResponseHead} {method written : Text} {defect : Integer.Defect}
    (hframing : HttpFetch.Framing.ofHead head method = .badLength written defect)
    (url : Option Url) (reader : Reader) :
    ∃ finished, read { ofHead head url method reader with attached := true } =
      .error (.value (.integer written defect)) finished := by
  unfold read drain
  rw [drainFrom_eq]
  simp only [advance, begin, ofHead, hframing, Framing.cursor]
  exact ⟨_, rfl⟩

variable {method : Text} {head : ResponseHead} {reader : Reader} {octets : Bytes}

theorem frames_chunked (hsupplies : reader.Supplies octets) (hsome : ¬ Bodiless method head.status)
    (hchunked : NamesChunked head) (url : Option Url) :
    Frames method head reader octets
      (read { ofHead head url method reader with attached := true }) := by
  have hframing := HttpFetch.Framing.ofHead_chunked hsome hchunked
  obtain ⟨finished, hread⟩ := read_of_cursor (congrArg (Framing.cursor readChunkSize) hframing)
    url reader
  have hend := chunksEnd_collect hsupplies
  rw [hread]
  generalize hfailure : (collect (.chunks false) reader).failure = failure at hend
  cases hend with
  | closing => exact .chunks hsome hchunked hfailure
  | defect => exact .brokenChunks hsome hchunked hfailure
  | tooLarge hoverruns => exact .hugeChunk hsome hchunked hoverruns

theorem frames_counted (hsupplies : reader.Supplies octets) (hsome : ¬ Bodiless method head.status)
    (hplain : ¬ NamesChunked head) {digits : Text}
    (hlength : head.headers.value? "content-length".toList = some digits) (hne : digits ≠ [])
    (hover : digits.Over Text.decimalDigits) (hdigits : digits.length ≤ Integer.maxDigits)
    (url : Option Url) :
    Frames method head reader octets
      (read { ofHead head url method reader with attached := true }) := by
  have hframing := HttpFetch.Framing.ofHead_length hsome hplain hlength hne hover hdigits
  have hcursor : Framing.cursor readChunkSize (HttpFetch.Framing.ofHead head method) =
      .ok (.counted readChunkSize (octetsOf digits)) :=
    congrArg (Framing.cursor readChunkSize) hframing
  obtain ⟨finished, hread⟩ := read_of_cursor hcursor url reader
  obtain ⟨hflatten, hfailure, -⟩ := collect_counted (show (1 : Int) ≤ readChunkSize by decide)
    (Int.natCast_nonneg (octetsOf digits)) hsupplies
  rw [Int.toNat_natCast] at hflatten hfailure
  rw [hread, hfailure, hflatten]
  by_cases hcovered : octetsOf digits ≤ octets.length
  · rw [if_pos hcovered]
    exact .counted hsome hplain hlength hne hover hdigits hcovered
  · rw [if_neg hcovered]
    exact .cut hsome hplain hlength hne hover hdigits (Nat.not_le.mp hcovered)

theorem frames_refused (hsome : ¬ Bodiless method head.status) (hplain : ¬ NamesChunked head)
    {written : Text} (hlength : head.headers.value? "content-length".toList = some written)
    (hrefused : IsRefusedLength written) (url : Option Url) :
    Frames method head reader octets
      (read { ofHead head url method reader with attached := true }) := by
  obtain ⟨hne, hover, hbad⟩ := hrefused
  have hparse : ∃ defect, Integer.parse written = .error defect := by
    by_cases hdecimal : written.Over Text.decimalDigits
    · have hlong := hbad.resolve_left (not_not_intro hdecimal)
      exact ⟨_, Integer.parse_of_over_long hne hdecimal hlong⟩
    · obtain ⟨defect, hparse, -⟩ := Integer.parse_of_superscript hover hdecimal
      exact ⟨defect, hparse⟩
  obtain ⟨defect, hparse⟩ := hparse
  have hframing : HttpFetch.Framing.ofHead head method = .badLength written defect := by
    rw [HttpFetch.Framing.ofHead_plain hsome hplain, hlength]
    simp only [StatusLine.areDigits_iff.mpr ⟨hne, hover⟩, if_true, hparse]
  obtain ⟨finished, hread⟩ := read_of_badLength hframing url reader
  rw [hread]
  exact .refused hsome hplain hlength ⟨hne, hover, hbad⟩

theorem frames_rest (hsupplies : reader.Supplies octets) (hsome : ¬ Bodiless method head.status)
    (hplain : ¬ NamesChunked head)
    (hlength : ∀ written, head.headers.value? "content-length".toList = some written →
      written = [] ∨ ¬ written.Over (Text.decimalDigits ++ Text.superscripts))
    (url : Option Url) :
    Frames method head reader octets
      (read { ofHead head url method reader with attached := true }) := by
  have hframing : HttpFetch.Framing.ofHead head method = .untilEnd := by
    rw [HttpFetch.Framing.ofHead_plain hsome hplain]
    cases hvalue : head.headers.value? "content-length".toList with
    | none => rfl
    | some written =>
        have hdigits : ¬ StatusLine.areDigits written = true := by
          rw [StatusLine.areDigits_iff, not_and_or, not_not]
          exact hlength written hvalue
        exact if_neg hdigits
  have hcursor : Framing.cursor readChunkSize (HttpFetch.Framing.ofHead head method) =
      .ok (.rest readChunkSize) := congrArg (Framing.cursor readChunkSize) hframing
  obtain ⟨finished, hread⟩ := read_of_cursor hcursor url reader
  obtain ⟨hflatten, hfailure, -⟩ :=
    collect_rest (show (1 : Int) ≤ readChunkSize by decide) hsupplies
  rw [hread, hfailure, hflatten]
  exact .rest hsome hplain hlength

theorem frames_bodiless (hsupplies : reader.Supplies octets) (hnone : Bodiless method head.status)
    (url : Option Url) :
    Frames method head reader octets
      (read { ofHead head url method reader with attached := true }) := by
  have hframing := HttpFetch.Framing.ofHead_bodiless hnone
  have hcursor : Framing.cursor readChunkSize (HttpFetch.Framing.ofHead head method) =
      .ok (.counted readChunkSize 0) := congrArg (Framing.cursor readChunkSize) hframing
  obtain ⟨finished, hread⟩ := read_of_cursor hcursor url reader
  obtain ⟨hflatten, hfailure, -⟩ :=
    collect_counted (show (1 : Int) ≤ readChunkSize by decide) le_rfl hsupplies
  rw [hread, hfailure, hflatten]
  exact .bodiless hnone

/-- Whether a body cannot be read for another reason than an early end: its length is refused, or a
chunk lacks more octets than can be told. -/
def Unreadable (method : Text) (head : ResponseHead) (reader : Reader) : Prop :=
  ¬ Bodiless method head.status ∧
    ((NamesChunked head ∧ Overruns reader) ∨
      (¬ NamesChunked head ∧ ∃ written,
        head.headers.value? "content-length".toList = some written ∧ IsRefusedLength written))

theorem readable_of_chunked (hchunked : NamesChunked head)
    (hend : (collect (.chunks false) reader).failure ≠ some (.value .tooLarge)) :
    ¬ Unreadable method head reader := by
  rintro ⟨-, ⟨-, hoverruns⟩ | ⟨hplain, -⟩⟩
  · exact hend (Overruns.collect_failure hoverruns)
  · exact hplain hchunked

theorem readable_of_plain (hplain : ¬ NamesChunked head)
    (hlength : ∀ written, head.headers.value? "content-length".toList = some written →
      ¬ IsRefusedLength written) : ¬ Unreadable method head reader := by
  rintro ⟨-, ⟨hchunked, -⟩ | ⟨-, written, hwritten, hrefused⟩⟩
  · exact hplain hchunked
  · exact hlength written hwritten hrefused

theorem not_isRefusedLength {digits : Text} (hover : digits.Over Text.decimalDigits)
    (hdigits : digits.length ≤ Integer.maxDigits) : ¬ IsRefusedLength digits := by
  rintro ⟨-, -, hsuper | hlong⟩
  · exact hsuper hover
  · exact Nat.not_le.mpr hlong hdigits

theorem Frames.failure_iff {result : EStateM.Result Failure Response Bytes}
    (h : Frames method head reader octets result) :
    (∀ failure, Step.failure? result = some failure → ∃ defect, failure = .body defect) ↔
      ¬ Unreadable method head reader := by
  have hok : ∀ data finished failure, Step.failure?
      (.ok data finished : EStateM.Result Failure Response Bytes) = some failure →
        ∃ defect, failure = .body defect := by
    intro data finished failure h
    rw [Step.failure?] at h
    cases h
  have hbody : ∀ defect finished failure, Step.failure?
      (.error (.body defect) finished : EStateM.Result Failure Response Bytes) = some failure →
        ∃ defect, failure = .body defect := by
    intro defect finished failure h
    rw [Step.failure?] at h
    cases h
    exact ⟨defect, rfl⟩
  cases h with
  | bodiless hnone => exact iff_of_true (hok _ _) fun hunreadable => hunreadable.1 hnone
  | chunks hsome hchunked hend =>
      refine iff_of_true (hok _ _) (readable_of_chunked hchunked ?_)
      rw [hend]
      exact nofun
  | brokenChunks hsome hchunked hend =>
      refine iff_of_true (hbody _ _) (readable_of_chunked hchunked ?_)
      rw [hend]
      exact nofun
  | hugeChunk hsome hchunked hoverruns =>
      refine iff_of_false (fun hclaim => ?_) (not_not_intro ⟨hsome, .inl ⟨hchunked, hoverruns⟩⟩)
      obtain ⟨defect, hdefect⟩ := hclaim _ rfl
      cases hdefect
  | counted hsome hplain hlength hne hover hdigits hcovered =>
      refine iff_of_true (hok _ _) (readable_of_plain hplain fun written hwritten => ?_)
      cases hlength.symm.trans hwritten
      exact not_isRefusedLength hover hdigits
  | cut hsome hplain hlength hne hover hdigits hshort =>
      refine iff_of_true (hbody _ _) (readable_of_plain hplain fun written hwritten => ?_)
      cases hlength.symm.trans hwritten
      exact not_isRefusedLength hover hdigits
  | refused hsome hplain hlength hrefused =>
      refine iff_of_false (fun hclaim => ?_)
        (not_not_intro ⟨hsome, .inr ⟨hplain, _, hlength, hrefused⟩⟩)
      obtain ⟨defect, hdefect⟩ := hclaim _ rfl
      cases hdefect
  | rest hsome hplain hlength =>
      refine iff_of_true (hok _ _) (readable_of_plain hplain fun written hwritten hrefused => ?_)
      exact (hlength written hwritten).elim hrefused.1 fun hother => hother hrefused.2.1

/-- Reading a body gives what its head frames.  If it fails, the connection ended too early, unless
the body cannot be read. -/
theorem frames_read (hsupplies : reader.Supplies octets) (method : Text) (head : ResponseHead)
    (url : Option Url) :
    let result := read { ofHead head url method reader with attached := true }
    Frames method head reader octets result ∧
      ((∀ failure, Step.failure? result = some failure → ∃ defect, failure = .body defect) ↔
        ¬ Unreadable method head reader) := by
  intro result
  have hframes : Frames method head reader octets result := by
    by_cases hnone : Bodiless method head.status
    · exact frames_bodiless hsupplies hnone url
    by_cases hchunked : NamesChunked head
    · exact frames_chunked hsupplies hnone hchunked url
    by_cases hlength : ∃ written, head.headers.value? "content-length".toList = some written ∧
        written ≠ [] ∧ written.Over (Text.decimalDigits ++ Text.superscripts)
    · obtain ⟨written, hwritten, hne, hover⟩ := hlength
      by_cases hplain : written.Over Text.decimalDigits ∧ written.length ≤ Integer.maxDigits
      · exact frames_counted hsupplies hnone hchunked hwritten hne hplain.1 hplain.2 url
      · rw [not_and_or, Nat.not_le] at hplain
        exact frames_refused hnone hchunked hwritten ⟨hne, hover, hplain⟩ url
    · apply frames_rest hsupplies hnone hchunked
      intro written hwritten
      rw [or_iff_not_imp_left]
      exact fun hne hover => hlength ⟨written, hwritten, hne, hover⟩
  exact ⟨hframes, hframes.failure_iff⟩

/-- A head that declares a length and nothing else. -/
def headOfLength (written : Text) : ResponseHead :=
  ⟨200, "OK".toList, "HTTP/1.1".toList, [⟨"Content-Length".toList, written⟩]⟩

/-- A length with a zero in front of it and blanks around, and too few octets, in two parts. -/
theorem frames_read_cut :
    let reader := Reader.ofTransport (.ofArrivals true
      [.data (Utf8.encode "h".toList), .data (Utf8.encode "el".toList),
        .fault (Fault.named "SSLZeroReturnError".toList [])])
    reader.Supplies (Utf8.encode "hel".toList) ∧
      ∃ finished, read { ofHead (headOfLength " 05\t".toList) none "GET".toList reader with
        attached := true } = .error (.body (.cutBody 2)) finished := by
  intro reader
  have hsupplies : reader.Supplies (Utf8.encode "hel".toList) := Reader.supplies_ofTransport rfl
  have hplain : ¬ NamesChunked (headOfLength " 05\t".toList) :=
    not_namesChunked (by decide +kernel)
  have hvalue : (headOfLength " 05\t".toList).headers.value? "content-length".toList =
      some "05".toList := by decide +kernel
  have hfive : octetsOf "05".toList = 5 := by decide
  refine ⟨hsupplies, ?_⟩
  have hframes := (frames_read hsupplies "GET".toList (headOfLength " 05\t".toList) none).1
  generalize read { ofHead (headOfLength " 05\t".toList) none "GET".toList reader with
    attached := true } = result at hframes
  cases hframes with
  | bodiless hnone => exact absurd hnone (by unfold Bodiless; decide +kernel)
  | chunks hsome hchunked => exact absurd hchunked hplain
  | brokenChunks hsome hchunked => exact absurd hchunked hplain
  | hugeChunk hsome hchunked => exact absurd hchunked hplain
  | counted hsome hnone hlength hne hover hdigits hcovered =>
      cases hvalue.symm.trans hlength
      rw [hfive] at hcovered
      exact absurd hcovered (by decide)
  | @cut _ finished hsome hnone hlength =>
      cases hvalue.symm.trans hlength
      rw [hfive]
      exact ⟨finished, rfl⟩
  | refused hsome hnone hlength hrefused =>
      cases hvalue.symm.trans hlength
      exact absurd hrefused (not_isRefusedLength (by decide) (by decide))
  | rest hsome hnone hlength =>
      exact absurd (hlength _ hvalue) (by decide)

/-- A superscript passes for the digits of a length, and then the body is not read at all. -/
theorem read_takes_superscript_for_length :
    let result := read { ofHead (headOfLength "²".toList) none "GET".toList
      (.ofTransport (.ofArrivals false [.data (Utf8.encode "ok".toList)])) with attached := true }
    (∃ finished, result = .error (.value (.integer "²".toList .malformed)) finished) ∧
      ¬ ∀ failure, Step.failure? result = some failure → ∃ defect, failure = .body defect := by
  intro result
  have hframing : HttpFetch.Framing.ofHead (headOfLength "²".toList) "GET".toList =
      .badLength "²".toList .malformed := by decide +kernel
  obtain ⟨finished, hread⟩ := read_of_badLength hframing none
    (.ofTransport (.ofArrivals false [.data (Utf8.encode "ok".toList)]))
  have hresult : result = _ := hread
  rw [hresult]
  refine ⟨⟨finished, rfl⟩, fun hclaim => ?_⟩
  obtain ⟨defect, hdefect⟩ := hclaim _ rfl
  cases hdefect

end Response

end HttpFetch
