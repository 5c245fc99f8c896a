import HttpFetch.Proofs.Chunked.Grammar
import HttpFetch.Proofs.Response.HeadDecoding

/-!
# The grammar of responses

A response is a status line, at most 255 lines of fields, an empty line, and the body that its head
declares for the method of its request: none for some methods and statuses, so many octets as its
length says, or a body in chunked coding.  What is written is decoded, and what follows it is left.
-/

namespace HttpFetch

namespace Latin

theorem decodeOctet_injective : Function.Injective decodeOctet := by
  intro a b h
  exact UInt8.toNat_inj.mp (by rw [← toNat_decodeOctet a, ← toNat_decodeOctet b, h])

theorem notMem_decode {octet : UInt8} {data : Bytes} (h : octet ∉ data) :
    decodeOctet octet ∉ decode data := by
  rwa [decode, List.mem_map_of_injective decodeOctet_injective]

end Latin

/-! ## Heads -/

namespace ResponseHead

theorem lineText_cons {octet : UInt8} (h : octet ∉ ([13, 10] : Bytes)) (rest : Bytes) :
    lineText (octet :: rest) = Latin.decodeOctet octet :: lineText rest := by
  have hkept : Latin.decodeOctet octet ∉ ['\r', '\n'] := Latin.notMem_decode h
  exact Text.trimRight_append_cons [] (by simpa using hkept) (Latin.decode rest)

theorem lineText_lineEnd {ending : Bytes} (h : ending ∈ Bytes.lineEnds) : lineText ending = [] := by
  rw [Bytes.lineEnds, List.mem_cons, List.mem_singleton] at h
  rcases h with rfl | rfl <;> rfl

end ResponseHead

theorem StatusLine.areDigits_of_over {s : Text} (hne : s ≠ []) (hover : s.Over Text.decimalDigits) :
    areDigits s = true := by
  rw [areDigits, Bool.and_eq_true, List.all_eq_true]
  exact ⟨by simpa using hne, hover.forall_mem (by decide)⟩

/-- A status line: a version, a code of three digits, and perhaps a reason. -/
structure WrittenStatus where
  version : Bytes
  code : Text
  reason : Option Bytes
  ending : Bytes
  version_name : "HTTP/".toList <+: Latin.decode version
  version_line : (10 : UInt8) ∉ version
  version_word : (32 : UInt8) ∉ version
  code_over : code.Over Text.decimalDigits
  code_length : code.length = 3
  reason_line : ∀ text ∈ reason, (10 : UInt8) ∉ text
  ending_mem : ending ∈ Bytes.lineEnds

namespace WrittenStatus

variable (status : WrittenStatus)

def afterCode : Bytes :=
  match status.reason with
  | none => []
  | some text => 32 :: text

def octets : Bytes :=
  status.version ++ 32 :: (Utf8.encode status.code ++ status.afterCode) ++ status.ending

/-- The reason as text.  Returns at its end count to the end of the line. -/
def reasonText : Text :=
  match status.reason with
  | none => []
  | some text => ResponseHead.lineText (text ++ status.ending)

def number : Nat := Digit.value 10 (status.code.filterMap Digit.decimal?)

theorem code_ascii : ∀ c ∈ status.code, c.toNat < 128 :=
  status.code_over.forall_mem (P := fun c => c.toNat < 128) (by decide)

theorem code_ne_nil : status.code ≠ [] :=
  List.ne_nil_of_length_pos (by rw [status.code_length]; decide)

theorem afterCode_line : (10 : UInt8) ∉ status.afterCode := by
  unfold afterCode
  split
  next => exact List.not_mem_nil
  next text htext =>
    rw [List.mem_cons, not_or]
    exact ⟨by decide, status.reason_line text htext⟩

theorem isLine : Bytes.IsLine status.octets := by
  apply Bytes.isLine_append _ status.ending_mem
  simp only [List.mem_append, List.mem_cons, not_or]
  exact ⟨status.version_line, by decide,
    Latin.notMem_encode status.code_ascii (status.code_over.notMem (by decide)),
    status.afterCode_line⟩

/-- Only the end of the line is trimmed; it is told from the reason after the code. -/
theorem lineText_octets :
    ∃ after, ResponseHead.lineText status.octets =
        Latin.decode status.version ++ ' ' :: (status.code ++ after) ∧
      (Text.cut ' ' (status.code ++ after)).1 = status.code ∧
      (Text.cut ' ' (status.code ++ after)).2.getD [] = status.reasonText := by
  have hcode := status.code_over.forall_mem
    (P := fun c => (decide (c = '\r') || decide (c = '\n')) = false) (by decide)
  have hspace : ' ' ∉ status.code := status.code_over.notMem (by decide)
  have htext : ResponseHead.lineText status.octets =
      Latin.decode status.version ++ ' ' :: (status.code ++
        ResponseHead.lineText (status.afterCode ++ status.ending)) := by
    have hdecode : Latin.decode status.octets = Latin.decode status.version ++
        ' ' :: (status.code ++ Latin.decode (status.afterCode ++ status.ending)) := by
      have hspace : ∀ data, Latin.decode (32 :: data) = ' ' :: Latin.decode data := fun _ => rfl
      simp only [octets, List.append_assoc, List.cons_append, Latin.decode_append, hspace,
        Latin.decode_encode status.code_ascii]
    rw [ResponseHead.lineText, hdecode, Text.trimRight_append_cons _ (by decide),
      Text.trimRight_append hcode]
    rfl
  refine ⟨_, htext, ?_⟩
  unfold afterCode reasonText
  cases hreason : status.reason with
  | none =>
      rw [List.nil_append, ResponseHead.lineText_lineEnd status.ending_mem, List.append_nil,
        Text.cut_of_notMem hspace]
      exact ⟨rfl, rfl⟩
  | some text =>
      rw [List.cons_append, ResponseHead.lineText_cons (by decide)]
      rw [show Latin.decodeOctet 32 = ' ' from rfl, Text.cut_append_cons hspace]
      exact ⟨rfl, rfl⟩

theorem ofLine_octets :
    StatusLine.ofLine? (ResponseHead.lineText status.octets) =
      some ⟨Latin.decode status.version, status.code, status.reasonText⟩ := by
  obtain ⟨after, htext, hcode, hreason⟩ := status.lineText_octets
  have hversion : ' ' ∉ Latin.decode status.version := by
    have hspace := Latin.notMem_decode status.version_word
    exact hspace
  have hname : "HTTP/".toList.isPrefixOf (Latin.decode status.version) = true :=
    List.isPrefixOf_iff_prefix.mpr status.version_name
  have hdigits := StatusLine.areDigits_of_over status.code_ne_nil status.code_over
  rw [StatusLine.ofLine?, htext, Text.cut_append_cons hversion]
  simp only [hcode, hreason, hname, status.code_length, hdigits]
  rfl

theorem parse_code : Integer.parse status.code = .ok (status.number : Int) :=
  Integer.parse_of_over status.code_ne_nil status.code_over
    (by rw [status.code_length]; decide)

end WrittenStatus

/-- A head: a status line, the lines of its fields, and an empty line. -/
structure WrittenHead where
  status : WrittenStatus
  fields : List Bytes
  blankLine : Bytes
  fields_isLine : ∀ line ∈ fields, Bytes.IsLine line
  fields_not_blank : ∀ line ∈ fields, ResponseHead.lineText line ≠ []
  fields_length : fields.length ≤ 255
  blankLine_mem : blankLine ∈ Bytes.lineEnds

namespace WrittenHead

variable (written : WrittenHead)

def octets : Bytes := written.status.octets ++ (written.fields.flatten ++ written.blankLine)

def lines : List Bytes := written.status.octets :: (written.fields ++ [written.blankLine])

theorem lines_isLine : ∀ line ∈ written.lines, Bytes.IsLine line := by
  rw [lines, List.forall_mem_cons, List.forall_mem_append, List.forall_mem_singleton]
  exact ⟨written.status.isLine, written.fields_isLine, Bytes.isLine_lineEnd written.blankLine_mem⟩

/-- The fields that some lines hold, in reverse, after others. -/
def addLines (reversed : Headers) (lines : List Bytes) : Headers :=
  lines.foldl (fun reversed line => ResponseHead.addLine reversed (ResponseHead.lineText line))
    reversed

/-- The head that is written. -/
def head : ResponseHead :=
  ⟨written.status.number, written.status.reasonText, Latin.decode written.status.version,
    (addLines [] written.fields).reverse⟩

end WrittenHead

namespace ResponseHead

theorem decodeFields_append {fields : List Bytes} (hlines : ∀ line ∈ fields, Bytes.IsLine line)
    (hblank : ∀ line ∈ fields, lineText line ≠ []) {blankLine : Bytes}
    (hmem : blankLine ∈ Bytes.lineEnds) {limit : Nat} (hlimit : fields.length < limit)
    (reversed : Headers) (rest : Bytes) (lines : List Bytes) :
    decodeFields limit reversed ⟨fields.flatten ++ (blankLine ++ rest), lines⟩ =
      .ok (WrittenHead.addLines reversed fields).reverse
        ⟨rest, lines ++ (fields ++ [blankLine])⟩ := by
  induction fields generalizing limit reversed lines with
  | nil =>
      obtain ⟨limit, rfl⟩ := Nat.exists_eq_add_one_of_ne_zero (Nat.ne_zero_of_lt hlimit)
      obtain ⟨hfirst, hafter⟩ := (Bytes.isLine_lineEnd hmem).firstLine_append rest
      rw [List.flatten_nil, List.nil_append, decodeFields_succ]
      simp only [Wire.skipLine, hfirst, hafter]
      rw [if_pos (lineText_lineEnd hmem)]
      rfl
  | cons line fields ih =>
      obtain ⟨limit, rfl⟩ := Nat.exists_eq_add_one_of_ne_zero (Nat.ne_zero_of_lt hlimit)
      rw [List.forall_mem_cons] at hlines hblank
      obtain ⟨hfirst, hafter⟩ :=
        hlines.1.firstLine_append (fields.flatten ++ (blankLine ++ rest))
      have hrest := ih hlines.2 hblank.2 (Nat.lt_of_succ_lt_succ hlimit)
        (addLine reversed (lineText line)) (lines ++ [line])
      rw [List.append_assoc] at hrest
      rw [List.flatten_cons, List.append_assoc, decodeFields_succ]
      simp only [Wire.skipLine, hfirst, hafter]
      rw [if_neg hblank.1]
      exact hrest

/-- A written head is decoded, and what follows it is left. -/
theorem decode_written (written : WrittenHead) (rest : Bytes) (lines : List Bytes) :
    decode ⟨written.octets ++ rest, lines⟩ =
      .ok written.head ⟨rest, lines ++ written.lines⟩ := by
  have hsplit : written.octets ++ rest =
      written.status.octets ++ (written.fields.flatten ++ (written.blankLine ++ rest)) := by
    simp only [WrittenHead.octets, List.append_assoc]
  obtain ⟨hfirst, hafter⟩ := written.status.isLine.firstLine_append
    (written.fields.flatten ++ (written.blankLine ++ rest))
  have hfields : decodeFields maxLines []
      ⟨written.fields.flatten ++ (written.blankLine ++ rest), lines ++ [written.status.octets]⟩ =
      _ :=
    decodeFields_append written.fields_isLine written.fields_not_blank written.blankLine_mem
      (Nat.lt_succ_of_le written.fields_length) [] rest _
  have hne : written.octets ++ rest ≠ [] := by
    rw [hsplit]
    exact List.ne_nil_of_mem (List.mem_append_left _ written.status.isLine.lineFeed_mem)
  rw [List.append_assoc] at hfields
  rw [decode_eq, if_neg hne, hsplit]
  simp only [Wire.skipLine, hfirst, hafter]
  rw [decodeAfter, written.status.ofLine_octets]
  simp only [bind, EStateM.bind, hfields, written.status.parse_code]
  rfl

end ResponseHead

/-! ## Bodies -/

/-- Whether a response has no body, whatever its head says of one. -/
def Bodiless (method : Text) (status : Int) : Prop :=
  method.upper = "HEAD".toList ∨ (100 ≤ status ∧ status < 200) ∨ status = 204 ∨ status = 304

theorem Framing.hasBody_iff (status : Int) (method : Text) :
    hasBody status method = true ↔ ¬ Bodiless method status := by
  simp only [hasBody, Bodiless, Bool.and_eq_true, bne_iff_ne, ne_eq, Bool.not_eq_true',
    Bool.or_eq_false_iff, Bool.and_eq_false_iff, decide_eq_false_iff_not, not_or, not_and_or]
  tauto

theorem Headers.value?_eq (headers : Headers) (name : Text) :
    headers.value? name = (headers.values name).head?.map Text.trim := by
  rw [value?, values, List.head?_map, List.head?_filter, Option.map_map]
  rfl

theorem Text.occursIn_iff {part s : Text} : occursIn part s = true ↔ part <:+: s := by
  induction s with
  | nil => rw [occursIn, List.isEmpty_iff, List.infix_nil]
  | cons c s ih =>
      rw [occursIn, Bool.or_eq_true, List.isPrefixOf_iff_prefix, ih, List.infix_cons_iff]

/-- Whether the transfer coding of a head names chunked coding, in any case. -/
def NamesChunked (head : ResponseHead) : Prop :=
  ∃ coding, head.headers.value? "transfer-encoding".toList = some coding ∧
    "chunked".toList <:+: coding.lower

theorem not_namesChunked {head : ResponseHead}
    (h : head.headers.value? "transfer-encoding".toList = none) : ¬ NamesChunked head := by
  rintro ⟨coding, hcoding, -⟩
  cases h.symm.trans hcoding

namespace Framing

variable {method : Text} {head : ResponseHead}

theorem ofHead_bodiless (hnone : Bodiless method head.status) : ofHead head method = .none := by
  have hbody : hasBody head.status method = false := by
    rw [← Bool.not_eq_true, hasBody_iff]
    exact not_not_intro hnone
  simp [ofHead, hbody]

theorem ofHead_chunked (hsome : ¬ Bodiless method head.status) (hchunked : NamesChunked head) :
    ofHead head method = .chunked := by
  obtain ⟨coding, hcoding, hnamed⟩ := hchunked
  have hbody := (hasBody_iff _ _).mpr hsome
  simp only [ofHead, hbody, hcoding, Option.getD_some, Text.occursIn_iff.mpr hnamed]
  rfl

/-- Where no chunked coding is named, the length decides. -/
theorem ofHead_plain (hsome : ¬ Bodiless method head.status) (hplain : ¬ NamesChunked head) :
    ofHead head method =
      match head.headers.value? "content-length".toList with
      | .none => untilEnd
      | some written =>
        if StatusLine.areDigits written then
          match Integer.parse written with
          | .ok n => length n.toNat
          | .error defect => badLength written defect
        else untilEnd := by
  have hbody := (hasBody_iff _ _).mpr hsome
  have hnone : Text.occursIn "chunked".toList
      ((head.headers.value? "transfer-encoding".toList).getD []).lower = false := by
    cases hcoding : head.headers.value? "transfer-encoding".toList with
    | none =>
        rw [Option.getD_none]
        decide
    | some coding =>
        rw [Option.getD_some, ← Bool.not_eq_true, Text.occursIn_iff]
        exact fun hnamed => hplain ⟨coding, hcoding, hnamed⟩
  simp only [ofHead, hbody, hnone]
  rfl

/-- Digits alone tell a length. -/
theorem ofHead_length (hsome : ¬ Bodiless method head.status) (hplain : ¬ NamesChunked head)
    {digits : Text} (hlength : head.headers.value? "content-length".toList = some digits)
    (hne : digits ≠ []) (hover : digits.Over Text.decimalDigits) (hdigits : digits.length ≤ 4300) :
    ofHead head method = .length (Digit.value 10 (digits.filterMap Digit.decimal?)) := by
  rw [ofHead_plain hsome hplain, hlength]
  simp only [StatusLine.areDigits_of_over hne hover, Integer.parse_of_over hne hover hdigits]
  rfl

end Framing

/-- The body that a head declares for a method. -/
inductive WrittenBody (method : Text) (head : ResponseHead)
  | bodiless (none : Bodiless method head.status)
  | counted (digits : Text) (octets : Bytes) (has_body : ¬ Bodiless method head.status)
    (lengths : head.headers.values "content-length".toList = [digits])
    (codings : head.headers.values "transfer-encoding".toList = [])
    (digits_ne_nil : digits ≠ []) (digits_over : digits.Over Text.decimalDigits)
    (digits_length : digits.length ≤ 4300)
    (count_eq : octets.length = Digit.value 10 (digits.filterMap Digit.decimal?))
  | chunked (coding : Text) (body : Chunked.Body) (has_body : ¬ Bodiless method head.status)
    (codings : head.headers.values "transfer-encoding".toList = [coding])
    (coding_eq : coding.trim.lower = "chunked".toList)

namespace WrittenBody

variable {method : Text} {head : ResponseHead}

def octets : WrittenBody method head → Bytes
  | bodiless _ => []
  | counted _ octets .. => octets
  | chunked _ body .. => body.written

def lines : WrittenBody method head → List Bytes
  | bodiless _ | counted .. => []
  | chunked _ body .. => body.lines

theorem lines_isLine (body : WrittenBody method head) : ∀ line ∈ body.lines, Bytes.IsLine line := by
  cases body with
  | bodiless | counted => exact fun line hline => absurd hline List.not_mem_nil
  | chunked coding body => exact body.lines_isLine

/-- What is written, without its coding. -/
def content : WrittenBody method head → Bytes
  | bodiless _ => []
  | counted _ octets .. => octets
  | chunked _ body .. => body.pieces.flatten

def framing : WrittenBody method head → Framing
  | bodiless _ => .none
  | counted _ octets .. => .length octets.length
  | chunked .. => .chunked

theorem ofHead_eq (body : WrittenBody method head) : Framing.ofHead head method = body.framing := by
  cases body with
  | bodiless hnone => exact Framing.ofHead_bodiless hnone
  | counted digits octets hsome hlengths hcodings hne hover hlength hcount =>
      have hblank := hover.forall_mem (P := fun c => Text.isBlank c = false) (by decide)
      have htrim : digits.trim = digits := Text.trimOf_of_none hblank hne
      rw [framing, hcount]
      exact Framing.ofHead_length hsome
        (not_namesChunked (by rw [Headers.value?_eq, hcodings, List.head?_nil, Option.map_none]))
        (by rw [Headers.value?_eq, hlengths, List.head?_cons, Option.map_some, htrim]) hne hover
        hlength
  | chunked coding body hsome hcodings hcoding =>
      have hvalue : head.headers.value? "transfer-encoding".toList = some coding.trim := by
        rw [Headers.value?_eq, hcodings, List.head?_cons, Option.map_some]
      refine Framing.ofHead_chunked hsome ⟨coding.trim, hvalue, ?_⟩
      rw [hcoding]

end WrittenBody

/-! ## Responses -/

/-- A response to a request with a method, no line of it longer than readers take. -/
structure WrittenResponse (method : Text) where
  written : WrittenHead
  body : WrittenBody method written.head
  lines_length : ∀ line ∈ written.lines ++ body.lines, line.length ≤ 65536

namespace WrittenResponse

variable {method : Text}

variable (response : WrittenResponse method)

def head : ResponseHead := response.written.head

def content : Bytes := response.body.content

def octets : Bytes := response.written.octets ++ response.body.octets

def lines : List Bytes := response.written.lines ++ response.body.lines

theorem hasLines (rest : Bytes) : Wire.HasLines ⟨rest, response.lines⟩ := by
  intro line hline
  have hisLine : Bytes.IsLine line :=
    (List.mem_append.mp hline).elim (response.written.lines_isLine line)
      (response.body.lines_isLine line)
  have hlength := response.lines_length line hline
  exact ⟨hisLine.lineFeed_mem, by unfold Chunked.lineLimit; omega⟩

end WrittenResponse

end HttpFetch
