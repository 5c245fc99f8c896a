import HttpFetch.Proofs.Chunked.Truncation
import HttpFetch.Proofs.Response.Punctuality

/-!
# Heads that are cut short

A head ends with an empty line, and a connection that ends before it should be told from one that
goes on with the body.  It is told only while the status line has not come to the end of its code.
From there on the end of the data passes for the empty line: `WrittenHead.read_beginning` says that
the head is then taken for whole, with the fields that have arrived, the last of them perhaps
without a part of its value.
-/

namespace HttpFetch

namespace Bytes

/-- The lines of some octets with their line feeds; the last one may have none. -/
def lines (octets : Bytes) : List Bytes :=
  if octets = [] then [] else firstLine octets :: lines (afterLine octets)
termination_by octets.length
decreasing_by
  have hlength := length_afterLine octets
  have hline : firstLine octets ≠ [] := by simpa using ‹¬ octets = []›
  have hpos := List.length_pos_iff.mpr hline
  omega

theorem lines_nil : lines [] = [] := by
  rw [lines]
  simp

theorem lines_of_ne_nil {octets : Bytes} (h : octets ≠ []) :
    lines octets = firstLine octets :: lines (afterLine octets) := by
  rw [lines, if_neg h]

theorem lines_append {line : Bytes} (h : IsLine line) (rest : Bytes) :
    lines (line ++ rest) = line :: lines rest := by
  have hne : line ++ rest ≠ [] := List.ne_nil_of_mem (List.mem_append_left rest h.lineFeed_mem)
  obtain ⟨hfirst, hafter⟩ := h.firstLine_append rest
  rw [lines_of_ne_nil hne, hfirst, hafter]

/-- Written lines are the lines of what is written. -/
theorem lines_flatten {written : List Bytes} (h : ∀ line ∈ written, IsLine line) :
    lines written.flatten = written := by
  induction written with
  | nil => exact lines_nil
  | cons line written ih =>
      rw [List.forall_mem_cons] at h
      rw [List.flatten_cons, lines_append h.1, ih h.2]

end Bytes

/-! ## Status lines -/

namespace WrittenStatus

variable (status : WrittenStatus)

/-- The status line up to the end of its code. -/
def front : Bytes := status.version ++ 32 :: Utf8.encode status.code

theorem octets_eq : status.octets = status.front ++ (status.afterCode ++ status.ending) := by
  simp [octets, front]

theorem lineText_digits {digits : Text} (hover : digits.Over Text.decimalDigits)
    (behind : Bytes) :
    ResponseHead.lineText (status.version ++ 32 :: (Utf8.encode digits ++ behind)) =
      Latin.decode status.version ++ ' ' :: (digits ++ ResponseHead.lineText behind) := by
  have hascii := hover.forall_mem (P := fun c => c.toNat < 128) (by decide)
  have hkept := hover.forall_mem
    (P := fun c => (decide (c = '\r') || decide (c = '\n')) = false) (by decide)
  have hdecode : Latin.decode (status.version ++ 32 :: (Utf8.encode digits ++ behind)) =
      Latin.decode status.version ++ ' ' :: (digits ++ Latin.decode behind) := by
    have hspace : ∀ data, Latin.decode (32 :: data) = ' ' :: Latin.decode data := fun _ => rfl
    simp only [Latin.decode_append, hspace, Latin.decode_encode hascii]
  rw [ResponseHead.lineText, hdecode, Text.trimRight_append_cons _ (by decide),
    Text.trimRight_append hkept]
  rfl

/-- After the code there is a space and a reason, or nothing but a part of the end of the line. -/
theorem behind_cases {behind : Bytes} (h : behind <+: status.afterCode ++ status.ending) :
    (∃ text, behind = 32 :: text) ∨
      (ResponseHead.lineText behind = [] ∧ ResponseHead.lineText (behind.drop 1) = []) := by
  by_cases hhead : behind.head? = some 32
  · exact Or.inl ((List.head?_eq_some_iff.mp hhead).imp fun _ => id)
  right
  have hbehind : behind <+: status.ending := by
    unfold afterCode at h
    cases hreason : status.reason with
    | none => simpa [hreason] using h
    | some text =>
        simp only [hreason, List.cons_append] at h
        rcases List.prefix_cons_iff.mp h with rfl | ⟨rest, rfl, -⟩
        · exact List.nil_prefix
        · exact absurd rfl hhead
  have hends : ∀ part : Bytes, part ⊆ status.ending → ResponseHead.lineText part = [] := by
    intro part hpart
    apply Text.trimRight_of_all
    intro c hc
    obtain ⟨octet, hoctet, rfl⟩ := List.mem_map.mp hc
    have hending := status.ending_mem
    rw [Bytes.lineEnds, List.mem_cons, List.mem_singleton] at hending
    have hmem : octet = 13 ∨ octet = 10 := by
      have hoctet := hpart hoctet
      rcases hending with hending | hending <;> rw [hending] at hoctet <;> simp_all
    rcases hmem with rfl | rfl <;> decide
  exact ⟨hends behind hbehind.subset,
    hends _ (List.Subset.trans (List.drop_subset 1 behind) hbehind.subset)⟩

/-- A line that has come to the end of the code tells the status. -/
theorem ofLine_front {behind : Bytes} (h : behind <+: status.afterCode ++ status.ending) :
    StatusLine.ofLine? (ResponseHead.lineText (status.front ++ behind)) =
      some ⟨Latin.decode status.version, status.code,
        ResponseHead.lineText (behind.drop 1)⟩ := by
  have hversion : ' ' ∉ Latin.decode status.version := Latin.notMem_decode status.version_word
  have hspace : ' ' ∉ status.code := status.code_over.notMem (by decide)
  have hname : "HTTP/".toList.isPrefixOf (Latin.decode status.version) = true :=
    List.isPrefixOf_iff_prefix.mpr status.version_name
  have hdigits := StatusLine.areDigits_of_over status.code_ne_nil status.code_over
  have hcut : (Text.cut ' ' (status.code ++ ResponseHead.lineText behind)).1 = status.code ∧
      (Text.cut ' ' (status.code ++ ResponseHead.lineText behind)).2.getD [] =
        ResponseHead.lineText (behind.drop 1) := by
    rcases status.behind_cases h with ⟨text, rfl⟩ | ⟨hline, hreason⟩
    · rw [ResponseHead.lineText_cons (by decide), show Latin.decodeOctet 32 = ' ' from rfl,
        Text.cut_append_cons hspace]
      exact ⟨rfl, rfl⟩
    · rw [hline, hreason, List.append_nil, Text.cut_of_notMem hspace]
      exact ⟨rfl, rfl⟩
  have hline : status.front ++ behind =
      status.version ++ 32 :: (Utf8.encode status.code ++ behind) := by simp [front]
  rw [hline, status.lineText_digits status.code_over, StatusLine.ofLine?,
    Text.cut_append_cons hversion]
  simp only [hcut.1, hcut.2, hname, hdigits, status.code_length]
  rfl

/-- A line that has not come to the end of the code is no status line. -/
theorem ofLine_short {part : Bytes} (hpart : part <+: status.octets)
    (hshort : ¬ status.front <+: part) :
    StatusLine.ofLine? (ResponseHead.lineText part) = none := by
  rw [octets_eq] at hpart
  have hfront : part <+: status.front := by
    rcases Bytes.prefix_or_of_prefix_append hpart with hfront | ⟨rest, rfl, -⟩
    · exact hfront
    · exact absurd (List.prefix_append _ _) hshort
  have hversion : ' ' ∉ Latin.decode status.version := Latin.notMem_decode status.version_word
  have hword : part <+: status.version →
      StatusLine.ofLine? (ResponseHead.lineText part) = none := by
    intro hbegins
    have hspace : ' ' ∉ ResponseHead.lineText part := by
      intro hmem
      have htext : ResponseHead.lineText part <+: Latin.decode part :=
        List.rdropWhile_prefix _ (Latin.decode part)
      exact hversion ((hbegins.map Latin.decodeOctet).subset (htext.subset hmem))
    rw [StatusLine.ofLine?, Text.cut_of_notMem hspace]
  rcases Bytes.prefix_or_of_prefix_append hfront with hbegins | ⟨rest, rfl, hrest⟩
  · exact hword hbegins
  rcases List.prefix_cons_iff.mp hrest with rfl | ⟨written, rfl, hwritten⟩
  · exact hword (by simp)
  obtain ⟨digits, hdigits, rfl⟩ := Latin.exists_of_cut_encode status.code_ascii hwritten
  have hover : digits.Over Text.decimalDigits :=
    fun c hc => status.code_over c (hdigits.subset hc)
  have hlength : digits.length ≠ 3 := by
    intro hlength
    have hall : digits = status.code :=
      hdigits.eq_of_length (hlength.trans status.code_length.symm)
    apply hshort
    rw [front, hall]
  have hline := status.lineText_digits hover []
  rw [List.append_nil, show ResponseHead.lineText [] = [] from rfl, List.append_nil] at hline
  rw [hline, StatusLine.ofLine?, Text.cut_append_cons hversion]
  have hspace : ' ' ∉ digits := hover.notMem (by decide)
  simp [Text.cut_of_notMem hspace, hlength]

end WrittenStatus

/-! ## Fields -/

namespace ResponseHead

theorem addLine_nil (reversed : Headers) : addLine reversed [] = reversed := by
  cases reversed <;> rfl

/-- Where the data ends between lines, the end passes for the empty line. -/
theorem decodeFields_nil {limit : Nat} (hlimit : 0 < limit) (reversed : Headers)
    (lines : List Bytes) :
    decodeFields limit reversed ⟨[], lines⟩ = .ok reversed.reverse ⟨[], lines ++ [[]]⟩ := by
  obtain ⟨limit, rfl⟩ := Nat.exists_eq_add_one_of_ne_zero hlimit.ne'
  rfl

/-- Where the data ends inside a line, the line is added as it is. -/
theorem decodeFields_cut_line {line part : Bytes} (hline : Bytes.IsLine line)
    (hpart : part <+: line) {limit : Nat} (hlimit : 0 < limit) (reversed : Headers)
    (lines : List Bytes) :
    ∃ taken, decodeFields (limit + 1) reversed ⟨part, lines⟩ =
        .ok (addLine reversed (lineText part)).reverse ⟨[], lines ++ part :: taken⟩ ∧
      ∀ line ∈ taken, line = [] := by
  obtain ⟨hfirst, hafter⟩ := hline.firstLine_of_cut hpart
  rw [decodeFields_succ]
  simp only [Wire.skipLine, hfirst, hafter]
  by_cases hempty : lineText part = []
  · rw [if_pos hempty, hempty, addLine_nil]
    exact ⟨[], rfl, by simp⟩
  · rw [if_neg hempty, decodeFields_nil hlimit]
    exact ⟨[[]], by simp, by simp⟩

theorem decodeFields_of_cut {fields : List Bytes} (hlines : ∀ line ∈ fields, Bytes.IsLine line)
    (hblank : ∀ line ∈ fields, lineText line ≠ []) (blankLine : Bytes) {part : Bytes}
    (hpart : part <+: fields.flatten) {limit : Nat} (hlimit : fields.length < limit)
    (reversed : Headers) (lines : List Bytes) :
    ∃ left, decodeFields limit reversed ⟨part, lines⟩ =
        .ok (WrittenHead.addLines reversed (Bytes.lines part)).reverse left ∧
      Chunked.TakesFrom lines (fields ++ [blankLine]) left.lines := by
  have hend : ∀ ahead before : List Bytes,
      Chunked.TakesFrom before (ahead ++ [blankLine]) (before ++ [[]]) := by
    intro ahead before
    exact (Chunked.TakesFrom.refl before _).append (by simp) (List.nil_prefix (l := blankLine))
  induction fields generalizing part limit reversed lines with
  | nil =>
      rw [List.flatten_nil, List.prefix_nil] at hpart
      subst hpart
      rw [decodeFields_nil hlimit, Bytes.lines_nil]
      exact ⟨_, rfl, hend [] lines⟩
  | cons line fields ih =>
      by_cases hnil : part = []
      · subst hnil
        rw [decodeFields_nil (Nat.zero_lt_of_lt hlimit), Bytes.lines_nil]
        exact ⟨_, rfl, hend _ lines⟩
      obtain ⟨limit, rfl⟩ := Nat.exists_eq_add_one_of_ne_zero (Nat.ne_zero_of_lt hlimit)
      rw [List.forall_mem_cons] at hlines hblank
      have hroom : fields.length < limit := Nat.lt_of_succ_lt_succ hlimit
      have hmem : line ∈ line :: fields ++ [blankLine] := List.mem_cons_self
      rw [Bytes.lines_of_ne_nil hnil]
      rw [List.flatten_cons] at hpart
      rcases Bytes.prefix_or_of_prefix_append hpart with hline | ⟨behind, rfl, hbehind⟩
      · obtain ⟨hfirst, hafter⟩ := hlines.1.firstLine_of_cut hline
        obtain ⟨taken, hdecode, htaken⟩ :=
          decodeFields_cut_line hlines.1 hline (Nat.zero_lt_of_lt hroom) reversed lines
        rw [hfirst, hafter, Bytes.lines_nil, hdecode]
        refine ⟨_, rfl, ?_⟩
        intro next hnext
        rw [List.mem_append, List.mem_cons] at hnext
        rcases hnext with hnext | rfl | hnext
        · exact Or.inl hnext
        · exact Or.inr ⟨line, hmem, hline⟩
        · exact Or.inr ⟨line, hmem, htaken next hnext ▸ List.nil_prefix⟩
      · obtain ⟨hfirst, hafter⟩ := hlines.1.firstLine_append behind
        obtain ⟨left, hdecode, htakes⟩ := ih hlines.2 hblank.2 hbehind hroom
          (addLine reversed (lineText line)) (lines ++ [line])
        refine ⟨left, ?_, ?_⟩
        · rw [decodeFields_succ]
          simp only [Wire.skipLine, hfirst, hafter, if_neg hblank.1, hdecode]
          rfl
        · have htakes_line := (Chunked.TakesFrom.refl lines _).append hmem (List.prefix_refl line)
          exact htakes_line.trans (htakes.mono (List.subset_cons_self _ _))

end ResponseHead

/-! ## Heads -/

namespace WrittenHead

variable (written : WrittenHead)

/-- The head that passes for whole when only its beginning arrives. -/
def headOf (received : Bytes) : ResponseHead where
  status := written.status.number
  reason :=
    ResponseHead.lineText ((Bytes.firstLine received).drop (written.status.front.length + 1))
  version := Latin.decode written.status.version
  headers := (addLines [] (Bytes.lines (Bytes.afterLine received))).reverse

/-- A beginning of a head ends in the status line or in the fields. -/
theorem beginning_cases {received : Bytes}
    (h : received <+: written.status.octets ++ written.fields.flatten) :
    (Bytes.firstLine received = received ∧ Bytes.afterLine received = [] ∧
        received <+: written.status.octets) ∨
      (Bytes.firstLine received = written.status.octets ∧
        Bytes.afterLine received <+: written.fields.flatten) := by
  rcases Bytes.prefix_or_of_prefix_append h with hline | ⟨behind, rfl, hbehind⟩
  · obtain ⟨hfirst, hafter⟩ := written.status.isLine.firstLine_of_cut hline
    exact Or.inl ⟨hfirst, hafter, hline⟩
  · obtain ⟨hfirst, hafter⟩ := written.status.isLine.firstLine_append behind
    rw [hfirst, hafter]
    exact Or.inr ⟨rfl, hbehind⟩

/-- The first line of a beginning that has come to the end of the code tells the status. -/
theorem ofLine_beginning {received : Bytes}
    (h : received <+: written.status.octets ++ written.fields.flatten)
    (hfront : written.status.front <+: received) :
    StatusLine.ofLine? (ResponseHead.lineText (Bytes.firstLine received)) =
      some ⟨Latin.decode written.status.version, written.status.code,
        (written.headOf received).reason⟩ := by
  have hline : ∃ behind, Bytes.firstLine received = written.status.front ++ behind ∧
      behind <+: written.status.afterCode ++ written.status.ending := by
    rcases written.beginning_cases h with ⟨hfirst, -, hpart⟩ | ⟨hfirst, -⟩
    · obtain ⟨behind, rfl⟩ := hfront
      rw [written.status.octets_eq, List.prefix_append_right_inj] at hpart
      exact ⟨behind, hfirst, hpart⟩
    · exact ⟨_, hfirst.trans written.status.octets_eq, List.prefix_refl _⟩
  obtain ⟨behind, hfirst, hbehind⟩ := hline
  rw [headOf, hfirst, written.status.ofLine_front hbehind, List.drop_length_add_append]

theorem decode_beginning {received : Bytes}
    (h : received <+: written.status.octets ++ written.fields.flatten) :
    ∃ left, ResponseHead.decode (Wire.ofBytes received) =
        (if written.status.front <+: received then .ok (written.headOf received) left
          else .error (.head (if received = [] then .empty
            else .statusLine (ResponseHead.lineText received))) left) ∧
      Chunked.TakesFrom [] written.lines left.lines := by
  have hline : ∀ {line : Bytes}, line <+: written.status.octets →
      Chunked.TakesFrom [] written.lines [line] := by
    intro line hline
    exact (Chunked.TakesFrom.refl [] _).append List.mem_cons_self hline
  have hdecode : ResponseHead.decode (Wire.ofBytes received) =
      if received = [] then
        .error (.head .empty) ⟨Bytes.afterLine received, [Bytes.firstLine received]⟩
      else ResponseHead.decodeAfter (ResponseHead.lineText (Bytes.firstLine received))
        ⟨Bytes.afterLine received, [Bytes.firstLine received]⟩ :=
    ResponseHead.decode_eq _
  rw [hdecode]
  by_cases hfront : written.status.front <+: received
  · have hne : received ≠ [] := by
      rintro rfl
      simp [WrittenStatus.front] at hfront
    have hfields : Bytes.afterLine received <+: written.fields.flatten ∧
        Bytes.firstLine received <+: written.status.octets := by
      rcases written.beginning_cases h with ⟨hfirst, hafter, hpart⟩ | ⟨hfirst, hafter⟩
      · rw [hfirst, hafter]
        exact ⟨List.nil_prefix, hpart⟩
      · exact ⟨hafter, hfirst ▸ List.prefix_refl _⟩
    obtain ⟨left, hread, htakes⟩ := ResponseHead.decodeFields_of_cut
      written.fields_isLine written.fields_not_blank written.blankLine hfields.1
      (Nat.lt_succ_of_le written.fields_length) [] [Bytes.firstLine received]
    refine ⟨left, ?_, (hline hfields.2).trans (htakes.mono (List.subset_cons_self _ _))⟩
    rw [if_pos hfront, if_neg hne, ResponseHead.decodeAfter]
    simp only [written.ofLine_beginning h hfront, bind, EStateM.bind, ResponseHead.maxLines,
      hread, written.status.parse_code]
    rfl
  · have hpart : Bytes.firstLine received = received ∧ received <+: written.status.octets := by
      rcases written.beginning_cases h with ⟨hfirst, -, hpart⟩ | ⟨hfirst, -⟩
      · exact ⟨hfirst, hpart⟩
      · have hwhole : written.status.front <+: Bytes.firstLine received := by
          rw [hfirst, written.status.octets_eq]
          exact List.prefix_append _ _
        have hbegins : Bytes.firstLine received <+: received :=
          ⟨_, Bytes.firstLine_append_afterLine received⟩
        exact absurd (hwhole.trans hbegins) hfront
    rw [hpart.1]
    refine ⟨⟨Bytes.afterLine received, [received]⟩, ?_, hline hpart.2⟩
    rw [if_neg hfront]
    by_cases hnil : received = []
    · rw [if_pos hnil, if_pos hnil]
    · rw [if_neg hnil, if_neg hnil, ResponseHead.decodeAfter,
        written.status.ofLine_short hpart.2 hfront]
      rfl

/-- A beginning of a head, if that is all that arrives, is refused as long as its status line has
not come to the end of the code, and otherwise it is taken for the whole head. -/
theorem read_beginning (hlines : ∀ line ∈ written.lines, line.length ≤ 65536) {received : Bytes}
    (hreceived : received <+: written.status.octets ++ written.fields.flatten)
    {transport : Transport} (hdelivers : transport.Delivers received) :
    let result := ResponseHead.read (.ofTransport transport)
    (¬ written.status.front <+: received →
      ∃ reader, result = .error (.head (if received = [] then .empty
        else .statusLine (ResponseHead.lineText received))) reader) ∧
    (written.status.front <+: received →
      ∃ reader, result = .ok (written.headOf received) reader) := by
  intro result
  obtain ⟨left, hdecode, htakes⟩ := written.decode_beginning hreceived
  have hagrees := ResponseHead.read_refines.agrees (Reader.ofTransport transport)
    (Wire.ofBytes received) hdelivers.supplies
  rw [hdecode] at hagrees
  constructor
  · intro hshort
    rw [if_neg hshort] at hagrees
    obtain ⟨reader, hread, -⟩ := (hagrees (htakes.withinLimit hlines)).of_error
    exact ⟨reader, hread⟩
  · intro hfront
    rw [if_pos hfront] at hagrees
    obtain ⟨reader, hread, -⟩ := (hagrees (htakes.withinLimit hlines)).of_ok
    exact ⟨reader, hread⟩

/-- A response that sets a cookie for connections over TLS only. -/
def ofSecureCookie : WrittenHead where
  -- `HTTP/1.1 200 OK`
  status := WrittenResponse.ofTwoOctets.written.status
  fields := [Utf8.encode "Set-Cookie: sid=1; Secure\r\n".toList]
  blankLine := Chunked.lineEnd
  fields_isLine := by
    rw [List.forall_mem_singleton]
    exact ⟨Utf8.encode "Set-Cookie: sid=1; Secure\r".toList, by decide +kernel, by decide +kernel⟩
  fields_not_blank := by
    rw [List.forall_mem_singleton]
    decide +kernel
  fields_length := by decide
  blankLine_mem := Bytes.lineEnd_mem

/-- A status line that is cut inside its code. -/
theorem read_beginning_inside_code :
    ∃ reader, ResponseHead.read (.ofTransport (.ofArrivals false
      [.data (Utf8.encode "HTTP/1.".toList), .data (Utf8.encode "1 20".toList)])) =
      .error (.head (.statusLine "HTTP/1.1 20".toList)) reader := by
  have hdelivers : Transport.Delivers (.ofArrivals false
      [.data (Utf8.encode "HTTP/1.".toList), .data (Utf8.encode "1 20".toList)])
      (Utf8.encode "HTTP/1.1 20".toList) :=
    ⟨[Utf8.encode "HTTP/1.".toList, Utf8.encode "1 20".toList], by decide +kernel, Or.inl rfl⟩
  have hread := (ofSecureCookie.read_beginning (by decide +kernel) (by decide +kernel) hdelivers).1
    (by decide +kernel)
  have hline : ResponseHead.lineText (Utf8.encode "HTTP/1.1 20".toList) = "HTTP/1.1 20".toList := by
    decide +kernel
  rwa [if_neg (by decide +kernel), hline] at hread

/-- A field that is cut loses the end of its value, and nothing tells. -/
theorem read_takes_end_for_blankLine :
    let received := Utf8.encode "HTTP/1.1 200 OK\r\nSet-Cookie: sid=1".toList
    (∀ line ∈ ofSecureCookie.lines, line.length ≤ 65536) ∧
      received <+: ofSecureCookie.status.octets ++ ofSecureCookie.fields.flatten ∧
      ∃ reader, ResponseHead.read (.ofTransport (.ofArrivals false [.data received])) =
        .ok ⟨200, "OK".toList, "HTTP/1.1".toList,
          [⟨"Set-Cookie".toList, "sid=1".toList⟩]⟩ reader := by
  intro received
  have hbegins : received <+: ofSecureCookie.status.octets ++ ofSecureCookie.fields.flatten := by
    decide +kernel
  have hlines : ∀ line ∈ ofSecureCookie.lines, line.length ≤ 65536 := by decide +kernel
  refine ⟨hlines, hbegins, ?_⟩
  have hdelivers : Transport.Delivers (.ofArrivals false [.data received]) received :=
    ⟨[received], List.flatten_singleton, Or.inl rfl⟩
  obtain ⟨left, hdecode, htakes⟩ := ofSecureCookie.decode_beginning hbegins
  have hagrees := ResponseHead.read_refines.agrees _ (Wire.ofBytes received) hdelivers.supplies
  rw [hdecode, if_pos (by decide +kernel)] at hagrees
  obtain ⟨reader, hread, -⟩ := (hagrees (htakes.withinLimit hlines)).of_ok
  have hhead : ofSecureCookie.headOf received = ⟨200, "OK".toList, "HTTP/1.1".toList,
      [⟨"Set-Cookie".toList, "sid=1".toList⟩]⟩ := by decide +kernel
  exact ⟨reader, hhead ▸ hread⟩

end WrittenHead

end HttpFetch
