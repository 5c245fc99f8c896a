import HttpFetch.Proofs.Exchange.RequestLines
import HttpFetch.Proofs.Url.Hosts

/-!
# Requests are read back

What precedes the body is cut at its line ends into the request line, a line for each field, and two
empty texts.  The lines of the fields are read as the fields that were written, in their order and
as often, and the host comes first when no other field names it (`Request.prelude_readsBack`).
-/

namespace HttpFetch

namespace Utf8

/-- Every text is decoded from its octets. -/
theorem decode_encode (s : Text) : decode (encode s) = s := by
  have hread : ∀ reversed, (encode s).foldl Decoder.step ⟨reversed, none⟩ =
      ⟨s.reverse ++ reversed, none⟩ := by
    induction s with
    | nil => exact fun reversed => rfl
    | cons c s ih =>
        intro reversed
        rw [encode, List.flatMap_cons, List.foldl_append, foldl_step_encodeChar]
        simpa [encode] using ih (c :: reversed)
  simp [decode, hread, Decoder.text]

end Utf8

namespace Text

/-- The texts between the line ends. -/
def splitLines : Text → List Text
  | '\r' :: '\n' :: rest => [] :: splitLines rest
  | c :: rest => (splitLines rest).modifyHead (c :: ·)
  | [] => [[]]

theorem splitLines_append {line : Text} (h : '\r' ∉ line) (rest : Text) :
    splitLines (line ++ '\r' :: '\n' :: rest) = line :: splitLines rest := by
  induction line with
  | nil => rfl
  | cons c line ih =>
      rw [List.mem_cons, not_or] at h
      rw [List.cons_append, splitLines, ih h.2]
      · rfl
      · rintro after rfl -
        exact h.1 rfl

/-- Lines that hold no carriage return are what a text falls into that ends each of them. -/
theorem splitLines_flatMap {lines : List Text} (h : ∀ line ∈ lines, '\r' ∉ line) (rest : Text) :
    splitLines (lines.flatMap (· ++ "\r\n".toList) ++ rest) = lines ++ splitLines rest := by
  induction lines with
  | nil => rfl
  | cons line lines ih =>
      rw [List.forall_mem_cons] at h
      have hline : (line :: lines).flatMap (· ++ "\r\n".toList) ++ rest =
          line ++ '\r' :: '\n' :: (lines.flatMap (· ++ "\r\n".toList) ++ rest) := by simp
      rw [hline, splitLines_append h.1, ih h.2]
      rfl

end Text

namespace Field

/-- What callers promise of a field: its line is one line, and its name ends at the colon. -/
structure IsWritable (field : Field) : Prop where
  name_ne_nil : field.name ≠ []
  name_trimmed : field.name.trim = field.name
  no_colon : ':' ∉ field.name
  name_unbroken : field.name.IsUnbroken
  value_unbroken : field.value.IsUnbroken

instance (field : Field) : Decidable field.IsWritable :=
  decidable_of_iff (field.name ≠ [] ∧ field.name.trim = field.name ∧ ':' ∉ field.name ∧
      field.name.IsUnbroken ∧ field.value.IsUnbroken)
    ⟨fun ⟨hne, htrim, hcolon, hname, hvalue⟩ => ⟨hne, htrim, hcolon, hname, hvalue⟩,
      fun h => ⟨h.name_ne_nil, h.name_trimmed, h.no_colon, h.name_unbroken, h.value_unbroken⟩⟩

/-- The field without the blanks around its value. -/
def trimmed (field : Field) : Field := { field with value := field.value.trim }

theorem ofLine_line {field : Field} (hne : field.name ≠ []) (htrim : field.name.trim = field.name)
    (hcolon : ':' ∉ field.name) : ofLine? field.line = some field.trimmed := by
  have hline : field.line = field.name ++ ':' :: ([' '] ++ field.value) := by simp [line]
  have hvalue : Text.trim ([' '] ++ field.value) = field.value.trim :=
    Text.trimOf_append_left (List.forall_mem_singleton.mpr (by decide)) field.value
  rw [ofLine?, hline, Text.cut_append_cons hcolon]
  simp only [htrim, hvalue, List.isEmpty_eq_false_iff.mpr hne]
  rfl

end Field

theorem Headers.has_eq_any (headers : Headers) (name : Text) :
    headers.has name = headers.any (Field.isNamed name) := by
  rw [has, value?, Option.isSome_map, Bool.eq_iff_iff, List.find?_isSome, List.any_eq_true]

namespace Request

variable {request : Request} {method : Text} {url : Url} {cookies : Headers} {prelude : Bytes}

theorem splitLines_prelude (hurl : url.Spelled) (hmethod : method.IsUnbroken)
    (hfields : ∀ field ∈ request.headers ++ cookies, field.IsWritable)
    (h : request.prelude method url cookies = .ok prelude) :
    Text.splitLines (Utf8.decode prelude) =
      request.preludeLines method url cookies ++ [[], []] := by
  have hunbroken := preludeLines_unbroken hmethod hurl fun field hfield =>
    ⟨(hfields field hfield).name_unbroken, (hfields field hfield).value_unbroken⟩
  have htext : Utf8.decode prelude =
      (request.preludeLines method url cookies).flatMap (· ++ "\r\n".toList) ++ "\r\n".toList := by
    unfold Request.prelude at h
    split at h
    · cases h
    · cases h
      have hend : "\r\n\r\n".toList = "\r\n".toList ++ "\r\n".toList := rfl
      rw [Utf8.decode_encode, hend, preludeLines, ← List.append_assoc, Text.intercalate_append]
  rw [htext, Text.splitLines_flatMap fun line hline => (hunbroken line hline).2.1]
  rfl

theorem ofLine_fields (hfields : ∀ field ∈ request.headers ++ cookies, field.IsWritable) :
    ((request.headers ++ cookies).map Field.line).map Field.ofLine? =
      ((request.headers ++ cookies).map Field.trimmed).map some := by
  simp only [List.map_map]
  apply List.map_congr_left
  intro field hfield
  have hwritable := hfields field hfield
  exact Field.ofLine_line hwritable.name_ne_nil hwritable.name_trimmed hwritable.no_colon

theorem ofLine_hostField {written : Text} (hurl : Url.parse written = .ok url) :
    ((request.hostField url).map Field.line).map Field.ofLine? =
      (request.hostField url).map some := by
  unfold hostField
  split
  · rfl
  · have htrim : Text.trim "Host".toList = "Host".toList := by decide
    have hcolon : ':' ∉ "Host".toList := by decide
    have hread : Field.ofLine? (Field.line ⟨"Host".toList, url.netloc⟩) =
        some (Field.trimmed ⟨"Host".toList, url.netloc⟩) :=
      Field.ofLine_line (by simp) htrim hcolon
    simp only [List.map_cons, List.map_nil, hread, Field.trimmed, Url.netloc_trim hurl]

theorem countP_hostField (request : Request) (url : Url) :
    (request.hostField url).countP (Field.isNamed "host".toList) +
        request.headers.countP (Field.isNamed "host".toList) =
      max 1 (request.headers.countP (Field.isNamed "host".toList)) := by
  have hname : Field.isNamed "host".toList ⟨"Host".toList, url.netloc⟩ = true := by
    have hlower : Text.sameLower "Host".toList "host".toList = true := by decide +kernel
    exact hlower
  unfold hostField
  rw [Headers.has_eq_any]
  split
  next hnamed =>
    have hpos : 0 < request.headers.countP (Field.isNamed "host".toList) := by
      rwa [List.countP_pos_iff, ← List.any_eq_true]
    rw [List.countP_nil]
    omega
  next hnamed =>
    rw [List.countP_singleton, if_pos hname]
    have hzero : request.headers.countP (Field.isNamed "host".toList) = 0 := by
      simpa only [List.countP_eq_zero, List.any_eq_true, not_exists, not_and] using hnamed
    omega

/-- What precedes the body is read back: the request line with its three parts, and the fields with
the blanks around their values gone.  The host comes first unless a field of the request names
one. -/
theorem prelude_readsBack {written : Text} (hurl : Url.parse written = .ok url)
    (hspace : ' ' ∉ method) (hmethod : method.IsUnbroken)
    (hfields : ∀ field ∈ request.headers ++ cookies, field.IsWritable)
    (hprelude : request.prelude method url cookies = .ok prelude) :
    let named := Field.isNamed "host".toList
    let host : Headers := if request.headers.any named then [] else [⟨"Host".toList, url.netloc⟩]
    let fields := host ++ (request.headers ++ cookies).map Field.trimmed
    ∃ first lines, Text.splitLines (Utf8.decode prelude) = first :: lines ++ [[], []] ∧
      Text.splitOn (· == ' ') first = [method, url.target, "HTTP/1.1".toList] ∧
      lines.map Field.ofLine? = fields.map some ∧
      fields.countP named = max 1 (request.headers.countP named) + cookies.countP named := by
  intro named host fields
  have hspelled := Url.parse_spelled hurl
  have hhost : request.hostField url = host := by rw [hostField, Headers.has_eq_any]
  refine ⟨line method url, (request.hostField url ++ request.headers ++ cookies).map Field.line,
    splitLines_prelude hspelled hmethod hfields hprelude, ?_, ?_, ?_⟩
  · apply splitOn_line hspace
    intro hmem
    exact absurd (hspelled.isVisible_of_mem_target _ hmem) (by decide)
  · rw [List.append_assoc, List.map_append, List.map_append, ofLine_hostField hurl,
      ofLine_fields hfields, ← List.map_append, hhost]
  · have htrimmed : ∀ headers : Headers,
        (headers.map Field.trimmed).countP named = headers.countP named := by
      intro headers
      rw [List.countP_map]
      rfl
    have hcount : (request.hostField url).countP named + request.headers.countP named =
        max 1 (request.headers.countP named) := countP_hostField request url
    rw [List.countP_append, htrimmed, List.countP_append, ← hhost, ← Nat.add_assoc, hcount]

/-- Fields that occur twice are read twice, and a value loses the blanks around it only. -/
theorem prelude_readsBack_twice :
    let url : Url := ⟨"http".toList, [], "e.com".toList, some 8080, "/a".toList, none, none⟩
    let twice : Headers := [⟨"X".toList, " 1:2 ".toList⟩, ⟨"X".toList, [] ⟩]
    let cookies : Headers := [⟨"Cookie".toList, "a=1".toList⟩]
    let request : Request := ⟨twice, none, none, none⟩
    ∃ prelude first lines, request.prelude "GET".toList url cookies = .ok prelude ∧
      Text.splitLines (Utf8.decode prelude) = first :: lines ++ [[], []] ∧
      Text.splitOn (· == ' ') first = ["GET".toList, "/a".toList, "HTTP/1.1".toList] ∧
      lines.map Field.ofLine? =
        [some ⟨"Host".toList, "e.com:8080".toList⟩, some ⟨"X".toList, "1:2".toList⟩,
          some ⟨"X".toList, []⟩, some ⟨"Cookie".toList, "a=1".toList⟩] := by
  intro url twice cookies request
  have hurl : Url.parse "http://e.com:8080/a".toList = .ok url := by decide +kernel
  have hfields : ∀ field ∈ request.headers ++ cookies, field.IsWritable := by decide +kernel
  have hwritten : (request.prelude "GET".toList url cookies).toOption.isSome = true := by
    decide +kernel
  cases hprelude : request.prelude "GET".toList url cookies with
  | error failure =>
      rw [hprelude] at hwritten
      cases hwritten
  | ok prelude =>
      obtain ⟨first, lines, hlines, hfirst, hread, -⟩ :=
        prelude_readsBack hurl (by decide) (by decide) hfields hprelude
      exact ⟨prelude, first, lines, rfl, hlines, hfirst, hread.trans (by decide +kernel)⟩

end Request

end HttpFetch
