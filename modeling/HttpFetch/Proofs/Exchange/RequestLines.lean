import HttpFetch.Proofs.Cookie.RoundTrip
import HttpFetch.Proofs.Response.HeadTruncation
import HttpFetch.Proofs.Url.Spelling

/-!
# The lines of a request

What precedes the body is cut into lines by a line feed, and an empty line ends it.  Method, fields
and cookies come from the caller or are checked elsewhere, but the URL of a request may have been
sent by a server.  It is quoted in two lines and breaks neither (`Request.redirected_prelude`).
-/

namespace HttpFetch

open Chunked (lineEnd)

/-! ## Encoded texts -/

namespace Utf8

/-- An octet of ASCII is in the code of its own character only. -/
theorem eq_of_mem_encodeChar {c : Char} {octet : UInt8} (h : octet ∈ encodeChar c)
    (hascii : octet.toNat < 128) : c = Latin.decodeOctet octet := by
  have hvalid := toNat_cases c
  have hnat : octet.toNat = c.toNat := by
    unfold encodeChar at h
    dsimp only at h
    split at h
    next hone =>
      rw [List.mem_singleton.mp h]
      exact UInt8.toNat_ofNat_of_lt' (by show c.toNat < 256; omega)
    -- The octets of the other characters begin at 128.
    split_ifs at h
    all_goals
      simp only [List.mem_cons, List.not_mem_nil, or_false] at h
      exfalso
    · rcases h with rfl | rfl <;> simp only [UInt8.toNat_ofNat'] at hascii <;> omega
    · rcases h with rfl | rfl | rfl <;> simp only [UInt8.toNat_ofNat'] at hascii <;> omega
    · rcases h with rfl | rfl | rfl | rfl <;> simp only [UInt8.toNat_ofNat'] at hascii <;> omega
  rw [Latin.decodeOctet, hnat, Char.ofNat_toNat]

theorem notMem_encode {s : Text} {octet : UInt8} (hascii : octet.toNat < 128)
    (h : Latin.decodeOctet octet ∉ s) : octet ∉ encode s := by
  intro hmem
  obtain ⟨c, hc, hoctet⟩ := List.mem_flatMap.mp hmem
  rw [eq_of_mem_encodeChar hoctet hascii] at hc
  exact h hc

theorem encode_ne_nil {s : Text} (h : s ≠ []) : encode s ≠ [] := by
  obtain ⟨c, s, rfl⟩ := List.exists_cons_of_ne_nil h
  have hchar : encodeChar c ≠ [] := by
    unfold encodeChar
    dsimp only
    split_ifs <;> exact List.cons_ne_nil _ _
  rw [encode, List.flatMap_cons]
  exact List.append_ne_nil_of_left_ne_nil hchar _

end Utf8

/-! ## Blocks of lines -/

namespace Bytes

theorem lines_block {texts : List Bytes} (h : ∀ text ∈ texts, (10 : UInt8) ∉ text) :
    lines (texts.flatMap (· ++ lineEnd) ++ lineEnd) = texts.map (· ++ lineEnd) ++ [lineEnd] := by
  have hflat : texts.flatMap (· ++ lineEnd) ++ lineEnd =
      (texts.map (· ++ lineEnd) ++ [lineEnd]).flatten := by
    rw [List.flatten_append, List.flatMap_def]
    simp
  rw [hflat]
  apply lines_flatten
  rw [List.forall_mem_append, List.forall_mem_map, List.forall_mem_singleton]
  exact ⟨fun text htext => isLine_append (h text htext) lineEnd_mem, isLine_lineEnd lineEnd_mem⟩

/-- Two line ends in a row begin at the end of a text without a carriage return, or behind it. -/
theorem cases_of_blank {text rest before after : Bytes} (hreturn : (13 : UInt8) ∉ text)
    (h : text ++ (lineEnd ++ rest) = before ++ (lineEnd ++ (lineEnd ++ after))) :
    rest = lineEnd ++ after ∨ ∃ inside, rest = inside ++ (lineEnd ++ (lineEnd ++ after)) := by
  rcases List.append_eq_append_iff.mp h with ⟨inside, -, hrest⟩ | ⟨inside, rfl, hrest⟩
  · match inside with
    | [] => exact Or.inl (List.append_cancel_left hrest)
    | [_] => simp [lineEnd] at hrest
    | _ :: _ :: inside =>
      refine Or.inr ⟨inside, ?_⟩
      simp only [lineEnd, List.cons_append, List.cons.injEq] at hrest
      exact hrest.2.2
  · match inside with
    | [] => exact Or.inl (List.append_cancel_left hrest).symm
    | b :: inside =>
      simp only [lineEnd, List.cons_append, List.cons.injEq] at hrest
      exact absurd (List.mem_append_right before (hrest.1 ▸ List.mem_cons_self)) hreturn

/-- Two line ends in a row are the end of lines that are not empty and hold no carriage return. -/
theorem eq_nil_of_blank {texts : List Bytes}
    (htexts : ∀ text ∈ texts, text ≠ [] ∧ (13 : UInt8) ∉ text) {before after : Bytes}
    (h : texts.flatMap (· ++ lineEnd) ++ lineEnd = before ++ (lineEnd ++ (lineEnd ++ after))) :
    after = [] := by
  induction texts generalizing before with
  | nil =>
      have hlength := congrArg List.length h
      simp only [List.flatMap_nil, lineEnd, List.length_append, List.length_cons,
        List.length_nil] at hlength
      exact List.length_eq_zero_iff.mp (by omega)
  | cons text texts ih =>
      rw [List.forall_mem_cons] at htexts
      obtain ⟨⟨-, hreturn⟩, htexts⟩ := htexts
      simp only [List.flatMap_cons, List.append_assoc] at h
      rcases cases_of_blank hreturn h with hrest | ⟨inside, hrest⟩
      · cases texts with
        | nil => simpa using hrest
        | cons next texts =>
            -- Another line would begin with the carriage return of an empty one.
            obtain ⟨hne, hnext⟩ := htexts next List.mem_cons_self
            obtain ⟨b, next, rfl⟩ := List.exists_cons_of_ne_nil hne
            simp only [lineEnd, List.flatMap_cons, List.cons_append, List.cons.injEq] at hrest
            exact absurd (hrest.1 ▸ List.mem_cons_self) hnext
      · exact ih htexts hrest

end Bytes

namespace Text

/-- A text on one line. -/
def IsUnbroken (s : Text) : Prop := '\r' ∉ s ∧ '\n' ∉ s

instance (s : Text) : Decidable s.IsUnbroken := inferInstanceAs (Decidable (_ ∧ _))

variable {s t : Text}

theorem isUnbroken_of_printable (h : ∀ c ∈ s, IsPrintable c) : s.IsUnbroken :=
  ⟨fun hmem => absurd (h _ hmem) (by decide), fun hmem => absurd (h _ hmem) (by decide)⟩

theorem IsUnbroken.append (hs : s.IsUnbroken) (ht : t.IsUnbroken) : (s ++ t).IsUnbroken := by
  unfold IsUnbroken
  simp only [List.mem_append, not_or]
  exact ⟨⟨hs.1, ht.1⟩, hs.2, ht.2⟩

theorem IsUnbroken.encode (h : s.IsUnbroken) :
    (13 : UInt8) ∉ Utf8.encode s ∧ (10 : UInt8) ∉ Utf8.encode s :=
  ⟨Utf8.notMem_encode (by decide) h.1, Utf8.notMem_encode (by decide) h.2⟩

end Text

theorem Field.line_ne_nil (field : Field) : field.line ≠ [] := by simp [line]

theorem Field.isUnbroken_line {field : Field} (hname : field.name.IsUnbroken)
    (hvalue : field.value.IsUnbroken) : field.line.IsUnbroken :=
  (hname.append (by decide)).append hvalue

namespace Request

open Text (IsUnbroken)

variable {request : Request} {method : Text} {url : Url} {cookies : Headers} {prelude : Bytes}

theorem prelude_eq (h : request.prelude method url cookies = .ok prelude) :
    prelude = ((request.preludeLines method url cookies).map Utf8.encode).flatMap (· ++ lineEnd) ++
      lineEnd := by
  unfold Request.prelude at h
  split at h
  next => cases h
  next =>
    cases h
    have hend : "\r\n\r\n".toList = "\r\n".toList ++ "\r\n".toList := rfl
    have hcode : Utf8.encode "\r\n".toList = lineEnd := by decide
    rw [hend, preludeLines, ← List.append_assoc, Text.intercalate_append, Utf8.encode_append, hcode]
    generalize line method url :: _ = lines
    rw [Utf8.encode, List.flatMap_assoc, List.flatMap_map]
    congr 1
    refine List.flatMap_congr fun text _ => ?_
    rw [← hcode, ← Utf8.encode_append]
    rfl

theorem splitOn_line (hmethod : ' ' ∉ method) (htarget : ' ' ∉ url.target) :
    Text.splitOn (· == ' ') (line method url) = [method, url.target, "HTTP/1.1".toList] := by
  have hline : line method url = method ++ ' ' :: (url.target ++ ' ' :: "HTTP/1.1".toList) := by
    simp [line]
  have hversion : ' ' ∉ "HTTP/1.1".toList := by decide
  rw [hline, Text.splitOn_eq_splitOn, List.splitOn_append_cons_self_of_not_mem hmethod,
    List.splitOn_append_cons_self_of_not_mem htarget, List.splitOn_eq_singleton hversion]

/-- The lines of a request are not broken by its URL. -/
theorem preludeLines_unbroken (hmethod : method.IsUnbroken) (hurl : url.Spelled)
    (hfields : ∀ field ∈ request.headers ++ cookies,
      field.name.IsUnbroken ∧ field.value.IsUnbroken) :
    ∀ line ∈ request.preludeLines method url cookies, line ≠ [] ∧ line.IsUnbroken := by
  have htarget := Text.isUnbroken_of_printable fun c hc =>
    (hurl.isVisible_of_mem_target c hc).isPrintable
  have hnetloc := Text.isUnbroken_of_printable hurl.isPrintable_of_mem_netloc
  unfold preludeLines
  rw [List.forall_mem_cons, List.append_assoc, List.map_append, List.forall_mem_append]
  refine ⟨⟨by simp [line], ?_⟩, ?_, ?_⟩
  · have hspace : IsUnbroken [' '] := by decide
    exact (hmethod.append (hspace.append htarget)).append (by decide)
  · unfold hostField
    split
    · exact fun line hline => absurd hline List.not_mem_nil
    · have hname : IsUnbroken "Host".toList := by decide
      simp only [List.map_cons, List.map_nil, List.mem_singleton, forall_eq]
      exact ⟨Field.line_ne_nil _, Field.isUnbroken_line hname hnetloc⟩
  · rw [List.forall_mem_map]
    exact fun field hfield =>
      ⟨field.line_ne_nil, Field.isUnbroken_line (hfields field hfield).1 (hfields field hfield).2⟩

/-- A request to where a redirect leads has one line for each of its parts, whatever the server has
sent as the location, and its first line falls into three. -/
theorem redirected_prelude {base : Url} {location : Text}
    (hmethod : ∀ c ∈ method, Text.IsVisible c ∧ c ∉ Text.delimiters)
    (hfields : ∀ field ∈ request.headers ++ cookies,
      field.name.IsUnbroken ∧ field.value.IsUnbroken)
    (hredirect : base.redirect location = .ok url)
    (hprelude : request.prelude method url cookies = .ok prelude) :
    let requestLine := method ++ ' ' :: url.target ++ " HTTP/1.1".toList
    let fields := request.hostField url ++ request.headers ++ cookies
    let lines := requestLine :: fields.map Field.line
    (url.target ≠ [] ∧ ∀ c ∈ url.target, Text.IsVisible c) ∧
      Text.splitOn (· == ' ') requestLine = [method, url.target, "HTTP/1.1".toList] ∧
      (∀ line ∈ lines, line ≠ [] ∧ line.IsUnbroken) ∧
      Bytes.lines prelude = lines.map (fun line => Utf8.encode line ++ lineEnd) ++ [lineEnd] ∧
      ∀ before after, prelude = before ++ (lineEnd ++ (lineEnd ++ after)) → after = [] := by
  intro requestLine fields lines
  have hurl := Url.redirect_spelled hredirect
  have hspace : ' ' ∉ method := fun hmem => absurd (hmethod _ hmem).1 (by decide)
  have hline : method.IsUnbroken :=
    Text.isUnbroken_of_printable fun c hc => (hmethod c hc).1.isPrintable
  have hunbroken := preludeLines_unbroken hline hurl hfields
  have hwritten := prelude_eq hprelude
  have htexts : ∀ text ∈ (request.preludeLines method url cookies).map Utf8.encode,
      text ≠ [] ∧ (13 : UInt8) ∉ text ∧ (10 : UInt8) ∉ text :=
    List.forall_mem_map.mpr fun line hmem =>
      ⟨Utf8.encode_ne_nil (hunbroken line hmem).1, (hunbroken line hmem).2.encode⟩
  refine ⟨⟨url.target_ne_nil, hurl.isVisible_of_mem_target⟩,
    splitOn_line hspace fun hmem => absurd (hurl.isVisible_of_mem_target _ hmem) (by decide),
    hunbroken, ?_, ?_⟩
  · rw [hwritten, Bytes.lines_block fun text htext => (htexts text htext).2.2, List.map_map]
    rfl
  · intro before after hbefore
    rw [hwritten] at hbefore
    exact Bytes.eq_nil_of_blank (fun text htext => ⟨(htexts text htext).1, (htexts text htext).2.1⟩)
      hbefore

/-- A location that would end the request line before its time is escaped. -/
theorem redirected_prelude_escaped :
    let base : Url := ⟨"http".toList, [], "a.test".toList, none, "/".toList, none, none⟩
    let url : Url := ⟨"http".toList, [], "b.test".toList, none, "/x%20y".toList,
      some "q%20HTTP/1.1".toList, none⟩
    let request : Request := ⟨[⟨"Accept".toList, "*/*".toList⟩], none, none, none⟩
    let cookies : Headers := [⟨"Cookie".toList, "a=1".toList⟩]
    let lines := ["GET /x%20y?q%20HTTP/1.1 HTTP/1.1\r\n", "Host: b.test\r\n", "Accept: */*\r\n",
      "Cookie: a=1\r\n", "\r\n"].map fun line => Utf8.encode line.toList
    base.redirect "//b.test/x y?q HTTP/1.1".toList = .ok url ∧
      request.prelude "GET".toList url cookies = .ok lines.flatten ∧
      Bytes.lines lines.flatten = lines ∧
      ∀ before after, lines.flatten = before ++ (lineEnd ++ (lineEnd ++ after)) → after = [] := by
  intro base url request cookies lines
  have hmethod : ∀ c ∈ "GET".toList, Text.IsVisible c ∧ c ∉ Text.delimiters :=
    Text.forall_mem_of_all (by decide)
  have hfields : ∀ field ∈ request.headers ++ cookies,
      field.name.IsUnbroken ∧ field.value.IsUnbroken := by decide
  have hredirect : base.redirect "//b.test/x y?q HTTP/1.1".toList = .ok url := by decide +kernel
  have hprelude : request.prelude "GET".toList url cookies = .ok lines.flatten := by
    decide +kernel
  obtain ⟨-, -, -, hlines, hend⟩ := redirected_prelude hmethod hfields hredirect hprelude
  exact ⟨hredirect, hprelude, hlines.trans (by decide +kernel), hend⟩

end Request

end HttpFetch
