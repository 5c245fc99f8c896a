import HttpFetch.Proofs.Cookie.Storing
import HttpFetch.Proofs.Text.Percent
import HttpFetch.Request

/-!
# How cookies are spelled in requests

The name and the value of a cookie come from a server, with their escapes read, so any character may
stand in them.  Values are escaped again and hold octets of cookies only, whatever they were.  Names
are sent as they are if they are tokens; but a token may be followed by a line feed, and then the
line of the cookie is broken there.  `Jar.fields_spelled` says that nothing else gets into a
request.
-/

namespace HttpFetch

namespace Text

/-- Visible ASCII. -/
def IsVisible (c : Char) : Prop := 0x21 ≤ c.toNat ∧ c.toNat ≤ 0x7e

instance (c : Char) : Decidable (IsVisible c) := inferInstanceAs (Decidable (_ ∧ _))

/-- The visible characters that delimit the parts of header fields. -/
def delimiters : Text := "\"(),/:;<=>?@[\\]\x7b\x7d".toList

/-- One or more visible characters that delimit nothing. -/
def IsToken (s : Text) : Prop := s ≠ [] ∧ ∀ c ∈ s, IsVisible c ∧ c ∉ delimiters

theorem IsToken.notMem {s : Text} (h : s.IsToken) {c : Char}
    (hc : ¬ IsVisible c ∨ c ∈ delimiters) : c ∉ s := by
  intro hmem
  obtain ⟨hvisible, hdelimits⟩ := h.2 c hmem
  rcases hc with hc | hc
  · exact hc hvisible
  · exact hdelimits hc

end Text

namespace Cookie

/-- The octets of cookie values: visible ASCII but for the double quote, the comma, the semicolon
and the backslash. -/
def IsOctet (c : Char) : Prop := Text.IsVisible c ∧ c ∉ "\",;\\".toList

instance (c : Char) : Decidable (IsOctet c) := inferInstanceAs (Decidable (_ ∧ _))

/-! ## Names -/

theorem visible_of_isTokenChar {c : Char} (h : isTokenChar c = true) :
    Text.IsVisible c ∧ c ∉ Text.delimiters := by
  by_cases hascii : c.toNat < 128
  · exact forall_ascii
      (P := fun c => isTokenChar c = true → Text.IsVisible c ∧ c ∉ Text.delimiters)
      (by decide) hascii h
  · rw [isTokenChar, Bool.or_eq_true, Bool.and_eq_true, decide_eq_true_eq] at h
    have hmem := List.elem_iff.mp (h.resolve_left fun hletter => hascii hletter.1)
    have hpunctuation : ∀ c ∈ "!#$%&'*+-.^_`|~".toList, c.toNat < 128 :=
      Text.Over.forall_mem (fun _ hc => hc) (by decide)
    exact absurd (hpunctuation c hmem) hascii

/-- A name that can be sent is a token, or a token and a line feed. -/
theorem exists_token_of_isSendable {name : Text} (h : isSendable name = true) :
    ∃ token : Text, token.IsToken ∧ (name = token ∨ name = token ++ ['\n']) := by
  rw [isSendable, Bool.and_eq_true, Bool.not_eq_true', List.isEmpty_eq_false_iff,
    List.all_eq_true] at h
  refine ⟨_, ⟨h.1, fun c hc => visible_of_isTokenChar (h.2 c hc)⟩, ?_⟩
  split
  next hlast => exact Or.inr (List.dropLast_append_getLast? '\n' hlast).symm
  next => exact Or.inl rfl

/-! ## Values -/

theorem isOctet_of_isValueChar {c : Char} (h : isValueChar c = true) : IsOctet c := by
  have hascii : c.toNat < 128 := by
    simp only [isValueChar, Bool.and_eq_true, decide_eq_true_eq] at h
    omega
  exact forall_ascii (P := fun c => isValueChar c = true → IsOctet c) (by decide) hascii h

/-- Any text is escaped to octets of cookies. -/
theorem isOctet_of_mem_encode (value : Text) :
    ∀ c ∈ Percent.encode isValueChar value, IsOctet c :=
  Percent.forall_mem_encode (fun _ => isOctet_of_isValueChar) (by decide) (by decide) value

theorem notMem_encode {c : Char} (hc : ¬ IsOctet c) (value : Text) :
    c ∉ Percent.encode isValueChar value :=
  fun hmem => hc (isOctet_of_mem_encode value c hmem)

end Cookie

/-! ## Requests -/

/-- What precedes the body ends with the lines of the cookies and a blank line. -/
theorem Request.prelude_ok
    {request : Request} {method : Text} {url : Url} {cookies : Headers} {prelude : Bytes}
    (h : request.prelude method url cookies = .ok prelude) :
    ∃ before, prelude = Utf8.encode
      (before ++ (cookies.flatMap fun field => "\r\n".toList ++ field.line) ++
        "\r\n\r\n".toList) := by
  unfold Request.prelude at h
  split at h
  next => cases h
  next =>
    cases h
    refine ⟨line method url ++ (request.hostField url ++ request.headers).flatMap
      fun field => "\r\n".toList ++ field.line, ?_⟩
    rw [preludeLines, Text.intercalate_cons, List.flatMap_map, List.flatMap_append,
      ← List.append_assoc]

namespace Jar

/-- A cookie that is sent is a token, perhaps a line feed, an equals sign and octets of cookies.
Its line is written between two line ends, and that line feed is all that can break it. -/
theorem fields_spelled (jar : Jar) (host path : Text) (overTls : Bool) :
    (∀ field ∈ jar.fields host path overTls,
      ∃ cookie ∈ jar.select host path overTls, ∃ token octets : Text,
        token.IsToken ∧ (∀ c ∈ octets, Cookie.IsOctet c) ∧
        ((cookie.name = token ∧ field = ⟨"Cookie".toList, token ++ '=' :: octets⟩ ∧
            '\n' ∉ field.line) ∨
          (cookie.name = token ++ ['\n'] ∧
            field = ⟨"Cookie".toList, token ++ '\n' :: '=' :: octets⟩)) ∧
        '\r' ∉ field.line ∧ ' ' ∉ field.value ∧ ';' ∉ field.value) ∧
    ∀ (request : Request) (method : Text) (url : Url) (prelude : Bytes),
      request.prelude method url (jar.fields host path overTls) = .ok prelude →
        ∃ before, prelude = Utf8.encode
          (before ++
            ((jar.fields host path overTls).flatMap fun field => "\r\n".toList ++ field.line) ++
            "\r\n\r\n".toList) := by
  refine ⟨fun field hfield => ?_, fun _ _ _ _ => Request.prelude_ok⟩
  rw [fields_eq, List.mem_map] at hfield
  obtain ⟨cookie, hcookie, rfl⟩ := hfield
  obtain ⟨hselected, hsendable⟩ := List.mem_filter.mp hcookie
  obtain ⟨token, htoken, hname⟩ := Cookie.exists_token_of_isSendable hsendable
  have hoctets := fun {c} (hc : ¬ Cookie.IsOctet c) => Cookie.notMem_encode hc cookie.value
  refine ⟨cookie, hselected, token, Percent.encode Cookie.isValueChar cookie.value, htoken,
    Cookie.isOctet_of_mem_encode cookie.value, ?_⟩
  have hreturn : '\r' ∉ token := htoken.notMem (by decide)
  have hspace : ' ' ∉ token := htoken.notMem (by decide)
  have hsemicolon : ';' ∉ token := htoken.notMem (by decide)
  rcases hname with hname | hname
  · have hfeed : '\n' ∉ token := htoken.notMem (by decide)
    refine ⟨Or.inl ⟨hname, by rw [Cookie.sent, hname], ?_⟩, ?_⟩
    · simp [Field.line, Cookie.sent, hname, hfeed, hoctets (c := '\n') (by decide)]
    · simp [Field.line, Cookie.sent, hname, hreturn, hspace, hsemicolon,
        hoctets (c := '\r') (by decide), hoctets (c := ' ') (by decide),
        hoctets (c := ';') (by decide)]
  · refine ⟨Or.inr ⟨hname, by simp [Cookie.sent, hname]⟩, ?_⟩
    simp [Field.line, Cookie.sent, hname, hreturn, hspace, hsemicolon,
      hoctets (c := '\r') (by decide), hoctets (c := ' ') (by decide),
      hoctets (c := ';') (by decide)]

/-- A name with an escaped line feed breaks the line of its cookie, which no token does. -/
theorem fields_broken_by_lineFeed :
    let stored := store "e.com".toList [⟨0, "a%0A=1".toList⟩] empty
    stored.failure = none ∧
      stored.jar.fields "e.com".toList "/".toList false =
        [⟨"Cookie".toList, "a\n=1".toList⟩] ∧
      ¬ ∃ token octets : Text, token.IsToken ∧ (∀ c ∈ octets, Cookie.IsOctet c) ∧
        "a\n=1".toList = token ++ '=' :: octets := by
  refine ⟨by decide +kernel, by decide +kernel, ?_⟩
  rintro ⟨token, octets, htoken, hoctets, hvalue⟩
  have hfeed : '\n' ∈ token ++ '=' :: octets := by
    rw [← hvalue]
    decide
  rcases List.mem_append.mp hfeed with hfeed | hfeed
  · exact htoken.notMem (Or.inl (by decide)) hfeed
  · rcases List.mem_cons.mp hfeed with hfeed | hfeed
    · exact absurd hfeed (by decide)
    · exact absurd (hoctets '\n' hfeed) (by decide)

end Jar

end HttpFetch
