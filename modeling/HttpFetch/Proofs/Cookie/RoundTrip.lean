import HttpFetch.Proofs.Cookie.Spelling
import HttpFetch.Proofs.Text.Pieces

/-!
# Cookies that come back

A pair of a token and octets of cookies sets a cookie of the host that sends it: nothing in the pair
ends it, trims it or unwraps it, whether or not the pair reads like a domain.  As escapes are
undone, the pair that a cookie is sent as sets that cookie (`SetCookie.parse_encode`).  The other
way round, a pair is sent as it was received exactly if its name has no escape, for names are read
like values but are not escaped again (`Jar.sent_back_iff`).
-/

namespace HttpFetch

namespace Text

variable {s : Text}

theorem IsVisible.ascii {c : Char} (h : IsVisible c) : c.toNat < 128 :=
  Nat.lt_of_le_of_lt h.2 (by decide)

theorem IsVisible.not_isBlank {c : Char} (h : IsVisible c) : isBlank c = false :=
  forall_ascii (P := fun c => IsVisible c → isBlank c = false) (by decide) h.ascii h

theorem trim_of_visible (h : ∀ c ∈ s, IsVisible c) : s.trim = s := by
  by_cases hne : s = []
  · subst hne
    rfl
  · exact trimOf_of_none (fun c hc => (h c hc).not_isBlank) hne

theorem IsToken.visible (h : s.IsToken) : ∀ c ∈ s, IsVisible c := fun c hc => (h.2 c hc).1

theorem lower_of_ascii (h : ∀ c ∈ s, c.toNat < 128) : s.lower = s.map Char.toLower := by
  have hsigma : s.any (·.toNat = 0x3a3) = false := by
    rw [List.any_eq_false]
    intro c hc
    have hlt := h c hc
    simp only [decide_eq_true_eq]
    omega
  rw [lower, if_neg (by simp [hsigma]), ← List.flatMap_singleton' (s.map Char.toLower),
    List.flatMap_map]
  exact List.flatMap_congr fun c hc => by rw [lowerChar, if_pos (h c hc)]

theorem lower_lower_of_ascii (h : ∀ c ∈ s, c.toNat < 128) : s.lower.lower = s.lower := by
  have htwice : ∀ c : Char, c.toNat < 128 → c.toLower.toNat < 128 ∧ c.toLower.toLower = c.toLower :=
    fun c hc => forall_ascii
      (P := fun c => c.toLower.toNat < 128 ∧ c.toLower.toLower = c.toLower) (by decide) hc
  rw [lower_of_ascii h, lower_of_ascii (List.forall_mem_map.mpr fun c hc => (htwice c (h c hc)).1),
    List.map_map]
  exact List.map_congr_left fun c hc => (htwice c (h c hc)).2

/-- A name that can be the domain of a cookie as it stands. -/
structure IsDomain (host : Text) : Prop where
  nonempty : host ≠ []
  no_semicolon : ';' ∉ host
  trimmed : host.trim = host
  no_dot : host.head? ≠ some '.'

/-- The characters of the labels in names of hosts. -/
def labelChars : Text :=
  "abcdefghijklmnopqrstuvwxyzABCDEFGHIJKLMNOPQRSTUVWXYZ0123456789-_".toList

/-- A name of labels with dots between them is a domain as it stands, and ASCII. -/
theorem isDomain_of_labels {labels : List Text} (hne : labels ≠ [])
    (hlabels : ∀ label ∈ labels, label ≠ [] ∧ label.Over labelChars) :
    IsDomain (['.'].intercalate labels) ∧ ∀ c ∈ ['.'].intercalate labels, c.toNat < 128 := by
  have hall : Over (['.'].intercalate labels) ('.' :: labelChars) := by
    intro c hc
    rcases mem_intercalate hc with hc | ⟨label, hlabel, hc⟩
    · exact List.mem_cons.mpr (Or.inl (List.mem_singleton.mp hc))
    · exact List.mem_cons_of_mem _ ((hlabels label hlabel).2 c hc)
  obtain ⟨first, rest, rfl⟩ := List.exists_cons_of_ne_nil hne
  obtain ⟨hfirst, hover⟩ := hlabels first List.mem_cons_self
  have hvisible := hall.forall_mem (P := IsVisible) (by decide)
  refine ⟨⟨?_, hall.notMem (by decide), trim_of_visible hvisible, ?_⟩,
    fun c hc => (hvisible c hc).ascii⟩
  · rw [intercalate_cons]
    exact List.append_ne_nil_of_left_ne_nil hfirst _
  · obtain ⟨c, first, rfl⟩ := List.exists_cons_of_ne_nil hfirst
    rw [intercalate_cons]
    rintro ⟨⟩
    exact hover.notMem (by decide) List.mem_cons_self

end Text

namespace Cookie

theorem isTokenChar_iff {c : Char} :
    isTokenChar c = true ↔ Text.IsVisible c ∧ c ∉ Text.delimiters := by
  refine ⟨visible_of_isTokenChar, fun h => ?_⟩
  exact forall_ascii
    (P := fun c => Text.IsVisible c ∧ c ∉ Text.delimiters → isTokenChar c = true)
    (by decide) h.1.ascii h

theorem isSendable_of_isToken {name : Text} (h : name.IsToken) : isSendable name = true := by
  have hfeed : '\n' ∉ name := h.notMem (Or.inl (by decide))
  have hlast : name.getLast? ≠ some '\n' := fun hlast => hfeed (List.mem_of_getLast? hlast)
  rw [isSendable, if_neg hlast]
  simp only [Bool.and_eq_true, Bool.not_eq_true', List.isEmpty_eq_false_iff, List.all_eq_true]
  exact ⟨h.1, fun c hc => isTokenChar_iff.mpr (h.2 c hc)⟩

/-- Octets of cookies are not escaped, but for the percent sign. -/
theorem isValueChar_of_isOctet {c : Char} (h : IsOctet c) (hpercent : c ≠ '%') :
    isValueChar c = true :=
  forall_ascii (P := fun c => IsOctet c → c ≠ '%' → isValueChar c = true) (by decide) h.1.ascii h
    hpercent

end Cookie

/-! ## The cookie of a pair -/

namespace SetCookie

/-- The cookie of a host that has a name and a value and no attributes. -/
def plain (host name value : Text) : Cookie where
  name := name
  value := value
  domain := host.lower
  initialDot := false
  path := ['/']
  pathSpecified := false
  secure := false
  expires := none
  rest := []

section Pair

variable {name value : Text}

theorem visible_pair (hname : name.IsToken) (hvalue : ∀ c ∈ value, Cookie.IsOctet c) :
    ∀ c ∈ name ++ '=' :: value, Text.IsVisible c := by
  rw [List.forall_mem_append, List.forall_mem_cons]
  exact ⟨hname.visible, by decide, fun c hc => (hvalue c hc).1⟩

theorem pair_of_isToken (hname : name.IsToken) (hvalue : ∀ c ∈ value, Cookie.IsOctet c) :
    pair (name ++ '=' :: value) = (name, some value) := by
  have hequals : '=' ∉ name := hname.notMem (Or.inr (by decide))
  simp only [pair, Text.trim_of_visible (visible_pair hname hvalue),
    Text.cut_append_cons hequals, Text.trim_of_visible hname.visible, Option.map_some,
    Text.trim_of_visible fun c hc => (hvalue c hc).1]

theorem unwrap_of_isOctet (hvalue : ∀ c ∈ value, Cookie.IsOctet c) : unwrap value = value := by
  refine if_neg fun hquoted => ?_
  exact absurd (hvalue '"' (List.mem_of_mem_head? hquoted.2.1)) (by decide)

theorem attribute_domain (now : Int) {host : Text} (hhost : host.IsDomain) :
    attribute? now (" Domain=".toList ++ host) = .ok (some (.domain (some host))) := by
  have hpair : pair (" Domain=".toList ++ host) = ("Domain".toList, some host) := by
    have htrim : Text.trim (" Domain=".toList ++ host) = "Domain".toList ++ '=' :: host := by
      change Text.trimOf Text.isBlank ([' '] ++ ("Domain=".toList ++ host)) = _
      have hname : ∀ c ∈ "Domain=".toList, Text.isBlank c = false :=
        Text.forall_mem_of_all (by decide)
      rw [Text.trimOf_append_left (Text.forall_mem_of_all (by decide)), Text.trimOf,
        Text.trimLeft_append hname (by decide), Text.trimRight_append hname,
        (Text.sides_of_trimOf hhost.trimmed).2]
      rfl
    have hequals : '=' ∉ "Domain".toList := by decide
    simp only [pair, htrim, Text.cut_append_cons hequals, Option.map_some, hhost.trimmed]
    rfl
  rw [attribute?, hpair]
  rfl

/-- The attributes of a cookie that says no more than its domain: the host. -/
theorem cookie_domain (now : Int) {host : Text} (hhost : host.IsDomain)
    (hvalue : ∀ c ∈ value, Cookie.IsOctet c) :
    (Attributes.cookie ⟨host, none, false, none, none, []⟩ now name value).keep =
      .ok (plain host (Percent.decode name) (Percent.decode value)) := by
  have hdots : host.dropWhile (· = '.') = host := by
    cases host with
    | nil => rfl
    | cons c rest =>
        have hfirst : c ≠ '.' := fun hdot => hhost.no_dot (congrArg some hdot)
        exact List.dropWhile_cons_of_neg (by simpa using hfirst)
  have hinitial : decide (host.head? = some '.') = false := decide_eq_false hhost.no_dot
  rw [Attributes.cookie, hdots, hinitial, unwrap_of_isOctet hvalue]
  rfl

/-- A token and octets of cookies are what a host's cookie is built of. -/
theorem parse_pair (now : Int) {host : Text} (hhost : host.IsDomain) (hname : name.IsToken)
    (hvalue : ∀ c ∈ value, Cookie.IsOctet c) :
    parse now host (name ++ '=' :: value) =
      .ok (some (plain host (Percent.decode name) (Percent.decode value))) := by
  have hwhole : ';' ∉ name ++ '=' :: value := by
    rw [List.mem_append, List.mem_cons, not_or, not_or]
    exact ⟨hname.notMem (Or.inr (by decide)), by decide,
      fun hc => absurd (hvalue ';' hc) (by decide)⟩
  have hpair := pair_of_isToken hname hvalue
  have hnamed : (pair (name ++ '=' :: value)).1 ≠ [] := by
    rw [hpair]
    exact hname.1
  -- The domain is the host, whether it is an attribute or the pair reads like one.
  by_cases hreads : Text.occursIn "domain=".toList (name ++ '=' :: value).lower = true
  · have hsplit : segments host (name ++ '=' :: value) = [name ++ '=' :: value] := by
      simp only [segments, if_pos hreads]
      rw [Text.splitOn_eq_splitOn, List.splitOn_eq_singleton hwhole]
    rw [parse_of_named hsplit hnamed, hpair]
    exact congrArg (some <$> ·) (cookie_domain now hhost hvalue)
  · have hsplit : segments host (name ++ '=' :: value) =
        [name ++ '=' :: value, " Domain=".toList ++ host] := by
      have hdomain : ';' ∉ " Domain=".toList ++ host := by
        rw [List.mem_append, not_or]
        exact ⟨by decide, hhost.no_semicolon⟩
      have hjoined : name ++ '=' :: value ++ "; Domain=".toList ++ host =
          name ++ '=' :: value ++ ';' :: (" Domain=".toList ++ host) := List.append_assoc ..
      simp only [segments, if_neg hreads]
      rw [hjoined, Text.splitOn_eq_splitOn, List.splitOn_append_cons_self_of_not_mem hwhole,
        List.splitOn_eq_singleton hdomain]
    rw [parse_of_named hsplit hnamed, hpair, List.mapM_cons, attribute_domain now hhost]
    have hcollected : collected host [some (.domain (some host))] =
        ⟨host, none, false, none, none, []⟩ := by
      have hvalue : nonempty (some host) = some host := by
        simp [nonempty, hhost.nonempty]
      simp [collected, Attributes.add, hvalue]
    change some <$>
      ((collected host [some (.domain (some host))]).cookie now name value).keep = _
    rw [hcollected]
    exact congrArg (some <$> ·) (cookie_domain now hhost hvalue)

end Pair

/-- The pair that a cookie is sent as sets the cookie, whatever its value is. -/
theorem parse_encode (now : Int) {host name : Text} (hhost : host.IsDomain) (hname : name.IsToken)
    (hpercent : '%' ∉ name) (value : Text) :
    ∃ written, Cookie.encode name value = .ok written ∧
      parse now host written = .ok (some (plain host name value)) := by
  have hread := parse_pair now hhost hname (Cookie.isOctet_of_mem_encode value)
  rw [Percent.decode_eq_self_iff.mpr (Percent.not_hasEscape_of_notMem hpercent),
    Percent.decode_encode (by decide)] at hread
  exact ⟨_, if_pos (Cookie.isSendable_of_isToken hname), hread⟩

/-- Separators, quotes, escapes and the text of an attribute in one value. -/
theorem parse_encode_hard :
    Cookie.encode "sid".toList "\"a=1; Domain=é%41\n".toList =
        .ok "sid=%22a=1%3B%20Domain=%C3%A9%2541%0A".toList ∧
      parse 0 "API.e.com".toList "sid=%22a=1%3B%20Domain=%C3%A9%2541%0A".toList =
        .ok (some (plain "API.e.com".toList "sid".toList "\"a=1; Domain=é%41\n".toList)) := by
  have hencoded : Cookie.encode "sid".toList "\"a=1; Domain=é%41\n".toList =
      .ok "sid=%22a=1%3B%20Domain=%C3%A9%2541%0A".toList := by decide +kernel
  have hhost : Text.IsDomain "API.e.com".toList := ⟨by decide, by decide, by decide, by decide⟩
  have hname : Text.IsToken "sid".toList := ⟨by decide, Text.forall_mem_of_all (by decide)⟩
  obtain ⟨written, hwritten, hparse⟩ :=
    parse_encode 0 hhost hname (by decide) "\"a=1; Domain=é%41\n".toList
  cases hencoded.symm.trans hwritten
  exact ⟨hencoded, hparse⟩

end SetCookie

/-! ## Sending back -/

namespace Cookie

/-- A cookie of a host is sent to the host, over any path. -/
theorem applies_plain {host : Text} (hhost : host.IsDomain) (hascii : ∀ c ∈ host, c.toNat < 128)
    (name value path : Text) (overTls : Bool) :
    (SetCookie.plain host name value).applies host path overTls = true := by
  have hnonempty : host.lower ≠ [] := by
    rw [Text.lower_of_ascii hascii]
    exact fun hnil => hhost.nonempty (List.map_eq_nil_iff.mp hnil)
  simp [applies, SetCookie.plain, hnonempty, Text.lower_lower_of_ascii hascii]

end Cookie

namespace Jar

/-- What is sent of a jar with one cookie of the host. -/
theorem fields_set_plain {host : Text} (hhost : host.IsDomain)
    (hascii : ∀ c ∈ host, c.toNat < 128) (later : Int) (name value path : Text) (overTls : Bool) :
    ((empty.set (SetCookie.plain host name value)).purge later).fields host path overTls =
      ([SetCookie.plain host name value].filter fun cookie =>
        Cookie.isSendable cookie.name).map Cookie.sent := by
  have hone : (empty.set (SetCookie.plain host name value)).toList =
      [SetCookie.plain host name value] := rfl
  have hkept : (SetCookie.plain host name value).isExpired later = false := rfl
  rw [fields_eq, select, purge_eq_filter, toList_filter, hone]
  simp [hkept, Cookie.applies_plain hhost hascii]

/-- A pair of a token and octets of cookies is stored, and it is sent back as it was received
exactly if no escape is in the name. -/
theorem sent_back_iff (now later : Int) {host name value : Text} (hhost : host.IsDomain)
    (hascii : ∀ c ∈ host, c.toNat < 128) (hname : name.IsToken)
    (hvalue : ∀ c ∈ value, Cookie.IsOctet c ∧ c ≠ '%') (path : Text) (overTls : Bool) :
    let stored := store host [⟨now, name ++ '=' :: value⟩] empty
    stored.failure = none ∧ stored.stored = 1 ∧
      ((stored.jar.purge later).fields host path overTls =
          [⟨"Cookie".toList, name ++ '=' :: value⟩] ↔ ¬ Percent.HasEscape name) := by
  have hread := SetCookie.parse_pair now hhost hname fun c hc => (hvalue c hc).1
  have hplainValue : Percent.decode value = value :=
    Percent.decode_eq_self_iff.mpr
      (Percent.not_hasEscape_of_notMem fun hmem => (hvalue '%' hmem).2 rfl)
  have hencoded : Percent.encode Cookie.isValueChar value = value :=
    Percent.encode_of_safe fun c hc => Cookie.isValueChar_of_isOctet (hvalue c hc).1 (hvalue c hc).2
  rw [hplainValue] at hread
  simp only [store, hread, fields_set_plain hhost hascii]
  refine ⟨trivial, trivial, ?_⟩
  rw [← Percent.decode_eq_self_iff]
  constructor
  · intro hsent
    have hmem := hsent.symm ▸ List.mem_singleton_self _
    obtain ⟨cookie, hcookie, hfield⟩ := List.mem_map.mp hmem
    cases List.mem_singleton.mp (List.mem_of_mem_filter hcookie)
    have hline : Percent.decode name ++ '=' :: value = name ++ '=' :: value := by
      simpa only [Cookie.sent, SetCookie.plain, hencoded] using congrArg Field.value hfield
    exact List.append_cancel_right hline
  · intro hplainName
    simp [hplainName, SetCookie.plain, Cookie.sent, hencoded, Cookie.isSendable_of_isToken hname]

/-- A percent sign that begins no escape comes back as it is. -/
theorem sent_back_percent :
    let stored := store "Shop-1.Example.com".toList [⟨0, "domain%4g=a=[1]".toList⟩] empty
    stored.failure = none ∧ stored.stored = 1 ∧
      (stored.jar.purge 86400).fields "Shop-1.Example.com".toList "/cart".toList false =
        [⟨"Cookie".toList, "domain%4g=a=[1]".toList⟩] := by
  have hnone : ¬ Percent.HasEscape "domain%4g".toList :=
    Percent.decode_eq_self_iff.mp (by decide +kernel)
  have hlabels : ∀ label ∈ ["Shop-1".toList, "Example".toList, "com".toList],
      label ≠ [] ∧ Text.Over label Text.labelChars := by decide
  have hjoined : ['.'].intercalate ["Shop-1".toList, "Example".toList, "com".toList] =
      "Shop-1.Example.com".toList := by decide
  obtain ⟨hhost, hascii⟩ := Text.isDomain_of_labels (List.cons_ne_nil _ _) hlabels
  rw [hjoined] at hhost hascii
  have hname : Text.IsToken "domain%4g".toList := ⟨by decide, Text.forall_mem_of_all (by decide)⟩
  have hvalue : ∀ c ∈ "a=[1]".toList, Cookie.IsOctet c ∧ c ≠ '%' :=
    Text.forall_mem_of_all (by decide)
  obtain ⟨hfailure, hstored, hback⟩ :=
    sent_back_iff 0 86400 hhost hascii hname hvalue "/cart".toList false
  exact ⟨hfailure, hstored, hback.mpr hnone⟩

/-- An escape in a name is read when it is stored, and it is not written again. -/
theorem sent_back_reads_name :
    let stored := store "e.com".toList [⟨0, "a%41=1".toList⟩] empty
    Text.IsToken "a%41".toList ∧ stored.stored = 1 ∧
      (stored.jar.purge 0).fields "e.com".toList "/".toList false =
        [⟨"Cookie".toList, "aA=1".toList⟩] ∧
      (stored.jar.purge 0).fields "e.com".toList "/".toList false ≠
        [⟨"Cookie".toList, "a%41=1".toList⟩] :=
  ⟨⟨by decide, Text.forall_mem_of_all (by decide)⟩, by decide +kernel⟩

end Jar

end HttpFetch
