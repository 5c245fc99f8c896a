import HttpFetch.Proofs.Cookie.RoundTrip
import HttpFetch.Proofs.Number.Spelling
import HttpFetch.Proofs.Response.Grammar

/-!
# The segments of a Set-Cookie value

A value is cut at its semicolons, but whether it says `domain=` is asked of the text as a whole, in
lower case.  Lower case goes character by character, but for the sigma at the end of a word; an
ASCII text is found in one form exactly when it is in the other.
-/

namespace HttpFetch

namespace Text

/-- The medial form of the final sigma. -/
def unfinal (c : Char) : Char := if c.toNat = 0x3c2 then Char.ofNat 0x3c3 else c

/-- The lower-case forms of the characters of a text, without a final sigma. -/
def foldCase (s : Text) : Text := (s.flatMap lowerChar).map unfinal

theorem foldCase_append (s t : Text) : (s ++ t).foldCase = s.foldCase ++ t.foldCase := by
  simp [foldCase]

theorem foldCase_mono {s t : Text} (h : s <:+: t) : s.foldCase <:+: t.foldCase := by
  obtain ⟨before, after, rfl⟩ := h
  exact ⟨foldCase before, foldCase after, by simp [foldCase_append]⟩

theorem lowerAfter_unfinal (before s : Text) :
    (lowerAfter before s).flatten.map unfinal = s.foldCase := by
  induction s generalizing before with
  | nil => rfl
  | cons c s ih =>
      have hsigma : (lowerChar (Char.ofNat 0x3a3)).map unfinal = [Char.ofNat 0x3c3] := by
        decide +kernel
      have hfirst : (if c.toNat = 0x3a3 then
          [Char.ofNat (if startsCased before && !startsCased s then 0x3c2 else 0x3c3)]
          else lowerChar c).map unfinal = (lowerChar c).map unfinal := by
        split
        next heq =>
          have hc : c = Char.ofNat 0x3a3 := by rw [← heq, Char.ofNat_toNat]
          rw [hc, hsigma]
          split <;> decide
        next => rfl
      rw [lowerAfter, List.flatten_cons, List.map_append, ih, hfirst]
      simp [foldCase]

theorem lower_unfinal (s : Text) : s.lower.map unfinal = s.foldCase := by
  unfold lower
  split
  · exact lowerAfter_unfinal [] s
  · rfl

section Ascii

variable {part : Text} (hpart : ∀ c ∈ part, c.toNat < 128)

include hpart

theorem map_unfinal_eq_iff {s : Text} : s.map unfinal = part ↔ s = part := by
  have hchar : ∀ c d : Char, d.toNat < 128 → (unfinal c = d ↔ c = d) := by
    intro c d hd
    unfold unfinal
    split
    next heq =>
      have hsigma : (Char.ofNat 0x3c3).toNat = 0x3c3 := by decide
      constructor
      · rintro rfl
        omega
      · rintro rfl
        omega
    next => rfl
  induction s generalizing part with
  | nil => simp
  | cons c s ih =>
      cases part with
      | nil => simp
      | cons d part =>
          rw [List.forall_mem_cons] at hpart
          rw [List.map_cons, List.cons.injEq, List.cons.injEq]
          exact and_congr (hchar c d hpart.1) (ih hpart.2)

theorem lower_eq_iff {s : Text} : s.lower = part ↔ s.foldCase = part := by
  rw [← lower_unfinal, map_unfinal_eq_iff hpart]

theorem infix_lower_iff {s : Text} : part <:+: s.lower ↔ part <:+: s.foldCase := by
  -- An occurrence goes through `unfinal` in both directions, as the part has no sigma.
  rw [← lower_unfinal]
  constructor
  · rintro ⟨before, after, heq⟩
    refine ⟨before.map unfinal, after.map unfinal, ?_⟩
    rw [← heq, List.map_append, List.map_append, (map_unfinal_eq_iff hpart).mpr rfl]
  · rintro ⟨before, after, heq⟩
    obtain ⟨first, rest, hs, hfirst, -⟩ := List.map_eq_append_iff.mp heq.symm
    obtain ⟨before', middle, hbefore, -, hmiddle⟩ := List.map_eq_append_iff.mp hfirst
    rw [map_unfinal_eq_iff hpart] at hmiddle
    exact ⟨before', rest, by rw [hs, hbefore, hmiddle]⟩

end Ascii

theorem isInfix_trim (s : Text) : s.trim <:+: s := by
  obtain ⟨left, right, heq, -⟩ := exists_of_trimOf isBlank s
  exact ⟨left, right, heq.symm⟩

end Text

namespace SetCookie

def lowerName (segment : Text) : Text := (pair segment).1.lower

/-- Whether a value says somewhere that it has a domain. -/
def SaysDomain (value : Text) : Prop := "domain=".toList <:+: value.foldCase

theorem saysDomain_iff {value : Text} :
    Text.occursIn "domain=".toList value.lower = true ↔ SaysDomain value := by
  rw [Text.occursIn_iff, SaysDomain, Text.infix_lower_iff (Text.forall_mem_of_all (by decide))]

theorem SaysDomain.mono {segment value : Text} (h : SaysDomain segment)
    (hwithin : segment <:+: value) : SaysDomain value :=
  List.IsInfix.trans h (Text.foldCase_mono hwithin)

/-- Whether no blank stands between the name of a segment and its equals sign. -/
def IsTight (segment : Text) : Prop := (Text.cut '=' segment.trim).1 = (pair segment).1

theorem saysDomain_of_named {segment : Text} (hname : lowerName segment = "domain".toList)
    (htight : IsTight segment) (hvalue : (pair segment).2 ≠ none) : SaysDomain segment := by
  have hfold : (pair segment).1.foldCase = "domain".toList := by
    rwa [← Text.lower_eq_iff (Text.forall_mem_of_all (by decide))]
  apply SaysDomain.mono _ (Text.isInfix_trim segment)
  rcases Text.cut_cases '=' segment.trim with ⟨-, hcut⟩ | ⟨first, rest, -, htrim, hcut⟩
  · exact absurd (by simp [pair, hcut]) hvalue
  · have hfirst : first = (pair segment).1 := by rw [← htight, hcut]
    have hequals : Text.foldCase ['='] = ['='] := by decide
    rw [htrim, SaysDomain, hfirst, ← List.singleton_append, Text.foldCase_append,
      Text.foldCase_append, hfold, hequals]
    exact ⟨[], Text.foldCase rest, by simp⟩

theorem segments_of_saysDomain {host value : Text} (h : SaysDomain value) :
    segments host value = Text.splitOn (· == ';') value := by
  rw [segments, if_pos (saysDomain_iff.mpr h)]

/-- A host that is added is the last segment. -/
theorem segments_of_not_saysDomain {host value : Text} (hhost : host.IsDomain)
    (h : ¬ SaysDomain value) :
    segments host value = Text.splitOn (· == ';') value ++ [" Domain=".toList ++ host] := by
  have hadded : ';' ∉ " Domain=".toList ++ host := by
    rw [List.mem_append, not_or]
    exact ⟨by decide, hhost.no_semicolon⟩
  have hjoined :
      value ++ "; Domain=".toList ++ host = value ++ ';' :: (" Domain=".toList ++ host) :=
    List.append_assoc ..
  rw [segments, if_neg fun hstated => h (saysDomain_iff.mp hstated), hjoined,
    Text.splitOn_eq_splitOn, List.splitOn_append_cons_self, List.splitOn_eq_singleton hadded,
    ← Text.splitOn_eq_splitOn]

/-- The cookie of a first segment and some attributes. -/
def cookieOf (now : Int) (host first : Text) (attributes : List (Option Attribute)) :
    Except Failure (Option Cookie) :=
  match (pair first).2 with
  | none => pure none
  | some written => some <$> ((collected host attributes).cookie now (pair first).1 written).keep

/-- The cookie of some segments, where the host is the domain until one of them gives another. -/
def readSegments (now : Int) (host first : Text) (others : List Text) :
    Except Failure (Option Cookie) :=
  if (pair first).1 = [] then .ok none
  else others.mapM (attribute? now) >>= cookieOf now host first

theorem parse_of_segments {now : Int} {host value first : Text} {others : List Text}
    (h : segments host value = first :: others) :
    parse now host value = readSegments now host first others := by
  unfold readSegments
  by_cases hname : (pair first).1 = []
  · rw [if_pos hname, parse_of_unnamed h hname]
  · rw [if_neg hname]
    exact parse_of_named h hname

/-! ## Domains of segments -/

def Attribute.domain? : Attribute → Option (Option Text)
  | .domain value => some value
  | _ => none

/-- The value of a segment that is named domain. -/
def domainValue? (segment : Text) : Option (Option Text) :=
  if lowerName segment = "domain".toList then some (pair segment).2 else none

theorem nonempty_some {value : Text} (h : value ≠ []) : nonempty (some value) = some value := by
  simp [nonempty, h]

/-- The value of the last segment that is named domain. -/
def lastDomain? (segments : List Text) : Option Text :=
  (segments.filterMap domainValue?).getLast?.join

/-- The domain that some segments give: the last value, if it is not empty. -/
def domainOf (host : Text) (segments : List Text) : Text :=
  (nonempty (lastDomain? segments)).getD host

/-- The names of attributes that are known. -/
def knownNames : List Text :=
  ["domain", "path", "secure", "max-age", "expires", "version", "port"].map String.toList

/-- What a segment means as an attribute. -/
inductive Means (segment : Text) : Option Attribute → Prop
  | nameless (hname : (pair segment).1 = []) : Means segment none
  | domain (hname : lowerName segment = "domain".toList) :
      Means segment (some (.domain (pair segment).2))
  | path (hname : lowerName segment = "path".toList) : Means segment (some (.path (pair segment).2))
  | secure (hname : lowerName segment = "secure".toList) : Means segment (some .secure)
  | maxAge (hname : lowerName segment = "max-age".toList) :
      Means segment (some (.maxAge (pair segment).2))
  | expires (hname : lowerName segment = "expires".toList) (time : Option Int) :
      Means segment (some (.expires time))
  | unused (hname : lowerName segment = "version".toList ∨ lowerName segment = "port".toList) :
      Means segment (some .unused)
  | other (hname : lowerName segment ∉ knownNames) :
      Means segment (some (.other (pair segment).1 (pair segment).2))

theorem attribute_means {now : Int} {segment : Text} {said : Option Attribute}
    (h : attribute? now segment = .ok said) : Means segment said := by
  by_cases hexpires : lowerName segment = "expires".toList
  · rw [attribute_of_expires hexpires] at h
    cases hvalue : (pair segment).2 with
    | none =>
        simp only [hvalue, Except.ok.injEq] at h
        exact h ▸ .expires hexpires none
    | some date =>
        cases hdate : CookieDate.parse now (dropQuotes date) with
        | error failure => simp [hvalue, hdate, Except.map] at h
        | ok time =>
            simp only [hvalue, hdate, Except.map, Except.ok.injEq] at h
            exact h ▸ .expires hexpires time
  · have hlower : lowerName segment = (pair segment).1.lower := rfl
    unfold attribute? at h
    simp only [← hlower, if_neg hexpires] at h
    split_ifs at h with hempty hdomain hpath hsecure hage hunused <;> cases h
    · exact .nameless (List.isEmpty_iff.mp hempty)
    · exact .domain hdomain
    · exact .path hpath
    · exact .secure hsecure
    · exact .maxAge hage
    · exact .unused hunused
    · apply Means.other
      intro hmem
      simp only [knownNames, List.map_cons, List.map_nil, List.mem_cons, List.not_mem_nil,
        or_false] at hmem
      rcases hmem with hname | hname | hname | hname | hname | hname
      · exact hdomain hname
      · exact hpath hname
      · exact hsecure hname
      · exact hage hname
      · exact hexpires hname
      · exact hunused hname

theorem Means.domain? {segment : Text} {said : Option Attribute} (h : Means segment said) :
    said.bind Attribute.domain? = domainValue? segment := by
  unfold domainValue?
  cases h with
  | domain hname => rw [if_pos hname, Option.bind_some, Attribute.domain?]
  | nameless hname =>
      rw [lowerName, hname]
      rfl
  | unused hname =>
      rcases hname with hname | hname
      · rw [hname]
        rfl
      · rw [hname]
        rfl
  | other hname =>
      rw [if_neg]
      · rfl
      · intro hdomain
        rw [hdomain] at hname
        exact hname (by decide)
  | path hname | secure hname | maxAge hname | expires hname =>
      rw [hname]
      rfl

theorem filterMap_domain {now : Int} {others : List Text} {attributes : List (Option Attribute)}
    (h : others.mapM (attribute? now) = .ok attributes) :
    attributes.filterMap (·.bind Attribute.domain?) = others.filterMap domainValue? := by
  induction others generalizing attributes with
  | nil =>
      cases h
      rfl
  | cons segment others ih =>
      rw [List.mapM_cons] at h
      obtain ⟨said, hsaid, h⟩ := ok_of_bind h
      obtain ⟨rest, hrest, h⟩ := ok_of_bind h
      cases h
      simp only [List.filterMap_cons, (attribute_means hsaid).domain?, ih hrest]

theorem foldl_add_domain (host : Text) (attributes : List Attribute) :
    (attributes.foldl (Attributes.add host) ⟨host, none, false, none, none, []⟩).domain =
      (nonempty (attributes.filterMap Attribute.domain?).getLast?.join).getD host := by
  -- The last attribute decides, so the induction is from the end.
  induction attributes using List.reverseRecOn with
  | nil => rfl
  | append_singleton attributes said ih =>
      rw [List.foldl_append, List.foldl_cons, List.foldl_nil, List.filterMap_append]
      cases said with
      | domain value => simp [Attributes.add, Attribute.domain?]
      | maxAge value =>
          rw [Attributes.add]
          split <;> simpa [Attribute.domain?] using ih
      | path | secure | expires | unused | other =>
          simpa [Attributes.add, Attribute.domain?] using ih

/-- The domain of a cookie is the last that its segments give. -/
theorem collected_domain {now : Int} (host : Text) {others : List Text}
    {attributes : List (Option Attribute)} (h : others.mapM (attribute? now) = .ok attributes) :
    (collected host attributes).domain = domainOf host others := by
  rw [collected, foldl_add_domain, List.filterMap_filterMap]
  simp only [id_eq, filterMap_domain h, domainOf, lastDomain?]

/-- A domain that a value does not say stands nowhere, unless it has a blank before its equals
sign. -/
theorem lastDomain_of_not_saysDomain {value : Text} {others : List Text}
    (hstated : ¬ SaysDomain value)
    (hwithin : ∀ segment ∈ others, segment <:+: value)
    (htight : ∀ segment ∈ others, lowerName segment = "domain".toList → IsTight segment) :
    lastDomain? others = none := by
  have hvalues : ∀ value ∈ others.filterMap domainValue?, value = none := by
    intro value hvalue
    obtain ⟨segment, hmem, hsegment⟩ := List.mem_filterMap.mp hvalue
    unfold domainValue? at hsegment
    split at hsegment
    next hname =>
      cases hsegment
      by_contra hne
      exact hstated ((saysDomain_of_named hname (htight segment hmem hname) hne).mono
        (hwithin segment hmem))
    next => cases hsegment
  unfold lastDomain?
  cases hlast : (others.filterMap domainValue?).getLast? with
  | none => rfl
  | some value =>
      rw [hvalues value (List.mem_of_getLast? hlast)]
      rfl

end SetCookie

end HttpFetch
