import HttpFetch.Proofs.Cookie.Segments
import HttpFetch.Url.Parse

/-!
# The domain of a cookie

A cookie has the domain that its server gives last, without leading dots, or else the host, with two
exceptions.  A domain of dots only is there before its dots are dropped, so that nothing is left of
it.  And one with a blank before its equals sign is not seen where the value does not say `domain=`
elsewhere: the host is added behind it and wins (`SetCookie.domain_given`).
-/

namespace HttpFetch

namespace Text

theorem lowerChar_ne_nil (c : Char) : lowerChar c ≠ [] := by
  unfold lowerChar
  split
  · exact List.cons_ne_nil _ _
  · have hexpansions : lowerMap.expansions.all (!·.2.isEmpty) = true := by decide +kernel
    rw [List.all_eq_true] at hexpansions
    cases hfound : lowerMap.find? c with
    | none => exact List.cons_ne_nil _ _
    | some image =>
        unfold CharMap.find? at hfound
        split at hfound
        · cases hfound
          exact List.cons_ne_nil _ _
        · obtain ⟨entry, hentry, rfl⟩ := Option.map_eq_some_iff.mp hfound
          simpa using hexpansions entry (List.mem_of_find?_eq_some hentry)

theorem lower_eq_nil_iff {s : Text} : s.lower = [] ↔ s = [] := by
  rw [← List.map_eq_nil_iff (f := unfinal), lower_unfinal, foldCase, List.map_eq_nil_iff]
  constructor
  · intro h
    cases s with
    | nil => rfl
    | cons c s =>
        rw [List.flatMap_cons, List.append_eq_nil_iff] at h
        exact absurd h.1 (lowerChar_ne_nil c)
  · rintro rfl
    rfl

end Text

namespace SetCookie

def dropDots (domain : Text) : Text := domain.dropWhile (· = '.')

theorem dropDots_of_no_dot {domain : Text} (h : domain.head? ≠ some '.') :
    dropDots domain = domain := by
  cases domain with
  | nil => rfl
  | cons c domain => simpa [dropDots] using h

theorem dropDots_eq_nil_iff {domain : Text} : dropDots domain = [] ↔ ∀ c ∈ domain, c = '.' := by
  simp [dropDots, List.dropWhile_eq_nil_iff]

/-- The domain that the last segment of that name gives, without leading dots, or else the host. -/
def givenDomain (host : Text) (segments : List Text) : Text :=
  (nonempty ((lastDomain? segments).map dropDots)).getD host

/-- Whether the last segment named domain has dots for its value and nothing else. -/
def GivesDots (segments : List Text) : Prop :=
  ∃ value, lastDomain? segments = some value ∧ value ≠ [] ∧ ∀ c ∈ value, c = '.'

theorem domainOf_of_givesDots (host : Text) {segments : List Text} (h : GivesDots segments) :
    dropDots (domainOf host segments) = [] := by
  obtain ⟨value, hlast, hne, hdots⟩ := h
  rw [domainOf, hlast, nonempty_some hne]
  exact dropDots_eq_nil_iff.mpr hdots

theorem domainOf_of_not_givesDots {host : Text} (hhost : host.head? ≠ some '.')
    {segments : List Text} (h : ¬ GivesDots segments) :
    dropDots (domainOf host segments) = givenDomain host segments := by
  unfold domainOf givenDomain
  cases hlast : lastDomain? segments with
  | none => exact dropDots_of_no_dot hhost
  | some value =>
      by_cases hvalue : value = []
      · rw [hvalue]
        exact dropDots_of_no_dot hhost
      · have hdropped : dropDots value ≠ [] := fun hnil =>
          h ⟨value, hlast, hvalue, dropDots_eq_nil_iff.mp hnil⟩
        rw [Option.map_some, nonempty_some hvalue, nonempty_some hdropped]
        rfl

theorem givenDomain_ne_nil {host : Text} (hhost : host ≠ []) (segments : List Text) :
    givenDomain host segments ≠ [] := by
  unfold givenDomain
  cases hvalue : nonempty ((lastDomain? segments).map dropDots) with
  | none => exact hhost
  | some domain => simpa using (Option.filter_eq_some_iff.mp hvalue).2

section Hosts

variable {host : Text} (hhost : host.IsDomain)

include hhost

theorem domainOf_append_host (segments : List Text) :
    domainOf host (segments ++ [" Domain=".toList ++ host]) = host := by
  have hadded : domainValue? (" Domain=".toList ++ host) = some (some host) :=
    (attribute_means (attribute_domain 0 hhost)).domain?.symm
  have hlast : lastDomain? (segments ++ [" Domain=".toList ++ host]) = some host := by
    rw [lastDomain?, List.filterMap_append, List.filterMap_cons_some hadded, List.filterMap_nil,
      List.getLast?_concat, Option.join_some]
  rw [domainOf, hlast, nonempty_some hhost.nonempty, Option.getD_some]

theorem domainOf_tail_segments (value : Text) :
    (SaysDomain value → domainOf host (segments host value).tail =
      domainOf host (Text.splitOn (· == ';') value).tail) ∧
    (¬ SaysDomain value → domainOf host (segments host value).tail = host) := by
  constructor
  · intro hstated
    rw [segments_of_saysDomain hstated]
  · intro hstated
    have hne : Text.splitOn (· == ';') value ≠ [] := List.cons_ne_nil _ _
    rw [segments_of_not_saysDomain hhost hstated, List.tail_append_of_ne_nil hne,
      domainOf_append_host hhost]

end Hosts

/-- The domain of a cookie in terms of the segments that are read, for any host. -/
theorem domain_of_parse {now : Int} {host value : Text} {cookie : Cookie}
    (h : parse now host value = .ok (some cookie)) :
    cookie.domain = (dropDots (domainOf host (segments host value).tail)).lower := by
  obtain ⟨first, others, hsegments⟩ := List.exists_cons_of_ne_nil (segments_ne_nil host value)
  rw [parse_of_segments hsegments, readSegments] at h
  split at h
  · cases h
  · obtain ⟨attributes, hread, hcookie⟩ := ok_of_bind h
    rw [hsegments, List.tail_cons, ← collected_domain host hread]
    unfold cookieOf at hcookie
    cases hwritten : (pair first).2 with
    | none =>
        rw [hwritten] at hcookie
        cases hcookie
    | some written =>
        simp only [hwritten, Cookie.keep] at hcookie
        generalize Cookie.keptExpiry _ = expires at hcookie
        cases expires with
        | error failure => cases hcookie
        | ok expires =>
            cases hcookie
            rfl

/-- A host with a semicolon is cut there when it is added, and what follows can name another one. -/
example :
    let host := "a;domain=e.com".toList
    (Url.parse "http://a;domain=e.com/".toList).toOption.map Url.host = some host ∧
      (parse 0 host "a=1".toList).map (·.map Cookie.domain) = .ok (some "e.com".toList) := by
  decide +kernel

/-- A cookie has the domain that its server gives last, without leading dots, or else the host, in
lower case, unless that is dots only or has a blank before its equals sign. -/
theorem domain_given {now : Int} {host value : Text} {cookie : Cookie} (hhost : host.IsDomain)
    (h : parse now host value = .ok (some cookie)) :
    let others := (Text.splitOn (· == ';') value).tail
    (cookie.domain = [] ↔ SaysDomain value ∧ GivesDots others) ∧
      (¬ GivesDots others →
        (SaysDomain value ∨
          ∀ segment ∈ others, lowerName segment = "domain".toList → IsTight segment) →
        cookie.domain = (givenDomain host others).lower) ∧
      (¬ SaysDomain value → cookie.domain = host.lower) := by
  intro others
  have hdomain := domain_of_parse h
  obtain ⟨hread, hadded⟩ := domainOf_tail_segments hhost value
  have hunstated : ¬ SaysDomain value → cookie.domain = host.lower := by
    intro hstated
    rw [hdomain, hadded hstated, dropDots_of_no_dot hhost.no_dot]
  have hgiven : SaysDomain value → ¬ GivesDots others →
      cookie.domain = (givenDomain host others).lower := by
    intro hstated hdots
    rw [hdomain, hread hstated, domainOf_of_not_givesDots hhost.no_dot hdots]
  refine ⟨⟨fun hnil => ?_, fun ⟨hstated, hdots⟩ => ?_⟩, fun hdots hseen => ?_, hunstated⟩
  · by_contra hnot
    by_cases hstated : SaysDomain value
    · rw [hgiven hstated fun hdots => hnot ⟨hstated, hdots⟩, Text.lower_eq_nil_iff] at hnil
      exact givenDomain_ne_nil hhost.nonempty others hnil
    · rw [hunstated hstated, Text.lower_eq_nil_iff] at hnil
      exact hhost.nonempty hnil
  · rw [hdomain, hread hstated, domainOf_of_givesDots host hdots]
    rfl
  · by_cases hstated : SaysDomain value
    · exact hgiven hstated hdots
    · have htight := hseen.resolve_left hstated
      have hwithin : ∀ segment ∈ others, segment <:+: value := fun segment hsegment =>
        Text.infix_of_mem_splitOn (List.mem_of_mem_tail hsegment)
      rw [hunstated hstated, givenDomain, lastDomain_of_not_saysDomain hstated hwithin htight]
      rfl

/-- The last domain is the one that counts, and its dots and capitals are gone. -/
theorem domain_given_upperCase :
    let cookie : Cookie :=
      ⟨"a".toList, "1".toList, "e.com".toList, true, ['/'], false, false, none, []⟩
    let value := "a=1; domain=x.com; Domain=..E.com".toList
    let others := [" domain=x.com".toList, " Domain=..E.com".toList]
    parse 0 "www.e.com".toList value = .ok (some cookie) ∧
      cookie.domain = (givenDomain "www.e.com".toList others).lower ∧ cookie.domain ≠ [] := by
  intro cookie value others
  have hhost : Text.IsDomain "www.e.com".toList := ⟨by decide, by decide, by decide, by decide⟩
  have hparse : parse 0 "www.e.com".toList value = .ok (some cookie) := by decide +kernel
  have hothers : (Text.splitOn (· == ';') value).tail = others := by decide
  have hstated : SaysDomain value := saysDomain_iff.mp (by decide +kernel)
  have hlast : lastDomain? others = some "..E.com".toList := by decide +kernel
  have hdots : ¬ GivesDots others := by
    rintro ⟨domain, hdomain, -, hall⟩
    cases hlast.symm.trans hdomain
    exact absurd (hall 'E' (by decide)) (by decide)
  obtain ⟨hempty, hgiven, -⟩ := domain_given hhost hparse
  rw [hothers] at hempty hgiven
  exact ⟨hparse, hgiven hdots (.inl hstated), fun hnil => hdots (hempty.mp hnil).2⟩

/-- A domain of dots leaves a cookie without a domain, and one with a blank before its equals sign
leaves it with the host. -/
theorem domain_given_dots :
    let host := "e.com".toList
    let cookie (domain : Text) (initialDot : Bool) : Cookie :=
      ⟨"a".toList, "1".toList, domain, initialDot, ['/'], false, false, none, []⟩
    parse 0 host "a=1; Domain=.".toList = .ok (some (cookie [] true)) ∧
      givenDomain host [" Domain=.".toList] = host ∧
      parse 0 host "a=1; Domain =x.com".toList = .ok (some (cookie host false)) ∧
      givenDomain host [" Domain =x.com".toList] = "x.com".toList := by
  decide +kernel

end SetCookie

end HttpFetch
