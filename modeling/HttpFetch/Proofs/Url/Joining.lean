import HttpFetch.Proofs.Url.Hosts

/-!
# What joining adds

A reference is cut at its signs and put together again with pieces of the base.  So the characters
of what is joined are those of the base and the reference, and ASCII ones.  A redirect leads to a
host outside ASCII only when its location has a character of that kind (`redirect_host`).
-/

namespace HttpFetch.Url

theorem ascii_of_isSchemeChar {c : Char} (h : isSchemeChar c = true) : c.toNat < 128 := by
  simp only [isSchemeChar, Bool.or_eq_true, decide_eq_true_eq] at h
  rcases h with ((h | rfl) | rfl) | rfl
  · exact ascii_of_isAlphanum h
  all_goals decide

theorem ascii_of_mem_lowered {scheme : Text} (h : scheme.all isSchemeChar = true) :
    ∀ c ∈ scheme.map Char.toLower, c.toNat < 128 := by
  rw [List.forall_mem_map]
  intro c hc
  exact forall_ascii (P := fun c => c.toLower.toNat < 128) (by decide)
    (ascii_of_isSchemeChar (List.all_eq_true.mp h c hc))

theorem forall_mem_cut {P : Char → Prop} {s : Text} (hs : ∀ c ∈ s, P c) (sep : Char) :
    (∀ c ∈ (Text.cut sep s).1, P c) ∧ ∀ c ∈ (Text.cut sep s).2.getD [], P c := by
  constructor
  · exact fun c hc => hs c (Text.fst_cut_subset sep s hc)
  · cases hrest : (Text.cut sep s).2 with
    | none => simp
    | some rest => exact fun c hc => hs c (Text.snd_cut_subset hrest hc)

namespace Reference

/-- The scheme of a reference and what follows it. -/
def cutScheme (base s : Text) : Text × Text :=
  match Text.cut ':' s with
  | (scheme, some rest) =>
    if scheme.head?.any Char.isAlpha && scheme.all isSchemeChar then
      (scheme.map Char.toLower, rest)
    else (base, s)
  | _ => (base, s)

/-- The network location of a reference without its scheme, and what follows. -/
def cutNetloc (s : Text) : Text × Text :=
  match s with
  | '/' :: '/' :: rest =>
    let ends := fun c => c = '/' || c = '?' || c = '#'
    (rest.takeWhile (!ends ·), rest.dropWhile (!ends ·))
  | rest => ([], rest)

theorem ofText_eq (base s : Text) :
    ofText? base s =
      let (scheme, rest) := cutScheme base (s.dropWhile (·.toNat ≤ 0x20))
      let (netloc, rest) := cutNetloc rest
      if !bracketsAllowed netloc || netloc.any (fun c => delimiterLike.elem c.toNat) then none
      else
        let (rest, fragment) := Text.cut '#' rest
        let (path, query) := Text.cut '?' rest
        let (path, params) := if isOneOf parameterSchemes scheme then cutParams path else (path, [])
        some ⟨scheme, netloc, path, params, query.getD [], fragment.getD []⟩ := rfl

/-- All characters of a reference have a property. -/
structure Over (P : Char → Prop) (r : Reference) : Prop where
  scheme : ∀ c ∈ r.scheme, P c
  netloc : ∀ c ∈ r.netloc, P c
  path : ∀ c ∈ r.path, P c
  params : ∀ c ∈ r.params, P c
  query : ∀ c ∈ r.query, P c
  fragment : ∀ c ∈ r.fragment, P c

variable {P : Char → Prop}

theorem forall_mem_cutNetloc {s : Text} (hs : ∀ c ∈ s, P c) :
    (∀ c ∈ (cutNetloc s).1, P c) ∧ ∀ c ∈ (cutNetloc s).2, P c := by
  unfold cutNetloc
  split
  next rest =>
    simp only [List.forall_mem_cons] at hs
    exact ⟨fun c hc => hs.2.2 c (List.takeWhile_subset _ hc),
      fun c hc => hs.2.2 c (List.dropWhile_subset _ hc)⟩
  next => simpa using hs

/-- A path has no parameters, or they are all that follows a semicolon. -/
theorem cutParams_cases (path : Text) :
    cutParams path = (path, []) ∨
      ∃ first params, path = first ++ ';' :: params ∧ cutParams path = (first, params) := by
  cases hlast : Text.cutLast '/' path with
  | none =>
      rcases Text.cut_cases ';' path with ⟨-, hcut⟩ | ⟨first, params, -, hpath, hcut⟩
      · left
        simp only [cutParams, hlast, hcut]
      · right
        exact ⟨first, params, hpath, by simp only [cutParams, hlast, hcut, List.nil_append]⟩
  | some parts =>
      obtain ⟨directory, segment⟩ := parts
      have hpath := Text.cutLast_eq hlast
      rcases Text.cut_cases ';' segment with ⟨-, hcut⟩ | ⟨first, params, -, hsegment, hcut⟩
      · left
        simp only [cutParams, hlast, hcut]
      · right
        refine ⟨directory ++ ['/'] ++ first, params, ?_, by simp only [cutParams, hlast, hcut]⟩
        rw [hpath, hsegment]
        simp

theorem forall_mem_cutParams {path : Text} (hpath : ∀ c ∈ path, P c) :
    (∀ c ∈ (cutParams path).1, P c) ∧ ∀ c ∈ (cutParams path).2, P c := by
  rcases cutParams_cases path with hcut | ⟨first, params, rfl, hcut⟩
  · rw [hcut]
    exact ⟨hpath, by simp⟩
  · rw [hcut]
    rw [List.forall_mem_append, List.forall_mem_cons] at hpath
    exact ⟨hpath.1, hpath.2.2⟩

variable (hascii : ∀ c : Char, c.toNat < 128 → P c)

include hascii

theorem forall_mem_cutScheme {base s : Text} (hbase : ∀ c ∈ base, P c) (hs : ∀ c ∈ s, P c) :
    (∀ c ∈ (cutScheme base s).1, P c) ∧ ∀ c ∈ (cutScheme base s).2, P c := by
  have hcut := forall_mem_cut hs ':'
  unfold cutScheme
  split
  next scheme rest heq =>
    rw [heq] at hcut
    split
    next hscheme =>
      rw [Bool.and_eq_true] at hscheme
      exact ⟨fun c hc => hascii c (ascii_of_mem_lowered hscheme.2 c hc), hcut.2⟩
    next => exact ⟨hbase, hs⟩
  next => exact ⟨hbase, hs⟩

theorem over_ofText {base s : Text} {r : Reference} (h : ofText? base s = some r)
    (hbase : ∀ c ∈ base, P c) (hs : ∀ c ∈ s, P c) : r.Over P := by
  rw [ofText_eq] at h
  have hscheme := forall_mem_cutScheme hascii hbase fun c hc =>
    hs c (List.dropWhile_subset (·.toNat ≤ 0x20) hc)
  generalize cutScheme base (s.dropWhile (·.toNat ≤ 0x20)) = parts at h hscheme
  obtain ⟨scheme, rest⟩ := parts
  have hnetloc := forall_mem_cutNetloc hscheme.2
  dsimp only at h
  generalize cutNetloc rest = parts at h hnetloc
  obtain ⟨netloc, rest⟩ := parts
  have hfragment := forall_mem_cut hnetloc.2 '#'
  have hquery := forall_mem_cut hfragment.1 '?'
  have hpath := forall_mem_cutParams hquery.1
  simp only [Option.ite_none_left_eq_some, Option.some.injEq] at h
  obtain ⟨-, rfl⟩ := h
  refine ⟨hscheme.1, hnetloc.1, ?_, ?_, hquery.2, hfragment.2⟩
  · dsimp only
    split
    · exact hpath.1
    · exact hquery.1
  · dsimp only
    split
    · exact hpath.2
    · simp

theorem forall_mem_text {r : Reference} (h : r.Over P) : ∀ c ∈ r.text, P c := by
  have hannounced : ∀ (sign : Char) (part : Text), sign.toNat < 128 → (∀ c ∈ part, P c) →
      ∀ c ∈ announcedUnlessEmpty sign part, P c := by
    intro sign part hsign hpart
    unfold announcedUnlessEmpty
    split
    · simp
    · exact List.forall_mem_cons.mpr ⟨hascii sign hsign, hpart⟩
  have hslash := hascii '/' (by decide)
  have hpath : ∀ c ∈ r.path ++ announcedUnlessEmpty ';' r.params, P c :=
    List.forall_mem_append.mpr ⟨h.path, hannounced ';' _ (by decide) h.params⟩
  unfold text
  dsimp only
  generalize r.path ++ announcedUnlessEmpty ';' r.params = path at hpath
  have hlocated : ∀ located : Text, (∀ c ∈ located, P c) →
      ∀ c ∈ (if r.scheme.isEmpty then located else r.scheme ++ ':' :: located) ++
        announcedUnlessEmpty '?' r.query ++ announcedUnlessEmpty '#' r.fragment, P c := by
    intro located hlocated
    simp only [List.forall_mem_append]
    refine ⟨⟨?_, hannounced '?' _ (by decide) h.query⟩, hannounced '#' _ (by decide) h.fragment⟩
    split
    · exact hlocated
    · simp only [List.forall_mem_append, List.forall_mem_cons]
      exact ⟨h.scheme, hascii ':' (by decide), hlocated⟩
  apply hlocated
  split
  · simp only [List.cons_append, List.forall_mem_cons, List.forall_mem_append]
    refine ⟨hslash, hslash, h.netloc, ?_⟩
    split
    · exact hpath
    · exact List.forall_mem_cons.mpr ⟨hslash, hpath⟩
  · exact hpath

end Reference

variable {P : Char → Prop}

theorem forall_mem_joinSegments {base path : Text} (hbase : ∀ c ∈ base, P c)
    (hpath : ∀ c ∈ path, P c) : ∀ segment ∈ joinSegments base path, ∀ c ∈ segment, P c := by
  have hsegments : ∀ segment ∈ Text.splitOn (· == '/') path, ∀ c ∈ segment, P c :=
    fun segment hsegment c hc => hpath c (Text.subset_of_mem_splitOn hsegment hc)
  have hdirectory : ∀ segment ∈ Text.splitOn (· == '/') base, ∀ c ∈ segment, P c :=
    fun segment hsegment c hc => hbase c (Text.subset_of_mem_splitOn hsegment hc)
  unfold joinSegments
  dsimp only
  generalize Text.splitOn (· == '/') path = segments at hsegments
  generalize Text.splitOn (· == '/') base = directory at hdirectory
  split
  · exact hsegments
  · have hall : ∀ segment ∈ (if directory.getLast? = some [] then directory
        else directory.dropLast) ++ segments, ∀ c ∈ segment, P c := by
      rw [List.forall_mem_append]
      refine ⟨?_, hsegments⟩
      split
      · exact hdirectory
      · exact fun segment hsegment => hdirectory segment (List.mem_of_mem_dropLast hsegment)
    generalize
      (if directory.getLast? = some [] then directory else directory.dropLast) ++ segments = all
      at hall
    cases all with
    | nil => simp
    | cons first rest =>
        simp only [List.forall_mem_cons, List.forall_mem_append, List.cons_append] at hall ⊢
        refine ⟨hall.1, fun segment hsegment => ?_, fun segment hsegment => ?_⟩
        · exact hall.2 segment (List.mem_of_mem_dropLast (List.mem_of_mem_filter hsegment))
        · exact hall.2 segment (List.mem_of_mem_getLast? (Option.mem_toList.mp hsegment))

theorem forall_mem_joinPath {base path : Text} (hbase : ∀ c ∈ base, P c) (hpath : ∀ c ∈ path, P c)
    (hslash : P '/') : ∀ c ∈ joinPath base path, P c := by
  have hsegments := forall_mem_joinSegments hbase hpath
  unfold joinPath
  dsimp only
  generalize joinSegments base path = segments at hsegments ⊢
  have hresolved : ∀ segment ∈ segments.foldl (fun before segment =>
      if segment = ['.', '.'] then before.tail
      else if segment = ['.'] then before
      else segment :: before) [], ∀ c ∈ segment, P c := by
    -- The segments that are left are some of those that were there.
    apply List.foldlRecOn (motive := fun all => ∀ segment ∈ all, ∀ c ∈ segment, P c) segments _
      (by simp)
    intro before hbefore segment hsegment
    split_ifs
    · exact fun piece hpiece => hbefore piece (List.mem_of_mem_tail hpiece)
    · exact hbefore
    · exact List.forall_mem_cons.mpr ⟨hsegments segment hsegment, hbefore⟩
  generalize segments.foldl _ [] = resolved at hresolved ⊢
  have hjoined : ∀ pieces : List Text, (∀ segment ∈ pieces, ∀ c ∈ segment, P c) →
      ∀ c ∈ if (['/'].intercalate pieces.reverse).isEmpty then ['/']
        else ['/'].intercalate pieces.reverse, P c := by
    intro pieces hpieces
    split
    · simpa using hslash
    · intro c hc
      rcases Text.mem_intercalate hc with hc | ⟨segment, hsegment, hc⟩
      · rw [List.mem_singleton.mp hc]
        exact hslash
      · exact hpieces segment (List.mem_reverse.mp hsegment) c hc
  apply hjoined
  split
  · split
    · simpa using hresolved
    · exact hresolved
  · exact hresolved

theorem forall_mem_joinText (hascii : ∀ c : Char, c.toNat < 128 → P c) {base s joined : Text}
    (h : joinText? base s = some joined) (hbase : ∀ c ∈ base, P c) (hs : ∀ c ∈ s, P c) :
    ∀ c ∈ joined, P c := by
  unfold joinText? at h
  split at h
  · cases h
    exact hs
  split at h
  · cases h
    exact hbase
  obtain ⟨b, hb, h⟩ := Option.bind_eq_some_iff.mp h
  obtain ⟨r, hr, h⟩ := Option.bind_eq_some_iff.mp h
  have hb := Reference.over_ofText hascii hb (by simp) hbase
  have hr := Reference.over_ofText hascii hr hb.scheme hs
  have hnetloc : ∀ c ∈ if isOneOf authoritySchemes r.scheme then b.netloc else r.netloc, P c := by
    split
    · exact hb.netloc
    · exact hr.netloc
  split at h
  · cases h
    exact hs
  split at h
  · cases h
    exact Reference.forall_mem_text hascii hr
  dsimp only at h
  split at h
  · cases h
    apply Reference.forall_mem_text hascii
    refine ⟨hr.scheme, hnetloc, hb.path, hb.params, ?_, hr.fragment⟩
    dsimp only
    split
    · exact hb.query
    · exact hr.query
  · cases h
    apply Reference.forall_mem_text hascii
    exact ⟨hr.scheme, hnetloc, forall_mem_joinPath hb.path hr.path (hascii '/' (by decide)),
      hr.params, hr.query, hr.fragment⟩

/-! ## Texts of URLs -/

theorem ascii_of_mem_scheme (s : Text) :
    ∀ c ∈ (Parts.ofText s).scheme.map Char.toLower, c.toNat < 128 := by
  have hcut : (cutScheme s).1.all isSchemeChar = true := by
    unfold cutScheme
    split
    next => rfl
    next =>
      split
      next hscheme =>
        rw [Bool.and_eq_true] at hscheme
        exact hscheme.1
      next => rfl
  exact ascii_of_mem_lowered hcut

variable {s : Text} {url : Url}

theorem parse_ascii (h : parse s = .ok url) :
    (∀ c ∈ url.scheme, c.toNat < 128) ∧ (∀ c ∈ url.userinfo, Text.IsVisible c) ∧
      ∀ fragment, url.fragment = some fragment → ∀ c ∈ fragment, Text.IsVisible c := by
  unfold parse at h
  split at h
  next => cases h
  split at h
  next => cases h
  next =>
    obtain ⟨host, -, h⟩ := ok_of_bind h
    obtain ⟨port, -, h⟩ := ok_of_bind h
    obtain ⟨path, -, h⟩ := ok_of_bind h
    cases h
    refine ⟨ascii_of_mem_scheme s, isVisible_of_mem_encode (by decide) _, ?_⟩
    intro fragment hfragment
    obtain ⟨written, -, rfl⟩ := Option.map_eq_some_iff.mp hfragment
    exact isVisible_of_mem_encode (by decide) written

/-- Only the host of a URL can bring characters outside ASCII into its text. -/
theorem forall_mem_text (hascii : ∀ c : Char, c.toNat < 128 → P c) (h : parse s = .ok url)
    (hhost : ∀ c ∈ url.host, P c) : ∀ c ∈ url.text, P c := by
  obtain ⟨hscheme, huserinfo, hfragment⟩ := parse_ascii h
  obtain ⟨-, hpath, hquery⟩ := parse_spelled h
  obtain ⟨port, hport, hnetloc⟩ := url.exists_netloc_eq
  have hvisible : ∀ c, Text.IsVisible c → P c := fun c hc => hascii c hc.ascii
  have hannounced : ∀ (sign : Char) (part? : Option Text), P sign →
      (∀ part, part? = some part → ∀ c ∈ part, Text.IsVisible c) →
      ∀ c ∈ announced sign part?, P c := by
    intro sign part? hsign hpart
    cases part? with
    | none => simp [announced]
    | some part =>
        exact List.forall_mem_cons.mpr ⟨hsign, fun c hc => hvisible c (hpart part rfl c hc)⟩
  have hwritten : ∀ c ∈ url.writtenHost, P c := by
    unfold writtenHost
    split
    · simp only [List.forall_mem_append, List.forall_mem_cons]
      exact ⟨⟨hascii '[' (by decide), hhost⟩, hascii ']' (by decide), by simp⟩
    · exact hhost
  have hauthority : ∀ c ∈ url.authority, P c := by
    rw [authority, hnetloc, List.forall_mem_append, List.forall_mem_append]
    refine ⟨?_, hwritten, fun c hc => hvisible c (hport c hc)⟩
    split
    · simp
    · rw [List.forall_mem_append, List.forall_mem_singleton]
      exact ⟨fun c hc => hvisible c (huserinfo c hc), hascii '@' (by decide)⟩
  unfold text
  simp only [List.forall_mem_append]
  refine ⟨⟨⟨⟨?_, ?_⟩, fun c hc => hvisible c (hpath c hc)⟩,
    hannounced '?' _ (hascii '?' (by decide)) hquery⟩,
    hannounced '#' _ (hascii '#' (by decide)) hfragment⟩
  · split
    · simp
    · rw [List.forall_mem_append, List.forall_mem_singleton]
      exact ⟨fun c hc => hascii c (hscheme c hc), hascii ':' (by decide)⟩
  · split
    · simp
    · simp only [List.forall_mem_cons]
      exact ⟨hascii '/' (by decide), hascii '/' (by decide), hauthority⟩

/-- The host that a redirect from an ASCII host leads to is ASCII, or an address whose scope has a
character of the location outside ASCII. -/
theorem redirect_host {written location : Text} {base next : Url}
    (hbase : parse written = .ok base) (hhost : isAscii base.host = true)
    (h : base.redirect location = .ok next) :
    isAscii next.host = true ∨
      (Host.isIpv6 next.host = true ∧ ∃ c ∈ next.host, c ∈ location ∧ 128 ≤ c.toNat) := by
  let P : Char → Prop := fun c => c.toNat < 128 ∨ c ∈ location
  have hascii : ∀ c : Char, c.toNat < 128 → P c := fun c hc => Or.inl hc
  have hkeeps : ∀ {s : Text} {url : Url}, parse s = .ok url → (∀ c ∈ s, P c) →
      ∀ c ∈ url.host, P c := by
    intro s url hparse hs c hc
    rcases host_cases hparse with hvisible | ⟨-, hmem⟩
    · exact hascii c (hvisible c hc).ascii
    · rcases hmem c hc with hc | rfl
      · exact hs c hc
      · exact hascii ']' (by decide)
  obtain ⟨reference, joined, hreference, hjoined, hnext⟩ := redirect_ok h
  have hlocation := hkeeps hreference fun c hc => Or.inr hc
  have hbaseHost : ∀ c ∈ base.host, P c := fun c hc =>
    hascii c (by simpa using List.all_eq_true.mp hhost c hc)
  have hall := forall_mem_joinText hascii hjoined (forall_mem_text hascii hbase hbaseHost)
    (forall_mem_text hascii hreference hlocation)
  by_cases hplain : isAscii next.host = true
  · exact Or.inl hplain
  · right
    obtain ⟨c, hc, hlarge⟩ : ∃ c ∈ next.host, 128 ≤ c.toNat := by
      simpa [isAscii] using hplain
    have hmem := (hkeeps hnext hall c hc).resolve_left (by omega)
    refine ⟨?_, c, hc, hmem, hlarge⟩
    rcases host_cases hnext with hvisible | ⟨haddress, -⟩
    · exact absurd (hvisible c hc).ascii (by omega)
    · exact haddress

end HttpFetch.Url
