import HttpFetch.Proofs.Cookie.RoundTrip
import HttpFetch.Proofs.Url.Spelling

/-!
# What hosts are made of

The host of a URL is visible ASCII, or else an IPv6 address, whose scope is kept as it was written.
For names that are not in ASCII this rests on the labels: a label holds letters, digits, marks and
some punctuation, and no blank is among these, whether the label stands as it is or is written out.
-/

namespace HttpFetch

namespace Text

theorem IsPrintable.isVisible {c : Char} (h : IsPrintable c) (hascii : c.toNat < 128)
    (hspace : c ≠ ' ') : IsVisible c := by
  have hne : c.toNat ≠ 0x20 := fun heq => hspace (Char.toNat_inj.mp heq)
  unfold IsPrintable at h
  unfold IsVisible
  omega

end Text

/-! ## Labels -/

namespace Punycode.Reading

theorem label_subset_of_insert (state : Reading) {next : Reading} (h : state.insert? = some next) :
    state.label ⊆ next.label := by
  unfold insert? at h
  dsimp only at h
  split at h
  · cases h
    intro c hc
    rw [← List.take_append_drop ((state.position + state.delta) % (state.label.length + 1))
      state.label, List.mem_append] at hc
    simp only [List.mem_append, List.mem_cons]
    tauto
  · cases h

theorem step_keeps {state next : Reading} {c : Char} (h : state.step? c = some next) :
    (digit? c).isSome = true ∧ state.label ⊆ next.label := by
  unfold step? at h
  cases hdigit : digit? c with
  | none => simp [hdigit] at h
  | some value =>
      simp only [hdigit, bind, Option.bind] at h
      refine ⟨rfl, ?_⟩
      split at h
      · exact label_subset_of_insert { state with delta := state.delta + value * state.weight } h
      · cases h
        simp

theorem foldlM_keeps {extended : Text} {state last : Reading}
    (h : extended.foldlM step? state = some last) :
    (∀ c ∈ extended, (digit? c).isSome = true) ∧ state.label ⊆ last.label := by
  induction extended generalizing state with
  | nil =>
      cases h
      simp
  | cons c extended ih =>
      rw [List.foldlM_cons] at h
      obtain ⟨next, hstep, h⟩ := Option.bind_eq_some_iff.mp h
      have hfirst := step_keeps hstep
      have hrest := ih h
      exact ⟨List.forall_mem_cons.mpr ⟨hfirst.1, hrest.1⟩, List.Subset.trans hfirst.2 hrest.2⟩

end Punycode.Reading

/-- What is written before the last hyphen is in the label; all that follows are digits. -/
theorem Punycode.mem_decode {written label : Text} (h : decode? written = some label) {c : Char}
    (hc : c ∈ written) : c ∈ label ∨ c = '-' ∨ (digit? c).isSome = true := by
  unfold decode? at h
  cases hcut : Text.cutLast '-' written with
  | none =>
      simp only [hcut, Option.getD_none, Option.bind_eq_bind, Option.bind_eq_some_iff] at h
      obtain ⟨state, hread, -⟩ := h
      exact Or.inr (Or.inr ((Reading.foldlM_keeps hread).1 c hc))
  | some parts =>
      obtain ⟨basic, extended⟩ := parts
      simp only [hcut, Option.getD_some, Option.bind_eq_bind, Option.bind_eq_some_iff] at h
      obtain ⟨state, hread, hlabel⟩ := h
      have hkeeps := Reading.foldlM_keeps hread
      simp only [Option.ite_none_right_eq_some, Option.some.injEq] at hlabel
      rw [Text.cutLast_eq hcut, List.mem_append, List.mem_cons] at hc
      rcases hc with hc | hc | hc
      · exact Or.inl (hlabel.2 ▸ hkeeps.2 hc)
      · exact Or.inr (Or.inl hc)
      · exact Or.inr (Or.inr (hkeeps.1 c hc))

namespace Host

theorem validSet_space : validSet.contains ' ' = false := by decide +kernel

theorem notMem_of_allAllowed {label before rest : Text}
    (h : allAllowed label before rest = true) : ' ' ∉ rest := by
  induction rest generalizing before with
  | nil => simp
  | cons c rest ih =>
      rw [allAllowed, Bool.and_eq_true] at h
      rw [List.mem_cons, not_or]
      refine ⟨?_, ih h.2⟩
      rintro rfl
      -- What may stand beside other characters only begins at the middle dot.
      have hbetween : allowedBetween label before ' ' rest = false := rfl
      simp [validSet_space, hbetween] at h

theorem notMem_of_isLabel {label : Text} (h : isLabel label = true) : ' ' ∉ label := by
  simp only [isLabel, Bool.and_eq_true] at h
  exact notMem_of_allAllowed h.1.2

theorem notMem_of_isAsciiLabel {label : Text} (h : isAsciiLabel label = true) : ' ' ∉ label := by
  intro hmem
  have hlower : ' ' ∈ label.map Char.toLower := List.mem_map.mpr ⟨' ', hmem, rfl⟩
  unfold isAsciiLabel at h
  dsimp only at h
  split at h
  next hmark =>
    have hwritten : ' ' ∈ (label.map Char.toLower).drop writtenMark.length := by
      obtain ⟨written, heq⟩ := List.isPrefixOf_iff_prefix.mp hmark
      rw [← heq, List.mem_append] at hlower
      rw [← heq, List.drop_left]
      exact hlower.resolve_left (by decide)
    rw [Bool.and_eq_true] at h
    have hdecoded := h.2
    split at hdecoded
    next decoded hread =>
      rcases Punycode.mem_decode hread hwritten with hin | hhyphen | hdigit
      · exact notMem_of_isLabel hdecoded hin
      · exact absurd hhyphen (by decide)
      · exact absurd hdigit (by decide)
    next => cases hdecoded
  next => exact notMem_of_isLabel h hlower

theorem isVisible_of_mem_asciiLabel {label ascii : Text} (h : asciiLabel? label = some ascii)
    (hlabel : ∀ c ∈ label, Text.IsPrintable c) : ∀ c ∈ ascii, Text.IsVisible c := by
  unfold asciiLabel? at h
  obtain ⟨h, -⟩ := Option.filter_eq_some_iff.mp h
  intro c hc
  split at h
  next hascii =>
    simp only [List.all_eq_true, decide_eq_true_eq] at hascii
    simp only [Option.ite_none_right_eq_some, Option.some.injEq] at h
    obtain ⟨hvalid, rfl⟩ := h
    apply (hlabel c hc).isVisible (hascii c hc)
    rintro rfl
    exact notMem_of_isAsciiLabel hvalid hc
  next =>
    simp only [Option.ite_none_right_eq_some, Option.some.injEq] at h
    obtain ⟨hvalid, rfl⟩ := h
    rcases List.mem_append.mp hc with hc | hc
    · have hmark : ∀ c ∈ writtenMark, Text.IsVisible c := Text.forall_mem_of_all (by decide)
      exact hmark c hc
    · rcases Punycode.mem_encode hc with ⟨hc, hascii⟩ | hvisible
      · apply (hlabel c hc).isVisible hascii
        rintro rfl
        exact notMem_of_isLabel hvalid hc
      · exact hvisible

theorem isVisible_of_mem_ascii {name ascii : Text} (h : ascii? name = some ascii)
    (hname : ∀ c ∈ name, Text.IsPrintable c) : ∀ c ∈ ascii, Text.IsVisible c := by
  intro c hc
  rcases exists_label_of_mem_ascii h hc with rfl | ⟨label, written, hlabel, hwritten, hc⟩
  · decide
  · exact isVisible_of_mem_asciiLabel hwritten (fun c hc => hname c (hlabel hc)) c hc

theorem colon_mem_of_isIpv6 {s : Text} (h : isIpv6 s = true) : ':' ∈ s := by
  by_contra hcolon
  have haddress : ':' ∉ (Text.cut '%' s).1 := fun hmem => hcolon (Text.fst_cut_subset '%' s hmem)
  have hgroups : hextets? (Text.cut '%' s).1 = none := by
    simp [hextets?, Text.splitOn_eq_splitOn, List.splitOn_eq_singleton haddress]
  simp [isIpv6, hgroups] at h

end Host

/-! ## Hosts -/

namespace Url

theorem isVisible_of_looksLikeIpv4 {host : Text} (h : looksLikeIpv4 host = true) :
    ∀ c ∈ host, Text.IsVisible c := by
  simp only [looksLikeIpv4, Bool.and_eq_true, List.all_eq_true] at h
  intro c hc
  by_cases hpoint : c = '.'
  · subst hpoint
    decide
  · obtain ⟨number, hnumber, hmem⟩ := Text.exists_mem_splitOn hc hpoint
    have hdigit := (h.2 number hnumber).2 c hmem
    simp only [Host.isAsciiDigit, Bool.and_eq_true, decide_eq_true_eq, Char.le_def] at hdigit
    have hleast : '0'.toNat ≤ c.toNat := hdigit.1
    have hmost : c.toNat ≤ '9'.toNat := hdigit.2
    exact ⟨le_trans (by decide) hleast, hmost.trans (by decide)⟩

/-- A host is normal if it is visible ASCII or an address in brackets, less these. -/
theorem normalHost_cases {host normal : Text} (hhost : ∀ c ∈ host, Text.IsPrintable c)
    (h : normalHost host = .ok normal) :
    (∀ c ∈ normal, Text.IsVisible c) ∨ (Host.isIpv6 normal = true ∧ normal ⊆ host) := by
  unfold normalHost at h
  split at h
  next =>
    cases h
    simp
  split at h
  next hlooks =>
    split at h
    · cases h
      exact Or.inl (isVisible_of_looksLikeIpv4 hlooks)
    · cases h
  split at h
  next =>
    dsimp only at h
    split at h
    next haddress =>
      cases h
      exact Or.inr ⟨haddress, fun c hc => List.mem_of_mem_tail (List.mem_of_mem_dropLast hc)⟩
    next => cases h
  split at h
  next =>
    cases h
    exact Or.inl (Percent.forall_mem_encode (fun _ => isVisible_of_hostSafe) (by decide)
      (by decide) _)
  next =>
    split at h
    next ascii hascii =>
      cases h
      exact Or.inl (Host.isVisible_of_mem_ascii hascii (Text.isPrintable_of_mem_lower hhost))
    next => cases h

variable {s : Text} {url : Url}

theorem host_cases (h : parse s = .ok url) :
    (∀ c ∈ url.host, Text.IsVisible c) ∨
      (Host.isIpv6 url.host = true ∧ ∀ c ∈ url.host, c ∈ s ∨ c = ']') := by
  unfold parse at h
  split at h
  next => cases h
  split at h
  next => cases h
  next hprintable =>
    have hs := forall_isPrintable hprintable
    obtain ⟨host, hhost, h⟩ := ok_of_bind h
    obtain ⟨port, -, h⟩ := ok_of_bind h
    obtain ⟨path, -, h⟩ := ok_of_bind h
    cases h
    have hmem : ∀ c ∈ (AuthorityParts.ofText (Parts.ofText s).authority).host, c ∈ s ∨ c = ']' :=
      fun c hc => (AuthorityParts.mem_host hc).imp_left fun hc => Parts.authority_subset s hc
    have hparts : ∀ c ∈ (AuthorityParts.ofText (Parts.ofText s).authority).host,
        Text.IsPrintable c := by
      intro c hc
      rcases hmem c hc with hc | rfl
      · exact hs c hc
      · decide
    exact (normalHost_cases hparts hhost).imp_right fun h => ⟨h.1, fun c hc => hmem c (h.2 hc)⟩

theorem isVisible_of_mem_host (h : parse s = .ok url) (hcolon : ':' ∉ url.host) :
    ∀ c ∈ url.host, Text.IsVisible c :=
  (host_cases h).resolve_right fun haddress => hcolon (Host.colon_mem_of_isIpv6 haddress.1)

theorem exists_netloc_eq (url : Url) :
    ∃ port : Text, (∀ c ∈ port, Text.IsVisible c) ∧ url.netloc = url.writtenHost ++ port := by
  unfold netloc
  cases url.port with
  | none => exact ⟨[], by simp, rfl⟩
  | some port =>
      refine ⟨':' :: Text.ofInt port, ?_, rfl⟩
      rw [List.forall_mem_cons]
      exact ⟨by decide, isVisible_of_mem_ofInt port⟩

/-- A host with a colon stands in brackets, and all others are visible. -/
theorem netloc_trim (h : parse s = .ok url) : url.netloc.trim = url.netloc := by
  obtain ⟨port, hport, hnetloc⟩ := url.exists_netloc_eq
  rw [hnetloc, writtenHost]
  by_cases hcolon : ':' ∈ url.host
  · have hblank : Text.isBlank '[' = false ∧ Text.isBlank ']' = false := by decide
    have hend : Text.trimRight Text.isBlank port = port := by
      have hall := Text.trimRight_append (fun c hc => (hport c hc).not_isBlank) []
      simpa [Text.trimRight] using hall
    have hbracketed : '[' :: url.host ++ [']'] ++ port = '[' :: url.host ++ ']' :: port := by simp
    rw [if_pos (List.elem_iff.mpr hcolon), hbracketed, Text.trim, Text.trimOf, Text.trimLeft,
      List.cons_append, List.dropWhile_cons_of_neg (by simp [hblank.1]), ← List.cons_append,
      Text.trimRight_append_cons _ hblank.2, hend]
  · apply Text.trim_of_visible
    rw [if_neg (by simpa using hcolon), List.forall_mem_append]
    exact ⟨isVisible_of_mem_host h hcolon, hport⟩

end Url

end HttpFetch
