import HttpFetch.Proofs.Number.Hexadecimal
import HttpFetch.Proofs.Text.Printable
import HttpFetch.Url.Join

/-!
# How URLs are spelled

A text with a control character is no URL.  In what is read of the others the path and the query are
escaped, so that their characters are visible ones.  The host is not always escaped: an address
keeps its scope as it is, and a name is mapped to lower case and written label by label.  Neither
brings in a control character, so a URL has none where a request line or a `Host` field quotes it
(`Url.redirect_spelled`).
-/

namespace HttpFetch

/-! ## Names of hosts -/

namespace Host

theorem exists_of_mem_mapM {α β : Type} {f : α → Option β} {inputs : List α} {outputs : List β}
    (h : inputs.mapM f = some outputs) {b : β} (hb : b ∈ outputs) : ∃ a ∈ inputs, f a = some b := by
  induction inputs generalizing outputs with
  | nil =>
      cases h
      cases hb
  | cons a inputs ih =>
      rw [List.mapM_cons] at h
      obtain ⟨first, hfirst, h⟩ := Option.bind_eq_some_iff.mp h
      obtain ⟨rest, hrest, h⟩ := Option.bind_eq_some_iff.mp h
      cases h
      rcases List.mem_cons.mp hb with rfl | hb
      · exact ⟨a, List.mem_cons_self, hfirst⟩
      · obtain ⟨a', ha', hfa'⟩ := ih hrest hb
        exact ⟨a', List.mem_cons_of_mem a ha', hfa'⟩

theorem mem_asciiLabel {label ascii : Text} (h : asciiLabel? label = some ascii) {c : Char}
    (hc : c ∈ ascii) : c ∈ label ∨ Text.IsVisible c := by
  unfold asciiLabel? at h
  obtain ⟨h, -⟩ := Option.filter_eq_some_iff.mp h
  split at h
  · split at h
    · cases h
      exact Or.inl hc
    · cases h
  · split at h
    · cases h
      rcases List.mem_append.mp hc with hc | hc
      · have hmark : ∀ c ∈ writtenMark, Text.IsVisible c := Text.forall_mem_of_all (by decide)
        exact Or.inr (hmark c hc)
      · exact (Punycode.mem_encode hc).imp_left And.left
    · cases h

theorem subset_of_mem_labels {name label : Text} (h : label ∈ (labels name).1) : label ⊆ name := by
  unfold labels at h
  dsimp only at h
  split at h
  · exact Text.subset_of_mem_splitOn (List.mem_of_mem_dropLast h)
  · exact Text.subset_of_mem_splitOn h

/-- The ASCII form of a name holds points and what is in the ASCII forms of its labels. -/
theorem exists_label_of_mem_ascii {name ascii : Text} (h : ascii? name = some ascii) {c : Char}
    (hc : c ∈ ascii) :
    c = '.' ∨
      ∃ label written : Text, label ⊆ name ∧ asciiLabel? label = some written ∧ c ∈ written := by
  unfold ascii? at h
  split at h
  next => cases h
  next =>
    obtain ⟨written, hwritten, h⟩ := Option.bind_eq_some_iff.mp h
    obtain ⟨-, h⟩ := Option.ite_none_right_eq_some.mp h
    cases h
    rcases Text.mem_intercalate hc with hc | ⟨piece, hpiece, hc⟩
    · exact Or.inl (List.mem_singleton.mp hc)
    · have hmem : piece ∈ written := by
        split at hpiece
        · rcases List.mem_append.mp hpiece with hpiece | hpiece
          · exact hpiece
          · cases List.mem_singleton.mp hpiece
            cases hc
        · exact hpiece
      obtain ⟨label, hlabel, hascii⟩ := exists_of_mem_mapM hwritten hmem
      exact Or.inr ⟨label, piece, subset_of_mem_labels hlabel, hascii, hc⟩

theorem mem_ascii {name ascii : Text} (h : ascii? name = some ascii) {c : Char} (hc : c ∈ ascii) :
    c ∈ name ∨ Text.IsVisible c := by
  rcases exists_label_of_mem_ascii h hc with rfl | ⟨label, written, hlabel, hwritten, hc⟩
  · exact Or.inr (by decide)
  · exact (mem_asciiLabel hwritten hc).imp_left fun hc => hlabel hc

end Host

namespace Url

/-! ## Parts of a text -/

theorem Parts.authority_subset (s : Text) : (ofText s).authority ⊆ s := by
  have hcut : (cutScheme s).2 ⊆ s := by
    unfold cutScheme
    split
    next => exact List.Subset.refl s
    next heq =>
      split
      · exact Text.snd_cut_subset (congrArg Prod.snd heq)
      · exact List.Subset.refl s
  unfold ofText
  generalize cutScheme s = parts at hcut
  obtain ⟨scheme, rest⟩ := parts
  dsimp only at hcut ⊢
  split
  next rest =>
    intro c hc
    have hrest : c ∈ rest := List.takeWhile_subset _ hc
    exact hcut (List.mem_cons_of_mem _ (List.mem_cons_of_mem _ hrest))
  next => exact List.nil_subset s

theorem AuthorityParts.mem_host {s : Text} {c : Char} (hc : c ∈ (ofText s).host) :
    c ∈ s ∨ c = ']' := by
  have hrest : ((Text.cutLast '@' s).getD ([], s)).2 ⊆ s := by
    cases hcut : Text.cutLast '@' s with
    | none => exact List.Subset.refl s
    | some parts => exact (Text.cutLast_subset hcut).2
  unfold ofText at hc
  generalize (Text.cutLast '@' s).getD ([], s) = parts at hc hrest
  obtain ⟨userinfo, rest⟩ := parts
  dsimp only at hc hrest
  split at hc
  all_goals
    dsimp only at hc
    split at hc
    next hbracket =>
      rcases List.mem_append.mp hc with hc | hc
      · exact Or.inl (hrest ((Text.cutLast_subset hbracket).1 hc))
      · exact Or.inr (List.mem_singleton.mp hc)
    next => exact Or.inl (hrest (List.takeWhile_subset _ hc))

theorem forall_isPrintable {s : Text} (h : unprintable? s = none) :
    ∀ c ∈ s, Text.IsPrintable c := by
  unfold unprintable? at h
  dsimp only at h
  split at h
  next heq =>
    intro c hc
    have hcontrol := List.dropWhile_eq_nil_iff.mp heq c hc
    simp only [Bool.not_eq_true', Bool.or_eq_false_iff, decide_eq_false_iff_not] at hcontrol
    exact ⟨by omega, hcontrol.2⟩
  next => cases h

/-! ## Parts in normal form -/

theorem isVisible_of_isSafeIn {unsafeChars : String} {c : Char}
    (hspace : ' ' ∈ unsafeChars.toList) (h : isSafeIn unsafeChars c = true) : Text.IsVisible c := by
  simp only [isSafeIn, Bool.and_eq_true, decide_eq_true_eq, Bool.not_eq_true'] at h
  obtain ⟨⟨hleast, hmost⟩, hsafe⟩ := h
  have hne : c.toNat ≠ 0x20 := by
    intro heq
    have hc : c = ' ' := Char.toNat_inj.mp heq
    rw [hc, List.elem_eq_mem] at hsafe
    exact absurd hspace (of_decide_eq_false hsafe)
  unfold Text.IsVisible
  omega

theorem isVisible_of_mem_encode {unsafeChars : String} (hspace : ' ' ∈ unsafeChars.toList)
    (s : Text) : ∀ c ∈ Percent.encode (isSafeIn unsafeChars) s, Text.IsVisible c :=
  Percent.forall_mem_encode (fun _ => isVisible_of_isSafeIn hspace) (by decide) (by decide) s

theorem isVisible_of_hostSafe {c : Char} (h : hostSafe c = true) : Text.IsVisible c := by
  have hsigns : ∀ c ∈ "-._~".toList ++ "!$&'()*+,;=\"`\x7b\x7d%|\\".toList,
      Text.IsVisible c := Text.forall_mem_of_all (by decide)
  rw [hostSafe, isUnreserved, Bool.or_eq_true, Bool.or_eq_true, Bool.and_eq_true,
    decide_eq_true_eq] at h
  rcases h with (⟨hascii, h⟩ | h) | h
  · exact forall_ascii (P := fun c => c.isAlphanum = true → Text.IsVisible c) (by decide) hascii h
  · exact hsigns c (List.mem_append_left _ (List.elem_iff.mp h))
  · exact hsigns c (List.mem_append_right _ (List.elem_iff.mp h))

theorem isPrintable_of_mem_normalHost {host normal : Text} (hhost : ∀ c ∈ host, Text.IsPrintable c)
    (h : normalHost host = .ok normal) : ∀ c ∈ normal, Text.IsPrintable c := by
  unfold normalHost at h
  split at h
  next =>
    cases h
    exact fun c hc => absurd hc List.not_mem_nil
  split at h
  next =>
    split at h
    · cases h
      exact hhost
    · cases h
  split at h
  next =>
    dsimp only at h
    split at h
    · cases h
      exact fun c hc => hhost c (List.mem_of_mem_tail (List.mem_of_mem_dropLast hc))
    · cases h
  split at h
  next =>
    cases h
    exact fun c hc => (Percent.forall_mem_encode (fun _ => isVisible_of_hostSafe) (by decide)
      (by decide) _ c hc).isPrintable
  next =>
    split at h
    next ascii hascii =>
      cases h
      intro c hc
      rcases Host.mem_ascii hascii hc with hc | hc
      · exact Text.isPrintable_of_mem_lower hhost c hc
      · exact hc.isPrintable
    next => cases h

theorem isVisible_of_mem_ofInt (n : Int) : ∀ c ∈ Text.ofInt n, Text.IsVisible c := by
  have hdigits : ∀ n, ∀ c ∈ Text.ofNat n, Text.IsVisible c := fun n =>
    (Text.ofNatBase_over (by decide) n).forall_mem (by decide)
  cases n with
  | ofNat n => exact hdigits n
  | negSucc n => exact List.forall_mem_cons.mpr ⟨by decide, hdigits (n + 1)⟩

theorem isVisible_of_normalPath {path normal : Text} {hasScheme hasAuthority : Bool}
    (h : normalPath path hasScheme hasAuthority = .ok normal) : ∀ c ∈ normal, Text.IsVisible c := by
  unfold normalPath at h
  split_ifs at h
  all_goals
    cases h
    exact isVisible_of_mem_encode (by decide) _

/-- What the characters of a URL are that a text denotes. -/
structure Spelled (url : Url) : Prop where
  host : ∀ c ∈ url.host, Text.IsPrintable c
  path : ∀ c ∈ url.path, Text.IsVisible c
  query : ∀ query, url.query = some query → ∀ c ∈ query, Text.IsVisible c

theorem parse_spelled {s : Text} {url : Url} (h : parse s = .ok url) : Spelled url := by
  unfold parse at h
  split at h
  next => cases h
  split at h
  next => cases h
  next hprintable =>
    have hs := forall_isPrintable hprintable
    obtain ⟨host, hhost, h⟩ := ok_of_bind h
    obtain ⟨port, -, h⟩ := ok_of_bind h
    obtain ⟨path, hpath, h⟩ := ok_of_bind h
    cases h
    refine ⟨isPrintable_of_mem_normalHost ?_ hhost, isVisible_of_normalPath hpath, ?_⟩
    · intro c hc
      rcases AuthorityParts.mem_host hc with hc | rfl
      · exact hs c (Parts.authority_subset s hc)
      · decide
    · intro query hquery
      obtain ⟨written, -, rfl⟩ := Option.map_eq_some_iff.mp hquery
      exact isVisible_of_mem_encode (by decide) written

/-- A redirect leads to what is read of the joined text. -/
theorem redirect_ok {base url : Url} {location : Text} (h : redirect base location = .ok url) :
    ∃ reference joined, parse location = .ok reference ∧
      joinText? base.text reference.text = some joined ∧ parse joined = .ok url := by
  unfold redirect join? at h
  cases hreference : parse location with
  | error defect => simp [hreference] at h
  | ok reference =>
      cases hjoined : joinText? base.text reference.text with
      | none => simp [hreference, hjoined] at h
      | some joined =>
          refine ⟨reference, joined, rfl, hjoined, ?_⟩
          cases hparse : parse joined with
          | error defect => simp [hreference, hjoined, hparse, Except.toOption] at h
          | ok next => simpa [hreference, hjoined, hparse, Except.toOption] using h

theorem redirect_spelled {base url : Url} {location : Text} (h : redirect base location = .ok url) :
    Spelled url := by
  obtain ⟨reference, joined, -, -, hparse⟩ := redirect_ok h
  exact parse_spelled hparse

/-! ## What requests quote -/

variable {url : Url}

theorem target_ne_nil (url : Url) : url.target ≠ [] := by
  have hpath : url.writtenPath ≠ [] := by
    unfold writtenPath
    split
    next => exact List.cons_ne_nil _ _
    next hne => simpa using hne
  exact List.append_ne_nil_of_left_ne_nil hpath _

theorem Spelled.isVisible_of_mem_target (h : Spelled url) : ∀ c ∈ url.target, Text.IsVisible c := by
  unfold target
  rw [List.forall_mem_append]
  constructor
  · unfold writtenPath
    split
    · exact Text.forall_mem_of_all (by decide)
    · exact h.path
  · cases hquery : url.query with
    | none => exact fun c hc => absurd hc List.not_mem_nil
    | some query => exact List.forall_mem_cons.mpr ⟨by decide, h.query query hquery⟩

theorem Spelled.isPrintable_of_mem_netloc (h : Spelled url) :
    ∀ c ∈ url.netloc, Text.IsPrintable c := by
  unfold netloc
  rw [List.forall_mem_append]
  constructor
  · unfold writtenHost
    split
    · rw [List.forall_mem_append, List.forall_mem_cons]
      exact ⟨⟨by decide, h.host⟩, Text.forall_mem_of_all (by decide)⟩
    · exact h.host
  · split
    · exact fun c hc => absurd hc List.not_mem_nil
    · rw [List.forall_mem_cons]
      exact ⟨by decide, fun c hc => (isVisible_of_mem_ofInt _ c hc).isPrintable⟩

end Url

end HttpFetch
