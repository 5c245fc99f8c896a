import HttpFetch.Proofs.Number.Alphabet

/-!
# Pieces of a text

A text is split as the library splits lists, so that what holds there of splitting and joining holds
of texts.  Whatever a text is cut into is a part of it.
-/

namespace HttpFetch.Text

variable {s : Text}

/-! ## One cut -/

theorem fst_cut_subset (sep : Char) (s : Text) : (cut sep s).1 ⊆ s := List.takeWhile_subset _

theorem snd_cut_subset {sep : Char} {rest : Text} (h : (cut sep s).2 = some rest) : rest ⊆ s := by
  rcases cut_cases sep s with ⟨-, hcut⟩ | ⟨first, after, -, rfl, hcut⟩
  · rw [hcut] at h
    cases h
  · rw [hcut] at h
    cases h
    intro c hc
    exact List.mem_append_right first (List.mem_cons_of_mem sep hc)

theorem cutLast_eq {sep : Char} {before after : Text} (h : cutLast sep s = some (before, after)) :
    s = before ++ sep :: after := by
  have hreverse := cut_cases sep s.reverse
  unfold cutLast at h
  rcases hreverse with ⟨-, hcut⟩ | ⟨first, rest, -, hs, hcut⟩
  · simp [hcut] at h
  · simp only [hcut, Option.some.injEq, Prod.mk.injEq] at h
    rw [← List.reverse_reverse s, hs]
    simp [← h.1, ← h.2]

theorem cutLast_subset {sep : Char} {before after : Text}
    (h : cutLast sep s = some (before, after)) : before ⊆ s ∧ after ⊆ s := by
  rw [cutLast_eq h]
  exact ⟨List.subset_append_left before _,
    List.subset_append_of_subset_right before (List.subset_cons_self sep after)⟩

/-! ## Splitting -/

theorem splitOn_eq_splitOnP (sep : Char → Bool) (s : Text) : splitOn sep s = s.splitOnP sep := by
  induction s with
  | nil => rfl
  | cons c s ih =>
      rw [List.splitOnP_cons_eq_if_modifyHead, ← ih]
      unfold splitOn
      rw [List.foldr_cons]
      generalize s.foldr _ ([], []) = pieces
      obtain ⟨piece, pieces⟩ := pieces
      by_cases h : sep c = true
      · simp [h]
      · simp [h]

theorem splitOn_eq_splitOn (sep : Char) (s : Text) : splitOn (· == sep) s = List.splitOn sep s :=
  splitOn_eq_splitOnP _ s

theorem subset_of_mem_splitOn {sep : Char → Bool} {piece : Text} (h : piece ∈ splitOn sep s) :
    piece ⊆ s := by
  rw [splitOn_eq_splitOnP] at h
  induction s generalizing piece with
  | nil =>
      cases List.mem_singleton.mp h
      exact List.nil_subset _
  | cons c s ih =>
      rw [List.splitOnP_cons_eq_if_modifyHead] at h
      split at h
      · rcases List.mem_cons.mp h with rfl | h
        · exact List.nil_subset _
        · exact List.subset_cons_of_subset c (ih h)
      · obtain ⟨first, rest, hsplit⟩ := List.exists_cons_of_ne_nil (List.splitOnP_ne_nil sep s)
        rw [hsplit] at h ih
        rcases List.mem_cons.mp h with rfl | h
        · exact List.cons_subset_cons c (ih List.mem_cons_self)
        · exact List.subset_cons_of_subset c (ih (List.mem_cons_of_mem first h))

theorem intercalate_splitOn (sep : Char) (s : Text) :
    [sep].intercalate (splitOn (· == sep) s) = s := by
  rw [splitOn_eq_splitOn, List.intercalate_splitOn]

theorem exists_mem_splitOn {sep c : Char} (hc : c ∈ s) (hne : c ≠ sep) :
    ∃ piece ∈ splitOn (· == sep) s, c ∈ piece := by
  rw [← intercalate_splitOn sep s] at hc
  exact (mem_intercalate hc).resolve_left (by simpa using hne)

theorem infix_intercalate {sep piece : Text} {pieces : List Text} (h : piece ∈ pieces) :
    piece <:+: sep.intercalate pieces := by
  induction pieces with
  | nil => cases h
  | cons first rest ih =>
      rw [intercalate_cons]
      rcases List.mem_cons.mp h with rfl | h
      · exact ⟨[], _, rfl⟩
      · obtain ⟨before, after, rfl⟩ := List.append_of_mem h
        rw [List.flatMap_append, List.flatMap_cons]
        exact ⟨first ++ before.flatMap (sep ++ ·) ++ sep, after.flatMap (sep ++ ·), by simp⟩

theorem infix_of_mem_splitOn {sep : Char} {piece : Text} (h : piece ∈ splitOn (· == sep) s) :
    piece <:+: s := by
  have hwithin : piece <:+: [sep].intercalate (splitOn (· == sep) s) := infix_intercalate h
  rwa [intercalate_splitOn] at hwithin

end HttpFetch.Text
