import HttpFetch.Proofs.Cookie.Spelling
import HttpFetch.Proofs.Text.Pieces
import HttpFetch.Text.Punycode

/-!
# Texts without control characters

Lower case makes no control character of another one, and a written label holds characters of the
label, hyphens and digits.  So a text that has no control character keeps it that way on its way
into a host name.
-/

namespace HttpFetch

namespace Text

/-- No control character of ASCII. -/
def IsPrintable (c : Char) : Prop := 0x20 ≤ c.toNat ∧ c.toNat ≠ 0x7f

instance (c : Char) : Decidable (IsPrintable c) := inferInstanceAs (Decidable (_ ∧ _))

theorem IsVisible.isPrintable {c : Char} (h : IsVisible c) : IsPrintable c := by
  unfold IsVisible at h
  unfold IsPrintable
  omega

/-! ## Lower case -/

variable {s : Text}

theorem isPrintable_ofNat {n : Nat} (hvalid : n.isValidChar) (hleast : 0x20 ≤ n) (hne : n ≠ 0x7f) :
    IsPrintable (Char.ofNat n) := by
  rw [Char.ofNat, dif_pos hvalid]
  exact ⟨hleast, hne⟩

/-- A shifted run has images in one of three ranges, between the control characters and the
surrogates. -/
def IsPrintableShift (row : Run × Nat) : Prop :=
  let last := row.2 + (row.1.last - row.1.first)
  (0x20 ≤ row.2 ∧ last < 0x7f) ∨ (0x7f < row.2 ∧ last < 0xd800) ∨
    (0xdfff < row.2 ∧ last < 0x110000)

instance (row : Run × Nat) : Decidable (IsPrintableShift row) :=
  inferInstanceAs (Decidable (_ ∨ _))

theorem isPrintable_of_shift {row : Run × Nat} (hrow : IsPrintableShift row) {n : Nat}
    (hn : row.1.contains n = true) : IsPrintable (Char.ofNat (row.2 + (n - row.1.first))) := by
  have hlast : n ≤ row.1.last := by
    simp only [Run.contains, Bool.and_eq_true, decide_eq_true_eq] at hn
    exact hn.1.2
  unfold IsPrintableShift at hrow
  dsimp only at hrow
  apply isPrintable_ofNat
  · unfold Nat.isValidChar
    omega
  · omega
  · omega

theorem CharMap.isPrintable_of_find {map : CharMap}
    (hshifts : ∀ row ∈ map.shifts, IsPrintableShift row)
    (hexpansions : ∀ row ∈ map.expansions, ∀ c ∈ row.2, IsPrintable c) {c : Char} {image : Text}
    (h : map.find? c = some image) : ∀ d ∈ image, IsPrintable d := by
  unfold CharMap.find? at h
  split at h
  next run first hrun =>
    cases h
    simp only [List.mem_singleton, forall_eq]
    have hcontains := List.find?_some hrun
    exact isPrintable_of_shift (hshifts _ (List.mem_of_find?_eq_some hrun)) hcontains
  next =>
    obtain ⟨row, hrow, rfl⟩ := Option.map_eq_some_iff.mp h
    exact hexpansions row (List.mem_of_find?_eq_some hrow)

theorem isPrintable_of_find_lowerMap {c : Char} {image : Text} (h : lowerMap.find? c = some image) :
    ∀ d ∈ image, IsPrintable d := by
  have hshifts : lowerMap.shifts.all (IsPrintableShift ·) = true := by decide +kernel
  have hexpansions : lowerMap.expansions.all (·.2.all (IsPrintable ·)) = true := by decide +kernel
  simp only [List.all_eq_true, decide_eq_true_eq] at hshifts hexpansions
  exact CharMap.isPrintable_of_find hshifts hexpansions h

theorem isPrintable_of_mem_lowerChar {c : Char} (h : IsPrintable c) :
    ∀ d ∈ lowerChar c, IsPrintable d := by
  unfold lowerChar
  split
  next hascii =>
    simp only [List.mem_singleton, forall_eq]
    exact forall_ascii (P := fun c => IsPrintable c → IsPrintable c.toLower) (by decide) hascii h
  next =>
    cases hfound : lowerMap.find? c with
    | none => simpa using h
    | some image => exact isPrintable_of_find_lowerMap hfound

theorem isPrintable_of_mem_lowerAfter (hs : ∀ c ∈ s, IsPrintable c) (before : Text) :
    ∀ piece ∈ lowerAfter before s, ∀ d ∈ piece, IsPrintable d := by
  induction s generalizing before with
  | nil => exact fun piece hpiece => absurd hpiece List.not_mem_nil
  | cons c s ih =>
      rw [List.forall_mem_cons] at hs
      rw [lowerAfter, List.forall_mem_cons]
      refine ⟨?_, ih hs.2 (c :: before)⟩
      split
      next =>
        simp only [List.mem_singleton, forall_eq]
        split <;> decide
      next => exact isPrintable_of_mem_lowerChar hs.1

theorem isPrintable_of_mem_lower (hs : ∀ c ∈ s, IsPrintable c) : ∀ d ∈ s.lower, IsPrintable d := by
  intro d hd
  unfold lower at hd
  split at hd
  next =>
    obtain ⟨piece, hpiece, hd⟩ := List.mem_flatten.mp hd
    exact isPrintable_of_mem_lowerAfter hs [] piece hpiece d hd
  next =>
    obtain ⟨c, hc, hd⟩ := List.mem_flatMap.mp hd
    exact isPrintable_of_mem_lowerChar (hs c hc) d hd

end Text

/-! ## Written labels -/

namespace Punycode

theorem isVisible_digit {n : Nat} (h : n < 36) : Text.IsVisible (digit n) := by
  have hall : ∀ n < 36, Text.IsVisible (digit n) := by decide
  exact hall n h

theorem isVisible_of_mem_digits (bias k n : Nat) : ∀ c ∈ digits bias k n, Text.IsVisible c := by
  fun_induction digits bias k n with
  | case1 k n t hlast =>
      have hbounds := threshold_bounds bias k
      simp only [List.mem_singleton, forall_eq]
      exact isVisible_digit (by omega)
  | case2 k n t hmore ih =>
      have hbounds := threshold_bounds bias k
      have hrest : (n - t) % (36 - t) < 36 - t := Nat.mod_lt _ (by omega)
      rw [List.forall_mem_cons]
      exact ⟨isVisible_digit (by omega), ih⟩

namespace Writing

theorem isVisible_of_mem_scan {point : Nat} {state : Writing} {c : Char}
    (h : ∀ d ∈ state.written, Text.IsVisible d) :
    ∀ d ∈ (state.scan point c).written, Text.IsVisible d := by
  unfold scan
  split_ifs
  · exact h
  · rw [List.forall_mem_append]
    exact ⟨h, isVisible_of_mem_digits _ _ _⟩
  · exact h

theorem isVisible_of_mem_insert {label : Text} {state : Writing × Nat} {point : Nat}
    (h : ∀ d ∈ state.1.written, Text.IsVisible d) :
    ∀ d ∈ (insert label state point).1.written, Text.IsVisible d := by
  have hscan : ∀ (label : Text) (state : Writing), (∀ d ∈ state.written, Text.IsVisible d) →
      ∀ d ∈ (label.foldl (scan point) state).written, Text.IsVisible d := by
    intro label
    induction label with
    | nil => exact fun _ h => h
    | cons c label ih => exact fun state h => ih _ (isVisible_of_mem_scan h)
  exact hscan label _ h

theorem isVisible_of_mem_foldl {label : Text} (points : List Nat) {state : Writing × Nat}
    (h : ∀ d ∈ state.1.written, Text.IsVisible d) :
    ∀ d ∈ (points.foldl (insert label) state).1.written, Text.IsVisible d := by
  induction points generalizing state with
  | nil => exact h
  | cons point points ih => exact ih (isVisible_of_mem_insert h)

end Writing

/-- A written label holds the ASCII characters of the label, hyphens and digits. -/
theorem mem_encode {label : Text} {c : Char} (h : c ∈ encode label) :
    (c ∈ label ∧ c.toNat < 128) ∨ Text.IsVisible c := by
  unfold encode at h
  rcases List.mem_append.mp h with h | h
  · rcases List.mem_append.mp h with h | h
    · rw [List.mem_filter, decide_eq_true_eq] at h
      exact Or.inl h
    · split at h
      · cases h
      · cases List.mem_singleton.mp h
        exact Or.inr (by decide)
  · exact Or.inr (Writing.isVisible_of_mem_foldl _ (by simp) c h)

end Punycode

end HttpFetch
