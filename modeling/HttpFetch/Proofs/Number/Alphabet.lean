import HttpFetch.Chunked
import Mathlib.Data.List.DropRight
import Mathlib.Data.List.TakeWhile
import Mathlib.Tactic

/-!
# Numbers as texts over an alphabet

The digits of a message are ASCII: none of them is a blank, a sign, an underscore or a separator.
So reading a number takes all of its digits and nothing else.  What is true of each character of an
alphabet is true of every text over it, which is why facts about digits are decided once.
-/

namespace HttpFetch

namespace Text

def decimalDigits : Text := "0123456789".toList

def hexDigits : Text := "0123456789abcdefABCDEF".toList

def Over (s alphabet : Text) : Prop := ∀ c ∈ s, c ∈ alphabet

instance (s alphabet : Text) : Decidable (s.Over alphabet) :=
  List.decidableBAll (· ∈ alphabet) s

/-- What is true of the characters of a text; to check it they are gone through one by one. -/
theorem forall_mem_of_all {s : Text} {P : Char → Prop} [DecidablePred P]
    (h : s.all (P ·) = true) : ∀ c ∈ s, P c :=
  fun c hc => of_decide_eq_true (List.all_eq_true.mp h c hc)

namespace Over

variable {s alphabet : Text}

/-- What is true of the characters of an alphabet. -/
theorem forall_mem (h : s.Over alphabet) {P : Char → Prop} [DecidablePred P]
    (hP : alphabet.all (P ·) = true) : ∀ c ∈ s, P c :=
  fun c hc => forall_mem_of_all hP c (h c hc)

theorem notMem (h : s.Over alphabet) {c : Char} (hc : c ∉ alphabet) : c ∉ s :=
  fun hmem => hc (h c hmem)

end Over

/-! ## Trimming and cutting -/

theorem trimLeft_append {drop : Char → Bool} {s : Text} (hs : ∀ c ∈ s, drop c = false)
    (hne : s ≠ []) (rest : Text) : trimLeft drop (s ++ rest) = s ++ rest := by
  cases s with
  | nil => exact absurd rfl hne
  | cons c s => exact List.dropWhile_cons_of_neg (by simp [hs c List.mem_cons_self])

theorem trimRight_append_cons {drop : Char → Bool} (s : Text) {c : Char} (hc : drop c = false)
    (rest : Text) : trimRight drop (s ++ c :: rest) = s ++ c :: trimRight drop rest := by
  rw [trimRight, trimRight, List.reverse_append, List.reverse_cons, List.append_assoc,
    List.dropWhile_append]
  split
  next hempty =>
    have hnil := List.isEmpty_iff.mp hempty
    simp [hc, hnil]
  next => simp

theorem trimRight_append {drop : Char → Bool} {s : Text} (hs : ∀ c ∈ s, drop c = false)
    (rest : Text) : trimRight drop (s ++ rest) = s ++ trimRight drop rest := by
  rcases List.eq_nil_or_concat s with rfl | ⟨s, c, rfl⟩
  · rfl
  · have hc : drop c = false := hs c (by simp)
    simpa using trimRight_append_cons s hc rest

theorem trimRight_of_all {drop : Char → Bool} {s : Text} (hs : ∀ c ∈ s, drop c = true) :
    trimRight drop s = [] := by
  have hall : ∀ c ∈ s.reverse, drop c = true := fun c hc => hs c (List.mem_reverse.mp hc)
  rw [trimRight, List.dropWhile_eq_nil_iff.mpr hall]
  rfl

theorem trimOf_append {drop : Char → Bool} {s : Text} (hs : ∀ c ∈ s, drop c = false)
    (hne : s ≠ []) {blanks : Text} (hblanks : ∀ c ∈ blanks, drop c = true) :
    trimOf drop (s ++ blanks) = s := by
  rw [trimOf, trimLeft_append hs hne, trimRight_append hs, trimRight_of_all hblanks,
    List.append_nil]

theorem trimOf_of_none {drop : Char → Bool} {s : Text} (hs : ∀ c ∈ s, drop c = false)
    (hne : s ≠ []) : trimOf drop s = s := by
  have h := trimOf_append hs hne (fun c hc => absurd hc List.not_mem_nil)
  rwa [List.append_nil] at h

theorem cut_of_notMem {sep : Char} {s : Text} (h : sep ∉ s) : cut sep s = (s, none) := by
  have hall : ∀ c ∈ s, (c != sep) = true := by
    intro c hc
    rw [bne_iff_ne]
    rintro rfl
    exact h hc
  unfold cut
  rw [List.takeWhile_eq_self_iff.mpr hall, List.dropWhile_eq_nil_iff.mpr hall]
  rfl

theorem cut_append_cons {sep : Char} {s : Text} (h : sep ∉ s) (rest : Text) :
    cut sep (s ++ sep :: rest) = (s, some rest) := by
  have hall : ∀ c ∈ s, (c != sep) = true := by
    intro c hc
    rw [bne_iff_ne]
    rintro rfl
    exact h hc
  unfold cut
  rw [List.takeWhile_append_of_pos hall, List.dropWhile_append_of_pos hall]
  simp

/-- A text has no separator and is not cut, or it is cut at its first one. -/
theorem cut_cases (sep : Char) (s : Text) :
    (sep ∉ s ∧ cut sep s = (s, none)) ∨
      ∃ first rest, sep ∉ first ∧ s = first ++ sep :: rest ∧ cut sep s = (first, some rest) := by
  by_cases h : sep ∈ s
  · obtain ⟨first, rest, rfl, hfirst⟩ := List.eq_append_cons_of_mem h
    exact Or.inr ⟨first, rest, hfirst, rfl, cut_append_cons hfirst rest⟩
  · exact Or.inl ⟨h, cut_of_notMem h⟩

/-- Blanks at the front of a text are trimmed. -/
theorem trimOf_append_left {drop : Char → Bool} {blanks : Text}
    (hblanks : ∀ c ∈ blanks, drop c = true) (s : Text) :
    trimOf drop (blanks ++ s) = trimOf drop s := by
  rw [trimOf, trimOf, trimLeft, List.dropWhile_append_of_pos hblanks]
  rfl

/-- A text that trimming does not change has nothing to trim at either end. -/
theorem sides_of_trimOf {drop : Char → Bool} {s : Text} (h : trimOf drop s = s) :
    trimLeft drop s = s ∧ trimRight drop s = s := by
  have hsuffix : trimLeft drop s <:+ s := List.dropWhile_suffix drop
  have hprefix : trimOf drop s <+: trimLeft drop s := List.rdropWhile_prefix drop (trimLeft drop s)
  have hlength := hprefix.length_le
  rw [h] at hlength
  have hleft : trimLeft drop s = s := hsuffix.eq_of_length_le hlength
  refine ⟨hleft, ?_⟩
  rw [trimOf, hleft] at h
  exact h

theorem trimRight_eq_self_iff {drop : Char → Bool} {s : Text} :
    trimRight drop s = s ↔ ∀ c ∈ s.getLast?, drop c = false := by
  have hself : trimRight drop s = s ↔ ∀ hne : s ≠ [], ¬ drop (s.getLast hne) = true :=
    List.rdropWhile_eq_self_iff
  rw [hself]
  rcases List.eq_nil_or_concat s with rfl | ⟨s, c, rfl⟩
  · simp
  · simp

theorem intercalate_cons (sep line : Text) (lines : List Text) :
    sep.intercalate (line :: lines) = line ++ lines.flatMap fun line => sep ++ line := by
  induction lines generalizing line with
  | nil => simp [List.intercalate]
  | cons next lines ih =>
      rw [List.intercalate_cons_cons, ih, List.flatMap_cons, List.append_assoc, List.append_assoc]

theorem intercalate_append (sep line : Text) (lines : List Text) :
    sep.intercalate (line :: lines) ++ sep = (line :: lines).flatMap (· ++ sep) := by
  have hrest : lines.flatMap (sep ++ ·) ++ sep = sep ++ lines.flatMap (· ++ sep) := by
    induction lines with
    | nil => simp
    | cons line lines ih => simp [ih]
  rw [intercalate_cons, List.append_assoc, hrest, List.flatMap_cons, List.append_assoc]

theorem mem_intercalate {sep : Text} {pieces : List Text} {c : Char}
    (h : c ∈ sep.intercalate pieces) : c ∈ sep ∨ ∃ piece ∈ pieces, c ∈ piece := by
  cases pieces with
  | nil => cases h
  | cons first rest =>
      rw [intercalate_cons, List.mem_append, List.mem_flatMap] at h
      rcases h with h | ⟨piece, hpiece, h⟩
      · exact Or.inr ⟨first, List.mem_cons_self, h⟩
      · rcases List.mem_append.mp h with h | h
        · exact Or.inl h
        · exact Or.inr ⟨piece, List.mem_cons_of_mem first hpiece, h⟩

end Text

/-! ## Reading digits -/

namespace Digit

theorem separated_of_notMem {s : Text} (h : '_' ∉ s) : separated s = true := by
  induction s with
  | nil => rfl
  | cons c s ih =>
      rw [List.mem_cons, not_or] at h
      rw [separated]
      · exact ih h.2
      · rintro rfl -
        exact h.1 rfl
      · rintro rest rfl -
        exact h.1 rfl

theorem span_of_all {value? : Char → Option Nat} {s : Text} (hne : s ≠ [])
    (hdigits : ∀ c ∈ s, (value? c).isSome = true) (hunderscore : '_' ∉ s) :
    span value? s = some (s.filterMap value?, []) := by
  have hall : ∀ c ∈ s, ((value? c).isSome || c == '_') = true := fun c hc => by
    rw [hdigits c hc, Bool.true_or]
  have hhead : s.head? ≠ some '_' := fun h => hunderscore (List.mem_of_mem_head? h)
  unfold span
  simp only [List.takeWhile_eq_self_iff.mpr hall, List.dropWhile_eq_nil_iff.mpr hall,
    separated_of_notMem hunderscore]
  simp [hne, hhead]

end Digit

namespace Integer

theorem sign_of_notMem {s : Text} (hminus : '-' ∉ s) (hplus : '+' ∉ s) :
    sign s = (false, s) := by
  unfold sign
  split
  next => exact absurd List.mem_cons_self hminus
  next => exact absurd List.mem_cons_self hplus
  next => rfl

theorem dropHexMark_of_notMem {s : Text} (hlower : 'x' ∉ s) (hupper : 'X' ∉ s) :
    dropHexMark s = s := by
  unfold dropHexMark
  split
  next x rest =>
    have hmark : ¬ (x = 'x' ∨ x = 'X') := by
      rintro (rfl | rfl)
      · exact hlower (by simp)
      · exact hupper (by simp)
    rw [if_neg hmark]
  next => rfl

theorem parseHex_append {s : Text} (hne : s ≠ []) (h : s.Over Text.hexDigits) {blanks : Text}
    (hblanks : ∀ c ∈ blanks, Text.isSpace c = true) :
    parseHex? (s ++ blanks) = some (Digit.value 16 (s.filterMap Digit.hex?) : Int) := by
  have hspan := Digit.span_of_all hne
    (h.forall_mem (P := fun c => (Digit.hex? c).isSome = true) (by decide))
    (h.notMem (by decide))
  have hspaces := h.forall_mem (P := fun c => Text.isSpace c = false) (by decide)
  unfold parseHex?
  rw [Text.trimOf_append hspaces hne hblanks,
    sign_of_notMem (h.notMem (by decide)) (h.notMem (by decide))]
  simp only
  rw [dropHexMark_of_notMem (h.notMem (by decide)) (h.notMem (by decide)), hspan]
  rfl

theorem parse_of_over {s : Text} (hne : s ≠ []) (h : s.Over Text.decimalDigits)
    (hlength : s.length ≤ maxDigits) :
    parse s = .ok (Digit.value 10 (s.filterMap Digit.decimal?) : Int) := by
  have hspan := Digit.span_of_all hne
    (h.forall_mem (P := fun c => (Digit.decimal? c).isSome = true) (by decide))
    (h.notMem (by decide))
  have hspaces := h.forall_mem (P := fun c => Text.isSpace c = false) (by decide)
  have hcount : (s.filterMap Digit.decimal?).length ≤ maxDigits :=
    (List.length_filterMap_le _ _).trans hlength
  unfold parse
  rw [Text.trimOf_of_none hspaces hne,
    sign_of_notMem (h.notMem (by decide)) (h.notMem (by decide))]
  simp only [hspan, if_neg (show ¬ _ > maxDigits from Nat.not_lt.mpr hcount)]
  rfl

theorem parse_of_over_long {s : Text} (hne : s ≠ []) (h : s.Over Text.decimalDigits)
    (hlength : maxDigits < s.length) : parse s = .error (.tooManyDigits s.length) := by
  have hdigits := h.forall_mem (P := fun c => (Digit.decimal? c).isSome = true) (by decide)
  have hspan := Digit.span_of_all hne hdigits (h.notMem (by decide))
  have hspaces := h.forall_mem (P := fun c => Text.isSpace c = false) (by decide)
  have hcount : (s.filterMap Digit.decimal?).length = s.length :=
    List.filterMap_length_eq_length.mpr hdigits
  unfold parse
  rw [Text.trimOf_of_none hspaces hne,
    sign_of_notMem (h.notMem (by decide)) (h.notMem (by decide))]
  simp only [hspan, hcount, if_pos hlength]

end Integer

end HttpFetch
