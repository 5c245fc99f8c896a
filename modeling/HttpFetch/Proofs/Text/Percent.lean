import HttpFetch.Text.Percent
import Mathlib.Tactic

/-!
# Escapes are undone

Every text is encoded in UTF-8 and read back, octet by octet.  So a text is what its escaped form
stands for (`Percent.decode_encode`), as long as the percent sign itself is escaped.  The other way
round only texts without an escape stand for themselves (`Percent.decode_eq_self_iff`).
-/

namespace HttpFetch

/-! ## Octets of characters -/

namespace Utf8

/-- The numbers of characters: surrogates are none. -/
theorem toNat_cases (c : Char) : c.toNat < 0xd800 ∨ 0xdfff < c.toNat ∧ c.toNat < 0x110000 :=
  c.valid

namespace Decoder

variable (reversed : Text)

/-- A tail octet that is owed is taken in. -/
theorem step_tail {tails low high value k : Nat} (hk : k < 64) (hlow : low ≤ 0x80 + k)
    (hhigh : 0x80 + k ≤ high) :
    step ⟨reversed, some ⟨tails, low, high, value⟩⟩ (UInt8.ofNat (0x80 + k)) =
      if tails = 1 then ⟨Char.ofNat (value * 64 + k) :: reversed, none⟩
      else ⟨reversed, some ⟨tails - 1, 0x80, 0xbf, value * 64 + k⟩⟩ := by
  have hoctet : (UInt8.ofNat (0x80 + k)).toNat = 0x80 + k :=
    UInt8.toNat_ofNat_of_lt' (by show 0x80 + k < 256; omega)
  simp only [step, hoctet, hlow, hhigh, and_self, if_true, Nat.add_sub_cancel_left]

/-- The first octet of two. -/
theorem start_two {n : Nat} (hleast : 0x80 ≤ n) (hmost : n < 0x800) :
    start reversed (0xc0 + n / 64) = ⟨reversed, some ⟨1, 0x80, 0xbf, n / 64⟩⟩ := by
  unfold start
  rw [if_neg (by omega), if_pos (by omega), Nat.add_sub_cancel_left]

/-- The first octet of three.  The bounds of the second keep out longer forms than needed, and
surrogates. -/
theorem start_three {n : Nat} (hleast : 0x800 ≤ n) (hmost : n < 0x10000)
    (hvalid : n < 0xd800 ∨ 0xdfff < n) :
    ∃ low high, start reversed (0xe0 + n / 4096) = ⟨reversed, some ⟨2, low, high, n / 4096⟩⟩ ∧
      low ≤ 0x80 + n / 64 % 64 ∧ 0x80 + n / 64 % 64 ≤ high := by
  unfold start
  rw [if_neg (by omega), if_neg (by omega)]
  by_cases hfirst : n / 4096 = 0
  · rw [if_pos (by omega), hfirst]
    exact ⟨_, _, rfl, by omega, by omega⟩
  rw [if_neg (by omega)]
  by_cases hsurrogate : n / 4096 = 13
  · rw [if_pos (by omega), hsurrogate]
    exact ⟨_, _, rfl, by omega, by omega⟩
  · rw [if_neg (by omega), if_pos (by omega), Nat.add_sub_cancel_left]
    exact ⟨_, _, rfl, by omega, by omega⟩

/-- The first octet of four. -/
theorem start_four {n : Nat} (hleast : 0x10000 ≤ n) (hmost : n < 0x110000) :
    ∃ low high, start reversed (0xf0 + n / 262144) =
        ⟨reversed, some ⟨3, low, high, n / 262144⟩⟩ ∧
      low ≤ 0x80 + n / 4096 % 64 ∧ 0x80 + n / 4096 % 64 ≤ high := by
  unfold start
  rw [if_neg (by omega), if_neg (by omega), if_neg (by omega), if_neg (by omega),
    if_neg (by omega)]
  by_cases hfirst : n / 262144 = 0
  · rw [if_pos (by omega), hfirst]
    exact ⟨_, _, rfl, by omega, by omega⟩
  rw [if_neg (by omega)]
  by_cases hlast : n / 262144 = 4
  · rw [if_neg (by omega), if_pos (by omega), hlast]
    exact ⟨_, _, rfl, by omega, by omega⟩
  · rw [if_pos (by omega), Nat.add_sub_cancel_left]
    exact ⟨_, _, rfl, by omega, by omega⟩

end Decoder

theorem step_none (reversed : Text) {n : Nat} (h : n < 256) :
    Decoder.step ⟨reversed, none⟩ (UInt8.ofNat n) = Decoder.start reversed n := by
  simp only [Decoder.step, UInt8.toNat_ofNat_of_lt' h]

/-- A decoder that owes nothing reads the octets of a character as the character. -/
theorem foldl_step_encodeChar (reversed : Text) (c : Char) :
    (encodeChar c).foldl Decoder.step ⟨reversed, none⟩ = ⟨c :: reversed, none⟩ := by
  have hvalid := toNat_cases c
  have hchar : Char.ofNat c.toNat = c := Char.ofNat_toNat c
  unfold encodeChar
  generalize c.toNat = n at *
  dsimp only
  split
  next hone =>
    simp only [List.foldl_cons, List.foldl_nil, step_none reversed (show n < 256 by omega)]
    rw [Decoder.start, if_pos hone, hchar]
  split
  next hone htwo =>
    simp only [List.foldl_cons, List.foldl_nil,
      step_none reversed (show 0xc0 + n / 64 < 256 by omega)]
    rw [Decoder.start_two reversed (by omega) htwo,
      Decoder.step_tail reversed (by omega) (by omega) (by omega), if_pos rfl,
      show n / 64 * 64 + n % 64 = n by omega, hchar]
  split
  next hone htwo hthree =>
    obtain ⟨low, high, hstart, hlow, hhigh⟩ :=
      Decoder.start_three reversed (show 0x800 ≤ n by omega) hthree (by omega)
    simp only [List.foldl_cons, List.foldl_nil,
      step_none reversed (show 0xe0 + n / 4096 < 256 by omega)]
    rw [hstart, Decoder.step_tail reversed (by omega) hlow hhigh, if_neg (by omega),
      Decoder.step_tail reversed (by omega) (by omega) (by omega), if_pos rfl,
      show (n / 4096 * 64 + n / 64 % 64) * 64 + n % 64 = n by omega, hchar]
  next hone htwo hthree =>
    obtain ⟨low, high, hstart, hlow, hhigh⟩ :=
      Decoder.start_four reversed (show 0x10000 ≤ n by omega) (by omega)
    simp only [List.foldl_cons, List.foldl_nil,
      step_none reversed (show 0xf0 + n / 262144 < 256 by omega)]
    rw [hstart, Decoder.step_tail reversed (by omega) hlow hhigh, if_neg (by omega),
      Decoder.step_tail reversed (by omega) (by omega) (by omega), if_neg (by omega),
      Decoder.step_tail reversed (by omega) (by omega) (by omega), if_pos rfl,
      show ((n / 262144 * 64 + n / 4096 % 64) * 64 + n / 64 % 64) * 64 + n % 64 = n by omega,
      hchar]

end Utf8

/-! ## Escaped texts -/

namespace Percent

open Utf8 (Decoder)

/-- What is true of the safe characters, of the percent sign and of hexadecimal digits is true of
the characters of an escaped text, whatever the text. -/
theorem forall_mem_encode {safe : Char → Bool} {P : Char → Prop}
    (hsafe : ∀ c, safe c = true → P c) (hsign : P '%') (hdigit : ∀ n < 16, P (hexDigit n))
    (s : Text) : ∀ c ∈ encode safe s, P c := by
  intro c hc
  obtain ⟨written, -, hc⟩ := List.mem_flatMap.mp hc
  unfold encodeChar at hc
  split at hc
  next hwritten =>
    cases List.mem_singleton.mp hc
    exact hsafe _ hwritten
  next =>
    obtain ⟨octet, -, hc⟩ := List.mem_flatMap.mp hc
    have hlt := octet.toNat_lt
    simp only [encodeOctet, List.mem_cons, List.not_mem_nil, or_false] at hc
    rcases hc with rfl | rfl | rfl
    · exact hsign
    · exact hdigit _ (by omega)
    · exact hdigit _ (by omega)

theorem asciiHex_hexDigit {n : Nat} (h : n < 16) : Digit.asciiHex? (hexDigit n) = some n := by
  have hall : ∀ n < 16, Digit.asciiHex? (hexDigit n) = some n := by decide
  exact hall n h

theorem decodeFrom_encodeOctet (d : Decoder) (octet : UInt8) (rest : Text) :
    decodeFrom d (encodeOctet octet ++ rest) = decodeFrom (d.step octet) rest := by
  have hlt := octet.toNat_lt
  have hoctet : UInt8.ofNat (16 * (octet.toNat / 16) + octet.toNat % 16) = octet := by
    rw [Nat.div_add_mod, UInt8.ofNat_toNat]
  rw [encodeOctet, List.cons_append, List.cons_append, List.cons_append, List.nil_append,
    decodeFrom, asciiHex_hexDigit (by omega), asciiHex_hexDigit (by omega)]
  simp only [hoctet]

theorem decodeFrom_encodeOctets (d : Decoder) (octets : Bytes) (rest : Text) :
    decodeFrom d (octets.flatMap encodeOctet ++ rest) =
      decodeFrom (octets.foldl Decoder.step d) rest := by
  induction octets generalizing d with
  | nil => rfl
  | cons octet octets ih =>
      rw [List.flatMap_cons, List.append_assoc, decodeFrom_encodeOctet, ih, List.foldl_cons]

/-- Whether a percent sign and two hexadecimal digits stand next to each other. -/
def HasEscape (s : Text) : Prop :=
  ∃ x y, ['%', x, y] <:+: s ∧ (Digit.asciiHex? x).isSome = true ∧
    (Digit.asciiHex? y).isSome = true

theorem HasEscape.of_cons {c : Char} {rest : Text} (h : HasEscape rest) :
    HasEscape (c :: rest) := by
  obtain ⟨x, y, hinside, hx, hy⟩ := h
  exact ⟨x, y, List.infix_cons hinside, hx, hy⟩

theorem not_hasEscape_of_notMem {s : Text} (h : '%' ∉ s) : ¬ HasEscape s := by
  rintro ⟨x, y, hinside, -⟩
  exact h (hinside.subset List.mem_cons_self)

/-- A character with which no escape begins stands for itself. -/
theorem decodeFrom_cons {c : Char} {rest : Text} (h : ¬ HasEscape (c :: rest)) (d : Decoder) :
    decodeFrom d (c :: rest) = decodeFrom (push d c) rest := by
  rw [decodeFrom.eq_def]
  split
  next x y after heq =>
    cases heq
    split
    next high low hx hy =>
      have hescape : ['%', x, y] <:+: '%' :: x :: y :: after :=
        (List.prefix_append ['%', x, y] after).isInfix
      exact absurd ⟨x, y, hescape, by rw [hx]; rfl, by rw [hy]; rfl⟩ h
    next => rfl
  next heq =>
    cases heq
    rfl
  next heq => cases heq

theorem push_none (reversed : Text) (c : Char) :
    push ⟨reversed, none⟩ c = ⟨c :: reversed, none⟩ := by
  simp [push, Decoder.text]

theorem decodeFrom_of_not_hasEscape {s : Text} (h : ¬ HasEscape s) (reversed : Text) :
    decodeFrom ⟨reversed, none⟩ s = ⟨s.reverse ++ reversed, none⟩ := by
  induction s generalizing reversed with
  | nil => rfl
  | cons c rest ih =>
      rw [decodeFrom_cons h, push_none, ih fun hrest => h hrest.of_cons]
      simp

theorem decode_eq (s : Text) : decode s = (decodeFrom ⟨[], none⟩ s).text := by
  unfold decode
  split
  next => rfl
  next helem =>
    have hnone : '%' ∉ s := by simpa using helem
    rw [decodeFrom_of_not_hasEscape (not_hasEscape_of_notMem hnone)]
    simp [Decoder.text]

theorem decodeFrom_encodeChar {safe : Char → Bool} (hsafe : safe '%' = false) (reversed : Text)
    (c : Char) (rest : Text) :
    decodeFrom ⟨reversed, none⟩ (encodeChar safe c ++ rest) =
      decodeFrom ⟨c :: reversed, none⟩ rest := by
  unfold encodeChar
  split
  next hc =>
    have hne : c ≠ '%' := by
      rintro rfl
      exact absurd (hsafe.symm.trans hc) (by decide)
    rw [List.singleton_append, decodeFrom.eq_def]
    split
    next heq => exact absurd (List.cons.inj heq).1 hne
    next heq =>
      cases heq
      rw [push_none]
    next heq => cases heq
  next => rw [decodeFrom_encodeOctets, Utf8.foldl_step_encodeChar]

theorem decodeFrom_encode {safe : Char → Bool} (hsafe : safe '%' = false) (s reversed : Text) :
    decodeFrom ⟨reversed, none⟩ (encode safe s) = ⟨s.reverse ++ reversed, none⟩ := by
  induction s generalizing reversed with
  | nil => rfl
  | cons c s ih =>
      have hrest : encode safe (c :: s) = encodeChar safe c ++ encode safe s := List.flatMap_cons
      rw [hrest, decodeFrom_encodeChar hsafe, ih]
      simp

/-- An escaped text stands for the text. -/
theorem decode_encode {safe : Char → Bool} (hsafe : safe '%' = false) (s : Text) :
    decode (encode safe s) = s := by
  rw [decode_eq, decodeFrom_encode hsafe]
  simp [Decoder.text]

theorem encode_of_safe {safe : Char → Bool} {s : Text} (h : ∀ c ∈ s, safe c = true) :
    encode safe s = s := by
  induction s with
  | nil => rfl
  | cons c s ih =>
      rw [List.forall_mem_cons] at h
      rw [encode, List.flatMap_cons, encodeChar, if_pos h.1]
      exact congrArg (c :: ·) (ih h.2)

/-! ## Lengths -/

theorem length_text (d : Decoder) :
    d.text.length = d.reversed.length + if d.owed.isSome then 1 else 0 := by
  unfold Decoder.text
  cases d.owed <;> simp

theorem length_text_start (reversed : Text) (n : Nat) :
    (Decoder.start reversed n).text.length = reversed.length + 1 := by
  unfold Decoder.start
  split_ifs <;> simp [length_text]

/-- An octet adds at most one character. -/
theorem length_text_step_le (d : Decoder) (octet : UInt8) :
    (d.step octet).text.length ≤ d.text.length + 1 := by
  obtain ⟨reversed, owed⟩ := d
  cases owed with
  | none =>
      rw [Decoder.step, length_text_start, length_text]
      exact le_rfl
  | some owed =>
      simp only [Decoder.step]
      split_ifs
      · simp only [length_text, List.length_cons, Option.isSome_some, if_true]
        exact Nat.le_add_right _ _
      · simp only [length_text, Option.isSome_some, if_true]
        exact Nat.le_add_right _ _
      · rw [length_text_start, length_text]
        simp

theorem length_text_push (d : Decoder) (c : Char) : (push d c).text.length = d.text.length + 1 := by
  simp [push, Decoder.text]

theorem length_decodeFrom_le (d : Decoder) (s : Text) :
    (decodeFrom d s).text.length ≤ d.text.length + s.length := by
  fun_induction decodeFrom d s with
  | case1 d x y rest high low hy hx ih =>
      have hstep := length_text_step_le d (UInt8.ofNat (16 * high + low))
      simp only [List.length_cons]
      omega
  | case2 d x y rest hdigits ih =>
      rw [length_text_push] at ih
      simp only [List.length_cons] at ih ⊢
      omega
  | case3 d c rest hfirst ih =>
      rw [length_text_push] at ih
      simp only [List.length_cons]
      omega
  | case4 d => exact le_rfl

/-- An escape begins at the first character or after it. -/
theorem HasEscape.cases_cons {c : Char} {rest : Text} (h : HasEscape (c :: rest)) :
    (∃ x y after high low, c :: rest = '%' :: x :: y :: after ∧ Digit.asciiHex? x = some high ∧
      Digit.asciiHex? y = some low) ∨ HasEscape rest := by
  obtain ⟨x, y, hinside, hx, hy⟩ := h
  rcases List.infix_cons_iff.1 hinside with ⟨after, hfront⟩ | hrest
  · obtain ⟨high, hhigh⟩ := Option.isSome_iff_exists.1 hx
    obtain ⟨low, hlow⟩ := Option.isSome_iff_exists.1 hy
    exact .inl ⟨x, y, after, high, low, hfront.symm, hhigh, hlow⟩
  · exact .inr ⟨x, y, hrest, hx, hy⟩

/-- Three characters of an escape become one at most. -/
theorem length_decodeFrom_lt {s : Text} (h : HasEscape s) (d : Decoder) :
    (decodeFrom d s).text.length < d.text.length + s.length := by
  fun_induction decodeFrom d s with
  | case1 d x y rest high low hy hx ih =>
      have hstep := length_text_step_le d (UInt8.ofNat (16 * high + low))
      have hle := length_decodeFrom_le (d.step (UInt8.ofNat (16 * high + low))) rest
      simp only [List.length_cons]
      omega
  | case2 d x y rest hdigits ih =>
      rcases h.cases_cons with ⟨x', y', after, high, low, heq, hx, hy⟩ | hrest
      · cases heq
        exact absurd hy (hdigits high low hx)
      · have hlt := ih hrest
        rw [length_text_push] at hlt
        simp only [List.length_cons] at hlt ⊢
        omega
  | case3 d c rest hfirst ih =>
      rcases h.cases_cons with ⟨x, y, after, high, low, heq, -⟩ | hrest
      · cases heq
        exact absurd rfl (hfirst x y after rfl)
      · have hlt := ih hrest
        rw [length_text_push] at hlt
        simp only [List.length_cons]
        omega
  | case4 d =>
      obtain ⟨x, y, hinside, -⟩ := h
      exact absurd hinside.length_le (by simp)

/-- A text stands for itself exactly if no escape is in it. -/
theorem decode_eq_self_iff {s : Text} : decode s = s ↔ ¬ HasEscape s := by
  constructor
  · intro h hescape
    have hlt := length_decodeFrom_lt hescape ⟨[], none⟩
    rw [← decode_eq, h] at hlt
    simp [Decoder.text] at hlt
  · intro h
    rw [decode_eq, decodeFrom_of_not_hasEscape h]
    simp [Decoder.text]

end Percent

end HttpFetch
