import HttpFetch.Proofs.Number.Alphabet

/-!
# Hexadecimal numbers on the wire

The length of a block is written in hexadecimal and read back as an integer.  What is written is a
text over the hexadecimal digits, so reading takes all of it and gives the number that was written.
-/

namespace HttpFetch

namespace Text

theorem digitChar_mem (d : Fin 16) : digitChar d ∈ hexDigits := by
  revert d
  decide

theorem digitsFrom_over {base : Nat} (hbase : base ≤ 16) (n : Nat) :
    (digitsFrom base n).Over hexDigits := by
  fun_induction digitsFrom base n with
  | case1 n hpos ih =>
      intro c hc
      have hlt : n % base < base := Nat.mod_lt n (by omega)
      rw [List.mem_cons] at hc
      rcases hc with rfl | hc
      · exact digitChar_mem ⟨n % base, by omega⟩
      · exact ih c hc
  | case2 n hzero => exact fun c hc => absurd hc List.not_mem_nil

theorem ofNatBase_over {base : Nat} (hbase : base ≤ 16) (n : Nat) :
    (ofNatBase base n).Over hexDigits := by
  unfold ofNatBase
  split
  next =>
    intro c hc
    rw [List.mem_singleton] at hc
    rw [hc]
    decide
  next =>
    intro c hc
    exact digitsFrom_over hbase n c (List.mem_reverse.mp hc)

theorem ofNatBase_ne_nil (n : Nat) : ofNatBase 16 n ≠ [] := by
  unfold ofNatBase
  split
  next => exact List.cons_ne_nil _ _
  next hpos =>
    rw [digitsFrom, if_pos ⟨by omega, by omega⟩]
    simp

theorem length_digitsFrom_le {n places : Nat} (h : n < 16 ^ places) :
    (digitsFrom 16 n).length ≤ places := by
  induction places generalizing n with
  | zero =>
      have hzero : n = 0 := by simpa using h
      rw [hzero, digitsFrom, if_neg (by omega)]
      exact le_rfl
  | succ places ih =>
      rw [digitsFrom]
      split
      next =>
        have hquotient : n / 16 < 16 ^ places := by
          rw [pow_succ] at h
          exact Nat.div_lt_of_lt_mul (by rwa [mul_comm] at h)
        rw [List.length_cons]
        exact Nat.succ_le_succ (ih hquotient)
      next => exact Nat.zero_le _

theorem length_ofNatBase_le {n places : Nat} (h : n < 16 ^ places) (hplaces : 0 < places) :
    (ofNatBase 16 n).length ≤ places := by
  unfold ofNatBase
  split
  next => exact hplaces
  next =>
    rw [List.length_reverse]
    exact length_digitsFrom_le h

theorem hex_digitChar (d : Fin 16) : Digit.hex? (digitChar d) = some d.val := by
  revert d
  decide

end Text

namespace Latin

theorem toNat_decodeOctet (octet : UInt8) : (decodeOctet octet).toNat = octet.toNat := by
  have hvalid : octet.toNat.isValidChar := Or.inl (by have := octet.toNat_lt; omega)
  rw [decodeOctet, Char.ofNat, dif_pos hvalid]
  rfl

theorem decode_lt (data : Bytes) : ∀ c ∈ decode data, c.toNat < 256 := by
  intro c hc
  obtain ⟨octet, -, rfl⟩ := List.mem_map.mp hc
  rw [toNat_decodeOctet]
  exact octet.toNat_lt

theorem decode_encode {s : Text} (h : ∀ c ∈ s, c.toNat < 128) : decode (Utf8.encode s) = s := by
  induction s with
  | nil => rfl
  | cons c s ih =>
      have hc : c.toNat < 128 := h c List.mem_cons_self
      have hchar : decode (Utf8.encodeChar c) = [c] := by
        rw [Utf8.encodeChar, if_pos (by omega)]
        simp only [decode, List.map_cons, List.map_nil, decodeOctet]
        rw [UInt8.toNat_ofNat_of_lt' (show c.toNat < 256 by omega), Char.ofNat_toNat]
      have hrest := ih fun d hd => h d (List.mem_cons_of_mem c hd)
      change decode (Utf8.encodeChar c ++ Utf8.encode s) = c :: s
      rw [decode_append, hchar, hrest]
      rfl

theorem notMem_encode {s : Text} (hascii : ∀ c ∈ s, c.toNat < 128) {octet : UInt8}
    (h : decodeOctet octet ∉ s) : octet ∉ Utf8.encode s := by
  intro hmem
  apply h
  rw [← decode_encode hascii]
  exact List.mem_map_of_mem hmem

end Latin

namespace Digit

theorem value_digitsFrom (n : Nat) :
    value 16 ((Text.digitsFrom 16 n).reverse.filterMap hex?) = n := by
  fun_induction Text.digitsFrom 16 n with
  | case1 n hpos ih =>
      have hlast : hex? (Text.digitChar (n % 16)) = some (n % 16) :=
        Text.hex_digitChar ⟨n % 16, by omega⟩
      rw [List.reverse_cons, List.filterMap_append, value, List.foldl_append, ← value, ih]
      simp only [List.filterMap_cons, hlast, List.filterMap_nil, List.foldl_cons, List.foldl_nil]
      omega
  | case2 n hzero =>
      have : n = 0 := by omega
      rw [this]
      rfl

/-- A number written in hexadecimal is read back. -/
theorem value_ofNatBase (n : Nat) :
    value 16 ((Text.ofNatBase 16 n).filterMap hex?) = n := by
  unfold Text.ofNatBase
  split
  next hzero =>
    rw [hzero]
    rfl
  next => exact value_digitsFrom n

end Digit

end HttpFetch
