import HttpFetch.Number.Double
import Mathlib.Tactic

/-!
# The range of doubles

A whole number is held as a double unless its magnitude is rounded to the power of two after the
largest double, that is, unless it is at least halfway from that double to the power.
-/

namespace HttpFetch

namespace Double

/-- The least magnitude that no double holds. -/
def overflow : Nat := 2 ^ 1024 - 2 ^ 970

-- Exponents are variables here, so that no power is computed where these are used.
theorem two_pow_le {i j : Nat} (h : i ≤ j) : 2 ^ i ≤ 2 ^ j := Nat.pow_le_pow_right (by omega) h

theorem two_pow_succ {i j : Nat} (h : j = i + 1) : 2 ^ j = 2 * 2 ^ i := by rw [h, pow_succ']

theorem two_pow_le_sub {i j k : Nat} (hk : k = j + 1) (hi : i ≤ j) : 2 ^ j ≤ 2 ^ k - 2 ^ i := by
  have hpower := two_pow_le hi
  have hdouble := two_pow_succ hk
  omega

theorem two_pow_le_overflow : 2 ^ 1023 ≤ overflow := by
  unfold overflow
  exact two_pow_le_sub (by norm_num) (by norm_num)

/-- A quotient is rounded up to an even number from halfway on. -/
theorem even_le_roundHalfEven_iff
    {m num half : Nat} (heven : m % 2 = 0) (hhalf : 0 < half) :
    m ≤ roundHalfEven num (2 * half) ↔ m * (2 * half) ≤ num + half := by
  have hdiv := Nat.div_add_mod num (2 * half)
  have hmod := Nat.mod_lt num (show 0 < 2 * half by omega)
  unfold roundHalfEven
  simp only
  generalize num / (2 * half) = q at *
  generalize num % (2 * half) = r at *
  rcases lt_trichotomy m (q + 1) with hlt | rfl | hgt
  · have hmul := Nat.mul_le_mul_right (2 * half) (Nat.le_of_lt_succ hlt)
    rw [Nat.mul_comm q] at hmul
    exact iff_of_true (by split <;> omega) (by omega)
  · rw [Nat.add_mul, Nat.mul_comm q]
    split <;> constructor <;> intro h <;> omega
  · have hmul := Nat.mul_le_mul_right (2 * half) (Nat.succ_le_of_lt hgt)
    rw [Nat.succ_mul, Nat.add_mul, Nat.mul_comm q] at hmul
    exact iff_of_false (by split <;> omega) (by omega)

theorem roundHalfEven_bounds {num den : Nat} :
    num / den ≤ roundHalfEven num den ∧ roundHalfEven num den ≤ num / den + 1 := by
  unfold roundHalfEven
  simp only
  split <;> omega

theorem roundHalfEven_mono {num num' den : Nat} (h : num ≤ num') :
    roundHalfEven num den ≤ roundHalfEven num' den := by
  have hdiv := Nat.div_add_mod num den
  have hdiv' := Nat.div_add_mod num' den
  rcases (Nat.div_le_div_right h : num / den ≤ num' / den).lt_or_eq with hlt | heq
  · calc
      roundHalfEven num den ≤ num / den + 1 := roundHalfEven_bounds.2
      _ ≤ num' / den := hlt
      _ ≤ roundHalfEven num' den := roundHalfEven_bounds.1
  · have hmod : num % den ≤ num' % den := by
      rw [heq] at hdiv
      omega
    simp only [roundHalfEven, heq]
    split <;> split <;> omega

theorem exponent_of_large {n : Nat} (h : 2 ^ 53 ≤ n) : exponent n 1 = (n.log2 : Int) - 52 := by
  have hlog : 53 ≤ n.log2 := (Nat.le_log2 (by omega)).mpr h
  have hle : ¬ n < 1 <<< n.log2 := by
    rw [Nat.shiftLeft_eq, one_mul]
    exact Nat.not_lt.mpr (Nat.log2_self_le (by omega))
  have hden : (1 : Nat).log2 = 0 := by decide
  unfold exponent minExponent
  simp only [hden, Nat.cast_zero, sub_zero, Int.natCast_nonneg, if_true, Int.toNat_natCast, hle,
    if_false]
  omega

theorem nearest_of_large {n : Nat} (h : 2 ^ 53 ≤ n) :
    nearest n 1 = (roundHalfEven n (2 ^ (n.log2 - 52)), (n.log2 : Int) - 52) := by
  have hlog : 53 ≤ n.log2 := (Nat.le_log2 (by omega)).mpr h
  have hexponent := exponent_of_large h
  have hshift : ((n.log2 : Int) - 52).toNat = n.log2 - 52 := by omega
  unfold nearest scaled
  rw [if_neg (by omega), hexponent]
  simp only
  rw [if_pos (by omega), hshift, Nat.shiftLeft_eq, one_mul]

/-- A large number has a significand of 53 bits, or the power of two after them. -/
theorem significand_bounds {n : Nat} (h : 2 ^ 53 ≤ n) :
    2 ^ 52 ≤ roundHalfEven n (2 ^ (n.log2 - 52)) ∧
      roundHalfEven n (2 ^ (n.log2 - 52)) ≤ 2 ^ 53 := by
  have hlog : 53 ≤ n.log2 := (Nat.le_log2 (by omega)).mpr h
  have hbounds := @roundHalfEven_bounds n (2 ^ (n.log2 - 52))
  have hlower : 2 ^ 52 ≤ n / 2 ^ (n.log2 - 52) := by
    rw [Nat.le_div_iff_mul_le (by positivity), ← pow_add, Nat.add_sub_cancel' (by omega)]
    exact Nat.log2_self_le (by omega)
  have hupper : n / 2 ^ (n.log2 - 52) < 2 ^ 53 := by
    rw [Nat.div_lt_iff_lt_mul (by positivity), ← pow_add]
    have hpower : 53 + (n.log2 - 52) = n.log2 + 1 := by omega
    rw [hpower]
    exact Nat.lt_log2_self
  omega

theorem bitsOfRatio_eq_iff {n : Nat} (h : 2 ^ 53 ≤ n) :
    bitsOfRatio n 1 = infinityBits ↔ overflow ≤ n := by
  obtain ⟨hlower, hupper⟩ := significand_bounds h
  have hlog : 53 ≤ n.log2 := (Nat.le_log2 (by omega)).mpr h
  have hself : 2 ^ n.log2 ≤ n := Nat.log2_self_le (by omega)
  have hnext : n < 2 ^ (n.log2 + 1) := Nat.lt_log2_self
  have hinfinity : infinityBits = 2047 * 2 ^ 52 := by decide
  have hshift : ((n.log2 : Int) - 52 - minExponent).toNat = n.log2 + 1022 := by
    unfold minExponent
    omega
  unfold bitsOfRatio
  rw [nearest_of_large h]
  simp only [hshift, Nat.shiftLeft_eq, min_eq_right_iff, hinfinity]
  rcases lt_trichotomy n.log2 1023 with hlt | heq | hgt
  · refine iff_of_false (by omega) (Nat.not_le.mpr ?_)
    calc
      n < 2 ^ (n.log2 + 1) := hnext
      _ ≤ 2 ^ 1023 := two_pow_le hlt
      _ ≤ overflow := two_pow_le_overflow
  · have hden : 2 ^ (n.log2 - 52) = 2 * 2 ^ 970 := two_pow_succ (by omega)
    have hpower : 2 ^ 53 * (2 * 2 ^ 970) = 2 ^ 1024 := by
      rw [← two_pow_succ rfl, ← pow_add]
    rw [hden] at hlower hupper ⊢
    rw [overflow, Nat.sub_le_iff_le_add, ← hpower,
      ← even_le_roundHalfEven_iff (by norm_num) (by positivity)]
    constructor <;> intro hround <;> omega
  · refine iff_of_true (by omega) ?_
    calc
      overflow ≤ 2 ^ 1024 := Nat.sub_le _ _
      _ ≤ 2 ^ n.log2 := two_pow_le hgt
      _ ≤ n := hself

theorem wholeNat_eq_none_iff (n : Nat) : wholeNat? n = none ↔ overflow ≤ n := by
  unfold wholeNat?
  rw [Nat.shiftLeft_eq, one_mul]
  split
  next hsmall =>
    refine iff_of_false nofun (Nat.not_le.mpr ?_)
    calc
      n ≤ 2 ^ 53 := hsmall
      _ < 2 ^ 54 := by omega
      _ ≤ 2 ^ 1023 := two_pow_le (by norm_num)
      _ ≤ overflow := two_pow_le_overflow
  next hlarge =>
    rw [← bitsOfRatio_eq_iff (by omega)]
    split
    next hinfinite => exact iff_of_true rfl hinfinite
    next hfinite => exact iff_of_false nofun hfinite

theorem wholeNat_of_large {n m : Nat} (hlarge : 2 ^ 53 < n) (h : wholeNat? n = some m) :
    m = roundHalfEven n (2 ^ (n.log2 - 52)) * 2 ^ (n.log2 - 52) := by
  have hlog : 53 ≤ n.log2 := (Nat.le_log2 (by omega)).mpr hlarge.le
  have hshift : ((n.log2 : Int) - 52).toNat = n.log2 - 52 := by omega
  unfold wholeNat? at h
  rw [Nat.shiftLeft_eq, one_mul, if_neg (by omega), nearest_of_large hlarge.le] at h
  split at h
  · cases h
  · simp only [hshift, Nat.shiftLeft_eq, Option.some_inj] at h
    exact h.symm

/-- A large number is held as one with the same leading power of two, or as the next power. -/
theorem wholeNat_bounds {n m : Nat} (hlarge : 2 ^ 53 < n) (h : wholeNat? n = some m) :
    2 ^ n.log2 ≤ m ∧ m ≤ 2 ^ (n.log2 + 1) := by
  obtain ⟨hlower, hupper⟩ := significand_bounds hlarge.le
  have hlog : 53 ≤ n.log2 := (Nat.le_log2 (by omega)).mpr hlarge.le
  have hleast : 2 ^ n.log2 = 2 ^ 52 * 2 ^ (n.log2 - 52) := by
    rw [← pow_add, Nat.add_sub_cancel' (by omega)]
  rw [wholeNat_of_large hlarge h, pow_succ', hleast, ← mul_assoc]
  exact ⟨Nat.mul_le_mul_right _ hlower, Nat.mul_le_mul_right _ hupper⟩

/-- What is held of a smaller number is not larger. -/
theorem wholeNat_mono {n n' m m' : Nat} (hle : n ≤ n') (h : wholeNat? n = some m)
    (h' : wholeNat? n' = some m') : m ≤ m' := by
  have hsmall : ∀ {k j : Nat}, k ≤ 2 ^ 53 → wholeNat? k = some j → j = k := by
    intro k j hk hj
    rw [wholeNat?, Nat.shiftLeft_eq, one_mul, if_pos hk] at hj
    exact (Option.some_inj.mp hj).symm
  rcases le_or_gt n' (2 ^ 53) with hn' | hn'
  · rw [hsmall hn' h', hsmall (hle.trans hn') h]
    exact hle
  have hleast := (wholeNat_bounds hn' h').1
  rcases le_or_gt n (2 ^ 53) with hn | hn
  · have hlog : 53 ≤ n'.log2 := (Nat.le_log2 (by omega)).mpr hn'.le
    calc
      m = n := hsmall hn h
      _ ≤ 2 ^ 53 := hn
      _ ≤ 2 ^ n'.log2 := two_pow_le hlog
      _ ≤ m' := hleast
  have hmost := (wholeNat_bounds hn h).2
  have hlogs : n.log2 ≤ n'.log2 :=
    (Nat.le_log2 (by omega)).mpr ((Nat.log2_self_le (by omega)).trans hle)
  rcases hlogs.lt_or_eq with hlt | heq
  · calc
      m ≤ 2 ^ (n.log2 + 1) := hmost
      _ ≤ 2 ^ n'.log2 := two_pow_le hlt
      _ ≤ m' := hleast
  · rw [wholeNat_of_large hn h, wholeNat_of_large hn' h', heq]
    exact Nat.mul_le_mul_right _ (roundHalfEven_mono hle)

theorem wholeInt_negSucc (n : Nat) :
    wholeInt? (.negSucc n) = (wholeNat? (n + 1)).map fun m : Nat => -(m : Int) := by
  rw [wholeInt?]
  cases wholeNat? (n + 1) <;> rfl

/-- What is held of a smaller integer is not larger. -/
theorem wholeInt_mono {x x' y y' : Int} (hle : x ≤ x') (h : wholeInt? x = some y)
    (h' : wholeInt? x' = some y') : y ≤ y' := by
  cases x with
  | ofNat n =>
      obtain ⟨m, hm, rfl⟩ := Option.map_eq_some_iff.mp h
      cases x' with
      | ofNat n' =>
          obtain ⟨m', hm', rfl⟩ := Option.map_eq_some_iff.mp h'
          exact Int.ofNat_le.mpr (wholeNat_mono (Int.ofNat_le.mp hle) hm hm')
      | negSucc n' =>
          have hneg := Int.negSucc_lt_zero n'
          have hpos := Int.natCast_nonneg n
          exact absurd (hpos.trans hle) (not_le.mpr hneg)
  | negSucc n =>
      rw [wholeInt_negSucc] at h
      obtain ⟨m, hm, rfl⟩ := Option.map_eq_some_iff.mp h
      cases x' with
      | ofNat n' =>
          obtain ⟨m', -, rfl⟩ := Option.map_eq_some_iff.mp h'
          exact (Int.neg_nonpos_of_nonneg (Int.natCast_nonneg m)).trans (Int.natCast_nonneg m')
      | negSucc n' =>
          rw [wholeInt_negSucc] at h'
          obtain ⟨m', hm', rfl⟩ := Option.map_eq_some_iff.mp h'
          exact Int.neg_le_neg (Int.ofNat_le.mpr (wholeNat_mono (by omega) hm' hm))

theorem wholeInt_eq_none_iff (n : Int) : wholeInt? n = none ↔ overflow ≤ n.natAbs := by
  cases n with
  | ofNat n =>
      rw [wholeInt?, Option.map_eq_none_iff, wholeNat_eq_none_iff]
      rfl
  | negSucc n =>
      have hnone := wholeNat_eq_none_iff (n + 1)
      rw [wholeInt?, Option.map_eq_none_iff]
      cases hwhole : wholeNat? (n + 1) with
      | none =>
          rw [hwhole] at hnone
          exact iff_of_true rfl (hnone.mp rfl)
      | some m =>
          rw [hwhole] at hnone
          exact iff_of_false nofun fun h => Option.some_ne_none m (hnone.mpr h)

end Double

end HttpFetch
