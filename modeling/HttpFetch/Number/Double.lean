/-!
# Doubles

A double is known by its 64 bits: a sign, and a magnitude that orders the numbers, infinity after
the finite ones and what is no number after infinity. A finite double is a significand times a
power of two: the significand has 53 bits, or fewer at the least exponent. The double nearest to a
ratio of natural numbers is, of two nearest ones, the one with the even significand.
-/

namespace HttpFetch

/-- A floating-point number of double precision. -/
structure Double where
  bits : UInt64
  deriving DecidableEq, Repr

namespace Double

/-- The bits of positive infinity. -/
def infinityBits : Nat := 0x7ff0000000000000

def zero : Double := ⟨0⟩

def infinity : Double := ⟨UInt64.ofNat infinityBits⟩

/-- What is no number. -/
def undefined : Double := ⟨0x7ff8000000000000⟩

/-- The bit of the sign. -/
def signBit : UInt64 := 0x8000000000000000

/-- The double with the other sign. -/
def negate (x : Double) : Double := ⟨x.bits ^^^ signBit⟩

/-- The bits apart from the sign. -/
def magnitude (x : Double) : UInt64 := x.bits &&& (signBit - 1)

def isNumber (x : Double) : Bool := x.magnitude ≤ infinity.bits

/-- Whether a double is a number that is zero or has the sign of positive ones. -/
def isAtLeastZero (x : Double) : Bool :=
  x.isNumber && (x.magnitude = 0 || x.bits &&& signBit = 0)

/-- Whether a double is a number that is zero or has the sign of negative ones. -/
def isAtMostZero (x : Double) : Bool :=
  x.isNumber && (x.magnitude = 0 || x.bits &&& signBit != 0)

/-- A quotient rounded to the nearest natural number, a half to the even one. -/
def roundHalfEven (num den : Nat) : Nat :=
  let q := num / den
  let r := num % den
  if den < 2 * r ∨ (2 * r = den ∧ q % 2 = 1) then q + 1 else q

/-- The ratio `num / (den * 2 ^ e)` rounded to a natural number. -/
def scaled (num den : Nat) (e : Int) : Nat :=
  if 0 ≤ e then roundHalfEven num (den <<< e.toNat) else roundHalfEven (num <<< (-e).toNat) den

/-- The least exponent of a double. -/
def minExponent : Int := -1074

/-- The exponent at which a positive ratio has a significand of 53 bits, or the least one. -/
def exponent (num den : Nat) : Int :=
  let log : Int := num.log2 - den.log2
  let log := if (if 0 ≤ log then num < den <<< log.toNat else num <<< (-log).toNat < den)
    then log - 1 else log
  max (log - 52) minExponent

/-- Significand and exponent of the double nearest to a ratio, before the bound of the range. -/
def nearest (num den : Nat) : Nat × Int :=
  if num = 0 then (0, minExponent)
  else
    let e := exponent num den
    (scaled num den e, e)

/-- The bits of the double nearest to a ratio; beyond the range it is infinity. -/
def bitsOfRatio (num den : Nat) : Nat :=
  let (significand, e) := nearest num den
  min ((e - minExponent).toNat <<< 52 + significand) infinityBits

/-- The double nearest to a ratio. -/
def ofRatio (num den : Nat) : Double := ⟨UInt64.ofNat (bitsOfRatio num den)⟩

/-- The double nearest to `digits * 10 ^ e`, for a number of `count` digits. Far beyond the
range the power is not computed. -/
def ofDecimal (digits count : Nat) (e : Int) : Double :=
  let size := (count : Int) + e
  if digits = 0 then zero
  else if 400 < size then infinity
  else if size < -400 then zero
  else if 0 ≤ e then ofRatio (digits * Nat.pow 10 e.toNat) 1
  else ofRatio digits (Nat.pow 10 (-e).toNat)

/-- The whole number that a natural number becomes when it is held as a double; there is none
beyond the range. -/
def wholeNat? (n : Nat) : Option Nat :=
  if n ≤ 1 <<< 53 then some n
  else if bitsOfRatio n 1 = infinityBits then none
  else
    let (significand, e) := nearest n 1
    some (significand <<< e.toNat)

/-- The whole number that an integer becomes when it is held as a double. -/
def wholeInt? : Int → Option Int
  | .ofNat n => (wholeNat? n).map Int.ofNat
  | .negSucc n => (wholeNat? (n + 1)).map fun m => -(m : Int)

end Double

end HttpFetch
