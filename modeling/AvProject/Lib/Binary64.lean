import Mathlib.Algebra.Order.Floor.Ring
import Mathlib.Data.Int.Log
import Mathlib.Data.Rat.Floor

/-!
Rounding to the binary floating-point numbers of 53 significant bits: to the nearest one, and to
the even one of two that are equally near. An operation of `double` is the exact operation
followed by this rounding, as long as its result does not overflow.
-/

namespace AvProject.Lib

/-- The nearest integer, the even one of two. -/
def roundHalfEven (x : ℚ) : ℤ :=
  if Int.fract x < 1 / 2 ∨ Int.fract x = 1 / 2 ∧ ⌊x⌋ % 2 = 0 then ⌊x⌋ else ⌊x⌋ + 1

/-- The exponent of the last bit of a number of this size, which may be subnormal. -/
def lastBitExponent (x : ℚ) : ℤ := max (Int.log 2 |x| - 52) (-1074)

def roundBinary64 (x : ℚ) : ℚ :=
  roundHalfEven (x / 2 ^ lastBitExponent x) * 2 ^ lastBitExponent x

/-- A tenth is rounded up in its last bit. -/
example : roundBinary64 (1 / 10) = 0x1999999999999A / 2 ^ 56 := by
  decide +kernel

end AvProject.Lib
