import Mathlib.Init

/-! Double-precision arithmetic on exact rationals, rounded to nearest with ties to even. -/

namespace Binary64

/-- The nearest integer, ties going to the even one. -/
def nearestEven (x : Rat) : Int :=
  let low := x.floor
  if x - low < 1 / 2 then low
  else if 1 / 2 < x - low then low + 1
  else low + low % 2

/-- The largest exponent whose power of two is at most the magnitude of a nonzero rational. -/
def exponent (x : Rat) : Int :=
  let guess : Int := (x.num.natAbs.log2 : Int) - x.den.log2
  -- The bit lengths alone may be one too high when the leading bits compare the other way.
  if (2 : Rat) ^ guess ≤ x.abs then guess else guess - 1

/-- The double nearest to a rational within the exponent range of the format. -/
def round (x : Rat) : Rat :=
  if x = 0 then 0
  else
    let unit : Rat := (2 : Rat) ^ (exponent x - 52)
    nearestEven (x / unit) * unit

def add (x y : Rat) : Rat := round (x + y)

def mul (x y : Rat) : Rat := round (x * y)

def div (x y : Rat) : Rat := round (x / y)

/-- Rounding to an integer with halves going up. -/
def roundHalfUp (x : Rat) : Int := (x + 1 / 2).floor

-- A hundred scaled by 1.15 falls just short of 115.
example : (mul 100 (add 1 (div 15 100))).floor = 114 := by decide +kernel

end Binary64
