/-!
# Rounding to binary64

Model of the floating-point arithmetic on the azimuth that `plc_tool` is given: reading it, taking
it times ten, and rounding it.

The numbers of binary64 are the multiples of a power of two with 53 binary digits, down to the unit
`2 ^ -1074`. `Binary64.nearest` is the one that is nearest to a number; of two equally near ones it
is the even multiple. Numbers that are too large for the format are out of its scope.
-/

namespace DomeLink.Binary64

/-- The nearest integer, and the even one of two equally near ones. -/
def roundEven (x : Rat) : Int :=
  let low := x.floor
  let rest := x - low
  if rest < 1 / 2 then low
  else if 1 / 2 < rest then low + 1
  else if low % 2 = 0 then low
  else low + 1

/-- The exponent of the least unit. -/
def minExponent : Int := -1074

/-- The exponent of the unit in which a positive number has 53 digits before the point, or of the
least unit. -/
def unitExponent (x : Rat) : Int :=
  let e := (x.num.natAbs.log2 : Int) - x.den.log2 - 53
  max (if x < 2 ^ (e + 53) then e else e + 1) minExponent

/-- The binary64 number nearest to a number that is not negative. -/
def nearest (x : Rat) : Rat :=
  if x = 0 then 0 else roundEven (x / 2 ^ unitExponent x) * 2 ^ unitExponent x

/-- The nearest integer to a number that is not negative, and the greater of two equally near
ones. -/
def roundHalfUp (x : Rat) : Int := (x + 1 / 2).floor

end DomeLink.Binary64
