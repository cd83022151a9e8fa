/-
**Rounding doubles to decimal places.**

The exact value is rounded to a multiple of `10 ^ -places`, half-way cases to the even multiple, and
the double nearest to that multiple is the result. It keeps the sign of the argument, on zero too.
-/

import CallConsole.Double.Reading

namespace CallConsole

namespace Double

/-- The whole number nearest to `|x| * 10 ^ places`, a half going to the even neighbour. -/
def scaledNearest (x : Double) (places : Int) : Nat :=
  nearestEven (x.units * 10 ^ places.toNat) (oneUnits * 10 ^ (-places).toNat)

/-- **Rounds to `places` decimal places.** With more than `323` places nothing changes, and every
double rounds to zero when more than `308` places before the point are dropped. -/
def roundTo (x : Double) (places : Int) : Double :=
  if !x.isFinite || x.code = 0 || 323 < places then x
  else if places < -308 then zero x.negative
  else ofDecimal x.negative ⟨x.scaledNearest places, -places⟩

end Double

end CallConsole
