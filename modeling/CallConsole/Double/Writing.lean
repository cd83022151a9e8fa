/-
**Writing doubles.**

A finite double is written with the fewest digits that read back as the same double; of two such
texts of equal length the nearer one is taken, and the larger one if both are equally near. The
digits stand positionally while the exponent of the leading digit lies in `-4 .. 15`, and in
scientific form outside.
-/

import CallConsole.Double.Reading

namespace CallConsole

/-- Where positional notation begins and ends, and how wide an exponent is at least. -/
structure DigitLayout where
  /-- The least exponent of the leading digit that is written positionally. -/
  positionalFrom : Int
  /-- The first exponent of the leading digit that is too large for positional notation. -/
  positionalBelow : Int
  /-- Exponents are filled with zeros up to this many digits. -/
  exponentWidth : Nat

namespace DigitLayout

/-- The layout of every double that the console writes. -/
def console : DigitLayout where
  positionalFrom := -4
  positionalBelow := 16
  exponentWidth := 2

/-- The exponent with its sign: `e+16`, `e-05`. -/
def exponentText (layout : DigitLayout) (exponent : Int) : List Char :=
  let digits := Nat.toDigits 10 exponent.natAbs
  'e' :: (if exponent < 0 then '-' else '+') ::
    (List.replicate (layout.exponentWidth - digits.length) '0' ++ digits)

/-- Digits with the point after `places` of them, filled with zeros up to the point, and with a
zero after the point if nothing else stands there. -/
def pointAfter (digits : List Char) (places : Nat) : List Char :=
  if places < digits.length then digits.take places ++ '.' :: digits.drop places
  else digits ++ List.replicate (places - digits.length) '0' ++ ['.', '0']

/-- **Lays out significant digits**, the first of which stands at `10 ^ exponent`. -/
def write (layout : DigitLayout) (digits : List Char) (exponent : Int) : List Char :=
  if layout.positionalFrom ≤ exponent ∧ exponent < layout.positionalBelow then
    if 0 ≤ exponent then pointAfter digits (exponent.toNat + 1)
    else '0' :: '.' :: (List.replicate (-exponent - 1).toNat '0' ++ digits)
  else if digits.length ≤ 1 then digits ++ layout.exponentText exponent
  else digits.take 1 ++ '.' :: digits.drop 1 ++ layout.exponentText exponent

end DigitLayout

namespace Double

/-- The power of ten of the leading digit of a positive number of units: multiplied by `10 ^ 324`
every positive double is at least one, and its whole part has the digits to count. -/
def leadingExponent (units : Nat) : Int :=
  Decimal.length (units * 10 ^ 324 / oneUnits) - 325

/-- The largest multiple of `10 ^ exponent` that is not above the value, as a number of digits. -/
def digitsBelow (units : Nat) (exponent : Int) : Nat :=
  units * 10 ^ (-exponent).toNat / (oneUnits * 10 ^ exponent.toNat)

/-- The value is at least half-way from `digits` to the next multiple of `10 ^ exponent`. -/
def nearerAbove (units digits : Nat) (exponent : Int) : Bool :=
  decide ((2 * digits + 1) * (oneUnits * 10 ^ exponent.toNat) ≤
    2 * (units * 10 ^ (-exponent).toNat))

/-- A decimal that ends at `10 ^ exponent` and reads back as the double, if there is one: one of the
value's two neighbours among those decimals. -/
def writtenDownTo? (x : Double) (exponent : Int) : Option Decimal :=
  let below : Decimal := ⟨digitsBelow x.units exponent, exponent⟩
  let above : Decimal := ⟨below.digits + 1, exponent⟩
  let readsBack (decimal : Decimal) : Bool := decide (ofDecimal x.negative decimal = x)
  if readsBack below && !(readsBack above && nearerAbove x.units below.digits exponent) then
    some below
  else if readsBack above then some above
  else none

/-- The value of the double itself, as a decimal. -/
def exactDecimal (x : Double) : Decimal := ⟨x.units * 5 ^ 1074, -1074⟩

/-- **The shortest decimal that reads back as the double**: the first that is found when one digit
after another is added. -/
def shortest (x : Double) : Decimal :=
  let leading := leadingExponent x.units
  let found := (List.range 17).findSome? fun (more : Nat) => x.writtenDownTo? (leading - more)
  found.getD x.exactDecimal

/-- The significant digits of a decimal without trailing zeros, and the exponent of the first. -/
def significant (decimal : Decimal) : List Char × Int :=
  let digits := Nat.toDigits 10 decimal.digits
  ((digits.reverse.dropWhile (· = '0')).reverse, digits.length - 1 + decimal.exponent)

/-- The text of a non-negative finite double. -/
def unsignedText (x : Double) : List Char :=
  if x.code = 0 then ['0', '.', '0']
  else
    let (digits, exponent) := significant x.shortest
    DigitLayout.console.write digits exponent

/-- **The text of a double.** -/
def text (x : Double) : List Char :=
  if x.isNan then ['n', 'a', 'n']
  else (if x.negative then ['-'] else []) ++
    if x.isInfinite then ['i', 'n', 'f'] else x.unsignedText

end Double

end CallConsole
