/-
**Decimal numbers and their written form.**

A decimal is `digits * 10 ^ exponent`. `Decimal.read?` accepts digits, at most one point among them
and an optional exponent; at least one digit must stand before the exponent, on either side of the
point.
-/

import CallConsole.Integer

namespace CallConsole

/-- The number `digits * 10 ^ exponent`. -/
structure Decimal where
  digits : Nat
  exponent : Int
deriving DecidableEq

namespace Decimal

/-- The number of decimal digits of a positive number. -/
def length (n : Nat) : Nat := (Nat.toDigits 10 n).length

/-- The decimal is `numerator / denominator`. -/
def numerator (d : Decimal) : Nat := d.digits * 10 ^ d.exponent.toNat

/-- The decimal is `numerator / denominator`. -/
def denominator (d : Decimal) : Nat := 10 ^ (-d.exponent).toNat

/-- The number that a run of digits denotes. -/
def ofDigits (digits : List Char) : Nat := Nat.ofDigitChars 10 digits 0

/-- A sign is taken off the front; `true` stands for minus. -/
def readSign : List Char → Bool × List Char
  | '-' :: rest => (true, rest)
  | '+' :: rest => (false, rest)
  | rest => (false, rest)

/-- A non-empty run of digits with an optional sign. -/
def readSigned? (text : List Char) : Option Int :=
  let (negative, digits) := readSign text
  if digits.isEmpty || !digits.all Char.isDigit then none
  else some (if negative then -(ofDigits digits : Int) else ofDigits digits)

/-- The exponent after the digits: nothing, or an `e` with a signed number. -/
def readExponent? : List Char → Option Int
  | [] => some 0
  | mark :: rest => if mark = 'e' ∨ mark = 'E' then readSigned? rest else none

/-- The digits after the point, and what follows them. -/
def readFraction : List Char → List Char × List Char
  | '.' :: rest => rest.span Char.isDigit
  | rest => ([], rest)

/-- **Reads an unsigned decimal.** The whole text must be used up. -/
def read? (text : List Char) : Option Decimal :=
  let (whole, afterWhole) := text.span Char.isDigit
  let (fraction, afterFraction) := readFraction afterWhole
  if whole.isEmpty && fraction.isEmpty then none
  else (readExponent? afterFraction).map fun exponent =>
    ⟨ofDigits (whole ++ fraction), exponent - fraction.length⟩

end Decimal

end CallConsole
