import DocumentProtocol.Decimal.Numeral

/-!
# The binary64 number nearest to a decimal

`Binary64.nearest` rounds `mantissa * 10 ^ exponent` to the nearest binary64 number, a tie going to
the even neighbour, and gives its bits. All arithmetic is exact: the decimal is a fraction of
natural numbers, the unit in the last place is the power of two that leaves a quotient of
fifty-three bits, and the quotient is rounded once. A number is then the quotient added to its
biased exponent, so that a quotient that rounds up to fifty-four bits carries into the exponent by
itself.

Below the smallest normal number the unit stays at `2 ^ -1074`; from `2 ^ 1024` on, the bits are
those of infinity.
-/

namespace DocumentProtocol

namespace Binary64

def infinity : Nat := 0x7FF0000000000000

def nan : UInt64 := 0x7FF8000000000000

def signBit : UInt64 := 0x8000000000000000

def isZero (bits : UInt64) : Bool := bits = 0 || bits = signBit

/-- The quotient of two numbers rounded to the nearest, a tie to the even neighbour. -/
def roundedQuotient (numerator denominator : Nat) : Nat :=
  let quotient := numerator / denominator
  let remainder := numerator % denominator
  if 2 * remainder < denominator then quotient
  else if denominator < 2 * remainder then quotient + 1
  else quotient + quotient % 2

def scaled (numerator denominator : Nat) (unit : Int) : Nat × Nat :=
  if 0 ≤ unit then (numerator, denominator * Nat.pow 2 unit.toNat)
  else (numerator * Nat.pow 2 (-unit).toNat, denominator)

/-- The exponent of the unit in the last place of the number nearest to a positive fraction. -/
def unitExponent (numerator denominator : Nat) : Int :=
  let guess : Int := (numerator.log2 : Int) - denominator.log2 - 52
  let (top, bottom) := scaled numerator denominator guess
  max (-1074) (if top / bottom < Nat.pow 2 52 then guess - 1 else guess)

def ofFraction (numerator denominator : Nat) : Nat :=
  let unit := unitExponent numerator denominator
  let (top, bottom) := scaled numerator denominator unit
  min infinity ((unit + 1074).toNat * Nat.pow 2 52 + roundedQuotient top bottom)

/--
The bits of the number nearest to `mantissa * 10 ^ exponent`, without a sign. The two outer cases
answer at once for exponents whose powers nobody should compute.
-/
def nearest (mantissa : Nat) (exponent : Int) : Nat :=
  let magnitude := exponent + mantissa.log2 / 4
  if mantissa = 0 ∨ exponent + mantissa.log2 < -400 then 0
  else if 400 < magnitude then infinity
  else if 0 ≤ exponent then ofFraction (mantissa * Nat.pow 10 exponent.toNat) 1
  else ofFraction mantissa (Nat.pow 10 (-exponent).toNat)

/-- The bits of the number nearest to a decimal. -/
def ofDecimal (decimal : Numeral.Decimal) : UInt64 :=
  let bits := UInt64.ofNat (nearest decimal.mantissa decimal.exponent)
  if decimal.negative then bits ||| signBit else bits

def overflows (decimal : Numeral.Decimal) : Bool :=
  nearest decimal.mantissa decimal.exponent = infinity

/-- The words for numbers that digits do not write, in any case of letters. -/
def word? (characters : List Char) : Option UInt64 :=
  let lower := String.ofList (characters.map Char.toLower)
  if lower = "inf" ∨ lower = "infinity" then some (UInt64.ofNat infinity)
  else if lower = "nan" then some nan
  else none

/-- The bits that a text writes: a decimal, or a word after an optional sign. -/
def parse? (text : String) : Option UInt64 :=
  match Numeral.decimal? text.toList with
  | some decimal => some (ofDecimal decimal)
  | none =>
      match text.toList with
      | '-' :: rest => (word? rest).map (· ||| signBit)
      | '+' :: rest => word? rest
      | characters => word? characters

end Binary64

end DocumentProtocol
