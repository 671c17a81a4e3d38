import DocumentProtocol.Bytes.LittleEndian

/-!
# Decimal numerals

Numbers written with the ten digits: natural numbers with an optional plus sign, integers with an
optional sign, and decimals with a point and an exponent. Every reader takes the whole text: blanks,
separators and an empty run of digits are refused, leading zeros are not.
-/

namespace DocumentProtocol

namespace Numeral

/-- The value of a digit in a base of at most sixteen; letters count from ten in either case. -/
def digit? (base : Nat) (character : Char) : Option Nat :=
  let value :=
    if '0' ≤ character ∧ character ≤ '9' then some (character.toNat - '0'.toNat)
    else if 'a' ≤ character ∧ character ≤ 'f' then some (character.toNat - 'a'.toNat + 10)
    else if 'A' ≤ character ∧ character ≤ 'F' then some (character.toNat - 'A'.toNat + 10)
    else none
  value.bind fun value => if value < base then some value else none

def isDigit (character : Char) : Bool := (digit? 10 character).isSome

/-- Continues the number `value` with further digits. -/
def continue? (base : Nat) (value : Nat) : List Char → Option Nat
  | [] => some value
  | character :: rest =>
      (digit? base character).bind fun digit => continue? base (value * base + digit) rest

def digits? (base : Nat) : List Char → Option Nat
  | [] => none
  | characters => continue? base 0 characters

def natural? : List Char → Option Nat
  | '+' :: rest => digits? 10 rest
  | characters => digits? 10 characters

def integer? : List Char → Option Int
  | '-' :: rest => (digits? 10 rest).map fun value => -(value : Int)
  | characters => (natural? characters).map fun value => (value : Int)

def naturalBelow? (bound : Nat) (text : String) : Option Nat :=
  (natural? text.toList).filter (· < bound)

def int32? (text : String) : Option Int32 :=
  ((integer? text.toList).filter fun value =>
    -(Bytes.wordLimit : Int) ≤ value ∧ value < Bytes.wordLimit).map Int32.ofInt

def int64? (text : String) : Option Int64 :=
  ((integer? text.toList).filter fun value =>
    -(Bytes.doubleWordLimit : Int) ≤ value ∧ value < Bytes.doubleWordLimit).map Int64.ofInt

/-- A decimal: the number `mantissa * 10 ^ exponent` under a sign. -/
structure Decimal where
  negative : Bool
  mantissa : Nat
  exponent : Int

/-- The exponent after a mantissa: nothing, or `e` and an integer. -/
def exponent? : List Char → Option Int
  | [] => some 0
  | mark :: rest => if mark = 'e' ∨ mark = 'E' then integer? rest else none

/-- A decimal without its sign: digits around an optional point, at least one of them. -/
def unsigned? (negative : Bool) (characters : List Char) : Option Decimal :=
  let whole := characters.takeWhile isDigit
  let rest := characters.dropWhile isDigit
  let (fraction, rest) := match rest with
    | '.' :: rest => (rest.takeWhile isDigit, rest.dropWhile isDigit)
    | rest => ([], rest)
  (digits? 10 (whole ++ fraction)).bind fun mantissa =>
    (exponent? rest).map fun exponent => ⟨negative, mantissa, exponent - fraction.length⟩

def decimal? : List Char → Option Decimal
  | '-' :: rest => unsigned? true rest
  | '+' :: rest => unsigned? false rest
  | characters => unsigned? false characters

end Numeral

end DocumentProtocol
