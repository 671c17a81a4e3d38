import DocumentProtocol.Decimal.Binary64
import DocumentProtocol.Toml.Node

/-!
# Plain values of a settings text

Values that no quote or bracket opens are single words of letters, digits and the signs `+`, `-`,
`_`, `.` and `:`. A word is a truth value, an integer, a float or a date-time, and nothing else:

* an integer is decimal without leading zeros, perhaps after a sign, or hexadecimal, octal or binary
  behind `0x`, `0o` or `0b`; it must fit a signed double word;
* a float has a fraction, an exponent or both, or is one of the words for infinity and for no
  number; one that is too large for a finite number is refused unless it is negative;
* a date-time is a day of the calendar, a time of the day, or both, then perhaps with an offset.

Single underscores may stand between the digits of numbers. Day and time may also be parted by a
space, and then the date-time takes two words.
-/

namespace DocumentProtocol.Toml

namespace Scalar

def isWordCharacter (character : Char) : Bool :=
  character.isAlphanum || ['+', '-', '_', '.', ':'].contains character

def word (text : List Char) : List Char × List Char :=
  (text.takeWhile isWordCharacter, text.dropWhile isWordCharacter)

/-! ### Numbers -/

def furtherDigits? (base : Nat) : List Char → Option (List Char)
  | [] => some []
  | '_' :: character :: rest =>
      if (Numeral.digit? base character).isSome then
        (furtherDigits? base rest).map (character :: ·)
      else none
  | character :: rest =>
      if (Numeral.digit? base character).isSome then
        (furtherDigits? base rest).map (character :: ·)
      else none

/-- The digits of a number without the underscores between them. -/
def ungrouped? (base : Nat) : List Char → Option (List Char)
  | [] => none
  | character :: rest =>
      if (Numeral.digit? base character).isSome then
        (furtherDigits? base rest).map (character :: ·)
      else none

def grouped? (base : Nat) (text : List Char) : Option Nat :=
  (ungrouped? base text).bind (Numeral.digits? base)

/-- Whether grouped decimal digits begin with a zero that says nothing. -/
def hasLeadingZero : List Char → Bool
  | '0' :: _ :: _ => true
  | _ => false

def decimal? (text : List Char) : Option Nat :=
  if hasLeadingZero text then none else grouped? 10 text

def unsigned : List Char → Bool × List Char
  | '-' :: rest => (true, rest)
  | '+' :: rest => (false, rest)
  | text => (false, text)

def wholeNumber? : List Char → Option Int
  | '0' :: 'x' :: rest => (grouped? 16 rest).map Int.ofNat
  | '0' :: 'o' :: rest => (grouped? 8 rest).map Int.ofNat
  | '0' :: 'b' :: rest => (grouped? 2 rest).map Int.ofNat
  | text =>
      let (negative, digits) := unsigned text
      (decimal? digits).map fun magnitude => if negative then -(magnitude : Int) else magnitude

def integer? (text : List Char) : Option Int :=
  (wholeNumber? text).filter fun number =>
    -(Bytes.doubleWordLimit : Int) ≤ number ∧ number < Bytes.doubleWordLimit

def exponent? (text : List Char) : Option Int :=
  let (negative, digits) := unsigned text
  (grouped? 10 digits).map fun magnitude => if negative then -(magnitude : Int) else magnitude

def isExponentMark (character : Char) : Bool := character = 'e' || character = 'E'

def fractional? (text : List Char) : Option Numeral.Decimal := do
  let (negative, text) := unsigned text
  let mantissa := text.takeWhile fun character => !isExponentMark character
  let afterMantissa := text.dropWhile fun character => !isExponentMark character
  let whole := mantissa.takeWhile (· ≠ '.')
  let afterWhole := mantissa.dropWhile (· ≠ '.')
  if afterWhole = [] ∧ afterMantissa = [] then none
  if hasLeadingZero whole then none
  let wholeDigits ← ungrouped? 10 whole
  let fractionDigits ← if afterWhole = [] then some [] else ungrouped? 10 (afterWhole.drop 1)
  let exponent ← if afterMantissa = [] then some 0 else exponent? (afterMantissa.drop 1)
  let magnitude ← Numeral.digits? 10 (wholeDigits ++ fractionDigits)
  return ⟨negative, magnitude, exponent - fractionDigits.length⟩

def isSpecialFloat (text : List Char) : Bool :=
  let (_, name) := unsigned text
  name = ['i', 'n', 'f'] || name = ['n', 'a', 'n']

/-- Whether a word writes a float. -/
def isFloat (text : List Char) : Bool :=
  isSpecialFloat text ||
    (fractional? text).any fun decimal => decimal.negative || !Binary64.overflows decimal

/-! ### Date-times -/

def fixedNumber? (size : Nat) (text : List Char) : Option (Nat × List Char) :=
  if text.length < size then none
  else (Numeral.digits? 10 (text.take size)).map fun number => (number, text.drop size)

def behind? (expected : Char) : List Char → Option (List Char)
  | [] => none
  | character :: rest => if character = expected then some rest else none

def isLeapYear (year : Nat) : Bool := year % 4 = 0 && (year % 100 ≠ 0 || year % 400 = 0)

def daysIn (year month : Nat) : Nat :=
  if month = 2 then (if isLeapYear year then 29 else 28)
  else if [4, 6, 9, 11].contains month then 30
  else 31

def date? (text : List Char) : Option (List Char) := do
  let (year, text) ← fixedNumber? 4 text
  let text ← behind? '-' text
  let (month, text) ← fixedNumber? 2 text
  let text ← behind? '-' text
  let (day, text) ← fixedNumber? 2 text
  if 1 ≤ month ∧ month ≤ 12 ∧ 1 ≤ day ∧ day ≤ daysIn year month then some text else none

def hoursMinutes? (text : List Char) : Option (List Char) := do
  let (hours, text) ← fixedNumber? 2 text
  let text ← behind? ':' text
  let (minutes, text) ← fixedNumber? 2 text
  if hours ≤ 23 ∧ minutes ≤ 59 then some text else none

/-- The rest of a text behind a time of the day, which may hold a leap second. -/
def time? (text : List Char) : Option (List Char) := do
  let text ← hoursMinutes? text
  let text ← behind? ':' text
  let (seconds, text) ← fixedNumber? 2 text
  if 60 < seconds then none
  match text with
  | '.' :: fraction =>
      if (fraction.takeWhile Numeral.isDigit).isEmpty then none
      else some (fraction.dropWhile Numeral.isDigit)
  | text => some text

def offset? : List Char → Option (List Char)
  | 'Z' :: rest => some rest
  | 'z' :: rest => some rest
  | '+' :: rest => hoursMinutes? rest
  | '-' :: rest => hoursMinutes? rest
  | text => some text

def isDate (text : List Char) : Bool := date? text = some []

def isOffsetTime (text : List Char) : Bool := (time? text).bind offset? = some []

def isDateTime (text : List Char) : Bool :=
  isDate text || time? text = some [] ||
    match date? text with
    | some (separator :: rest) => (separator = 'T' || separator = 't') && isOffsetTime rest
    | _ => false

/-! ### Words -/

/-- The value of a word. -/
def value? (text : List Char) : Option Node :=
  if text = "true".toList then some (.boolean true)
  else if text = "false".toList then some (.boolean false)
  else if isDateTime text then some .dateTime
  else
    match integer? text with
    | some number => some (.integer number)
    | none => if isFloat text then some .float else none

def startsTime : List Char → Bool
  | ' ' :: character :: _ => Numeral.isDigit character
  | _ => false

/-- Reads a plain value at the front of a text. -/
def read (text : List Char) : Option (Node × List Char) :=
  let (first, rest) := word text
  if isDate first ∧ startsTime rest then
    let (second, rest) := word (rest.drop 1)
    if isOffsetTime second then some (.dateTime, rest) else none
  else (value? first).map fun value => (value, rest)

end Scalar

end DocumentProtocol.Toml
