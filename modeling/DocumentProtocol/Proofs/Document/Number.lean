import DocumentProtocol.Decimal.Binary64
import DocumentProtocol.Document.Basic
import Mathlib

/-!
# The numbers that values stand for

Values of four kinds are numbers: signed words of two sizes, binary64 and decimal128 numbers.
`Value.number?` reads each of them as a rational number or an infinity. A NaN is no number.

One number is written in many ways. A zero has a sign in both formats, and a decimal128 zero has one
of thousands of exponents besides; a coefficient that is too large for thirty-four digits counts as
zero as well, whatever its bits are. The main statements here say which binary64 numbers are zero,
and that a decimal128 number of a sign, an exponent and a coefficient is read as just that.
-/

namespace DocumentProtocol

/-- A rational number or an infinity. -/
inductive Number where
  | finite (value : ℚ)
  | infinite (negative : Bool)
  deriving DecidableEq

namespace Number

instance : Zero Number := ⟨.finite 0⟩

theorem zero_eq : (0 : Number) = .finite 0 := rfl

/-- The number `coefficient * base ^ exponent` under a sign. -/
def scaled (negative : Bool) (coefficient base : Nat) (exponent : Int) : Number :=
  .finite ((if negative then -1 else 1) * coefficient * (base : ℚ) ^ exponent)

theorem scaled_eq_zero_iff {negative : Bool} {coefficient base : Nat} {exponent : Int}
    (positive : 0 < base) : scaled negative coefficient base exponent = 0 ↔ coefficient = 0 := by
  have power : (base : ℚ) ^ exponent ≠ 0 := by
    apply zpow_ne_zero
    exact_mod_cast positive.ne'
  rw [scaled, zero_eq, Number.finite.injEq]
  cases negative <;> simp [power]

end Number

/-! ### Binary64 -/

namespace Binary64

open Float.Model

/-- The number of a binary64 word. -/
def number? (bits : UInt64) : Option Number :=
  match UnpackedFloat.unpack Format.binary64 bits.toBitVec with
  | .infinity sign => some (.infinite (sign == .negative))
  | .notANumber => none
  | .zero _ => some 0
  | .finite sign mantissa exponent _ => some (.scaled (sign == .negative) mantissa 2 exponent)

/-- Unpacking loses no more of a word than the payload of a NaN, so only a zero unpacks to one. -/
theorem unpack_eq_zero_iff {word : BitVec Format.binary64.numBits} {sign : UnpackedFloat.Sign} :
    UnpackedFloat.unpack Format.binary64 word = .zero sign ↔
      word = UnpackedFloat.packedZero Format.binary64 sign := by
  constructor
  · intro unpacked
    have packed := UnpackedFloat.pack_unpack word
    rw [unpacked, UnpackedFloat.pack] at packed
    split at packed
    · cases sign <;> exact absurd packed (by decide)
    · exact packed.symm
  · rintro rfl
    exact UnpackedFloat.unpack_packedZero

theorem number?_eq_zero_iff_exists (bits : UInt64) :
    number? bits = some 0 ↔
      ∃ sign, UnpackedFloat.unpack Format.binary64 bits.toBitVec = .zero sign := by
  rw [number?]
  cases UnpackedFloat.unpack Format.binary64 bits.toBitVec with
  | infinity sign => simp [Number.zero_eq]
  | notANumber => simp
  | zero sign => simp
  | finite sign mantissa exponent positive =>
      simp [Number.scaled_eq_zero_iff, positive.ne']

theorem number?_eq_zero_iff (bits : UInt64) : number? bits = some 0 ↔ isZero bits = true := by
  have positive_iff : bits = 0 ↔
      bits.toBitVec = UnpackedFloat.packedZero Format.binary64 .positive := UInt64.toBitVec_inj.symm
  have negative_iff : bits = signBit ↔
      bits.toBitVec = UnpackedFloat.packedZero Format.binary64 .negative := UInt64.toBitVec_inj.symm
  simp only [number?_eq_zero_iff_exists, unpack_eq_zero_iff, isZero, Bool.or_eq_true,
    decide_eq_true_eq, positive_iff, negative_iff]
  constructor
  · rintro ⟨_ | _, word_eq⟩
    · exact .inr word_eq
    · exact .inl word_eq
  · rintro (word_eq | word_eq)
    · exact ⟨.positive, word_eq⟩
    · exact ⟨.negative, word_eq⟩

end Binary64

/-! ### Decimal128 -/

namespace Decimal128

/-- The largest coefficient, of thirty-four nines. -/
def largestCoefficient : Nat := 10 ^ 34 - 1

/-- The number of a coefficient; one that is too large counts as zero. -/
def numberOf (negative : Bool) (exponent coefficient : Nat) : Number :=
  .scaled negative (if coefficient ≤ largestCoefficient then coefficient else 0) 10
    (exponent - 6176)

/--
The number of a decimal128 word. The five bits behind the sign tell infinities and NaNs from the two
layouts of finite numbers, in the second of which the coefficient begins with the bits 100.
-/
def number? (digits : Decimal128) : Option Number :=
  let bits := LittleEndian.decode digits.bytes
  let negative : Bool := 2 ^ 127 ≤ bits
  let form := bits / 2 ^ 122 % 2 ^ 5
  if form = 31 then none
  else if form = 30 then some (.infinite negative)
  else if 24 ≤ form then
    some (numberOf negative (bits / 2 ^ 111 % 2 ^ 14) (2 ^ 113 + bits % 2 ^ 111))
  else some (numberOf negative (bits / 2 ^ 113 % 2 ^ 14) (bits % 2 ^ 113))

theorem numberOf_eq_zero_iff {negative : Bool} {exponent coefficient : Nat} :
    numberOf negative exponent coefficient = 0 ↔
      coefficient = 0 ∨ largestCoefficient < coefficient := by
  rw [numberOf, Number.scaled_eq_zero_iff (by decide)]
  split <;> omega

/-- A decimal128 word of a sign, an exponent and a coefficient. -/
def ofParts (negative : Bool) (exponent coefficient : Nat) : Decimal128 where
  bytes := LittleEndian.encode 16
    ((if negative then 2 ^ 127 else 0) + exponent * 2 ^ 113 + coefficient)
  length_eq := LittleEndian.length_encode 16 _

theorem decode_ofParts (negative : Bool) {exponent coefficient : Nat}
    (exponent_lt : exponent < 3 * 2 ^ 12) (coefficient_lt : coefficient < 2 ^ 113) :
    LittleEndian.decode (ofParts negative exponent coefficient).bytes =
      (if negative then 2 ^ 127 else 0) + exponent * 2 ^ 113 + coefficient := by
  rw [ofParts, LittleEndian.decode_encode]
  apply Nat.mod_eq_of_lt
  change _ < 2 ^ 128
  split <;> omega

theorem number?_ofParts (negative : Bool) {exponent coefficient : Nat}
    (exponent_lt : exponent < 3 * 2 ^ 12) (coefficient_lt : coefficient < 2 ^ 113) :
    number? (ofParts negative exponent coefficient) =
      some (numberOf negative exponent coefficient) := by
  have whole := decode_ofParts negative exponent_lt coefficient_lt
  rw [number?]
  generalize LittleEndian.decode (ofParts negative exponent coefficient).bytes = bits at whole
  have sign_eq : decide (2 ^ 127 ≤ bits) = negative := by
    cases negative <;> simp only [Bool.false_eq_true, ↓reduceIte] at whole
    · exact decide_eq_false (by omega)
    · exact decide_eq_true (by omega)
  have form_lt : bits / 2 ^ 122 % 2 ^ 5 < 24 := by
    split at whole <;> omega
  have exponent_eq : bits / 2 ^ 113 % 2 ^ 14 = exponent := by
    split at whole <;> omega
  have coefficient_eq : bits % 2 ^ 113 = coefficient := by
    split at whole <;> omega
  rw [if_neg (by omega), if_neg (by omega), if_neg (by omega), sign_eq, exponent_eq,
    coefficient_eq]

end Decimal128

/-! ### Values -/

namespace Kind

/-- Whether the values of a kind are numbers. -/
def isNumeric : Kind → Bool
  | .int32 | .int64 | .double | .decimal128 => true
  | _ => false

end Kind

namespace Value

/-- The number that a value stands for. -/
def number? : Value → Option Number
  | .int32 number => some (.finite number.toInt)
  | .int64 number => some (.finite number.toInt)
  | .double bits => Binary64.number? bits
  | .decimal128 digits => Decimal128.number? digits
  | _ => none

theorem isNumeric_of_number? {value : Value} {number : Number}
    (number_eq : value.number? = some number) : value.kind.isNumeric = true := by
  cases value with
  | int32 | int64 | double | decimal128 => rfl
  | _ => cases number_eq

/-- Whether a value is a zero among the decimal128 numbers. -/
def IsDecimalZero (value : Value) : Prop := value.kind = .decimal128 ∧ value.number? = some 0

/-- There is a zero for every sign and exponent, and more with a coefficient that is too large. -/
theorem isDecimalZero_ofParts (negative : Bool) {exponent coefficient : Nat}
    (exponent_lt : exponent < 3 * 2 ^ 12) (coefficient_lt : coefficient < 2 ^ 113)
    (vanishes : coefficient = 0 ∨ Decimal128.largestCoefficient < coefficient) :
    (Value.decimal128 (Decimal128.ofParts negative exponent coefficient)).IsDecimalZero := by
  refine ⟨rfl, ?_⟩
  rw [number?, Decimal128.number?_ofParts negative exponent_lt coefficient_lt,
    Decimal128.numberOf_eq_zero_iff.2 vanishes]

end Value

end DocumentProtocol
