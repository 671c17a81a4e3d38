/-!
# Little-endian numbers

Every integer on the wire is written with its least significant byte first. `LittleEndian.encode`
writes the low bytes of a natural number at a given width and `LittleEndian.decode` reads the number
back. The main statements say that the two are inverse: reading what was written gives the number
modulo `256 ^ width`, and writing what was read at the same width gives the bytes.

The fixed-width words of the protocol are written and read through this pair.
-/

namespace DocumentProtocol

/-- A string of bytes, as it travels on the wire. -/
abbrev Bytes := List UInt8

namespace LittleEndian

/-- The `width` low bytes of a number, least significant first. -/
def encode : (width : Nat) → (number : Nat) → Bytes
  | 0, _ => []
  | width + 1, number => UInt8.ofNat number :: encode width (number / 256)

/-- The number that some bytes write, least significant first. -/
def decode : Bytes → Nat
  | [] => 0
  | byte :: rest => byte.toNat + 256 * decode rest

@[simp]
theorem length_encode (width number : Nat) : (encode width number).length = width := by
  induction width generalizing number with
  | zero => rfl
  | succ width ih => simp [encode, ih]

theorem decode_encode (width number : Nat) :
    decode (encode width number) = number % Nat.pow 256 width := by
  induction width generalizing number with
  | zero => simp [encode, decode, Nat.mod_one]
  | succ width ih =>
      have low : (UInt8.ofNat number).toNat = number % 256 := by simp
      have power : Nat.pow 256 (width + 1) = 256 * Nat.pow 256 width := Nat.mul_comm _ _
      rw [encode, decode, ih, low, power, Nat.mod_mul]

theorem encode_decode (bytes : Bytes) : encode bytes.length (decode bytes) = bytes := by
  induction bytes with
  | nil => rfl
  | cons byte rest ih =>
      have bound := byte.toNat_lt
      have low : UInt8.ofNat (byte.toNat + 256 * decode rest) = byte := by
        apply UInt8.toNat_inj.mp
        simp only [UInt8.toNat_ofNat']
        omega
      have high : (byte.toNat + 256 * decode rest) / 256 = decode rest := by omega
      rw [List.length_cons, decode, encode, low, high, ih]

theorem decode_lt (bytes : Bytes) : decode bytes < Nat.pow 256 bytes.length := by
  induction bytes with
  | nil => simp [decode]
  | cons byte rest ih =>
      have bound := byte.toNat_lt
      have power : Nat.pow 256 (rest.length + 1) = Nat.pow 256 rest.length * 256 := rfl
      rw [decode, List.length_cons, power]
      omega

end LittleEndian

namespace Bytes

/-- Signed words are below this number and at least its negative. -/
def wordLimit : Nat := 2147483648

def doubleWordLimit : Nat := 9223372036854775808

def ofUInt32 (word : UInt32) : Bytes := LittleEndian.encode 4 word.toNat

def toUInt32 (bytes : Bytes) : UInt32 := UInt32.ofNat (LittleEndian.decode bytes)

def ofUInt64 (word : UInt64) : Bytes := LittleEndian.encode 8 word.toNat

def toUInt64 (bytes : Bytes) : UInt64 := UInt64.ofNat (LittleEndian.decode bytes)

def ofInt32 (number : Int32) : Bytes := ofUInt32 number.toUInt32

def toInt32 (bytes : Bytes) : Int32 := (toUInt32 bytes).toInt32

def ofInt64 (number : Int64) : Bytes := ofUInt64 number.toUInt64

def toInt64 (bytes : Bytes) : Int64 := (toUInt64 bytes).toInt64

theorem toInt_ofNat {number : Nat} (fits : number < wordLimit) :
    (Int32.ofNat number).toInt = number := by
  simp only [wordLimit] at fits
  exact Int32.toInt_ofNat_of_lt fits

@[simp]
theorem length_ofUInt32 (word : UInt32) : (ofUInt32 word).length = 4 := by simp [ofUInt32]

@[simp]
theorem length_ofUInt64 (word : UInt64) : (ofUInt64 word).length = 8 := by simp [ofUInt64]

@[simp]
theorem length_ofInt32 (number : Int32) : (ofInt32 number).length = 4 := by simp [ofInt32]

@[simp]
theorem length_ofInt64 (number : Int64) : (ofInt64 number).length = 8 := by simp [ofInt64]

@[simp]
theorem toUInt32_ofUInt32 (word : UInt32) : toUInt32 (ofUInt32 word) = word := by
  apply UInt32.toNat_inj.mp
  have bound := word.toNat_lt
  simp [toUInt32, ofUInt32, LittleEndian.decode_encode]

@[simp]
theorem toUInt64_ofUInt64 (word : UInt64) : toUInt64 (ofUInt64 word) = word := by
  apply UInt64.toNat_inj.mp
  have bound := word.toNat_lt
  simp [toUInt64, ofUInt64, LittleEndian.decode_encode]

@[simp]
theorem toInt32_ofInt32 (number : Int32) : toInt32 (ofInt32 number) = number := by
  simp [toInt32, ofInt32]

@[simp]
theorem toInt64_ofInt64 (number : Int64) : toInt64 (ofInt64 number) = number := by
  simp [toInt64, ofInt64]

theorem ofUInt32_toUInt32 {bytes : Bytes} (length : bytes.length = 4) :
    ofUInt32 (toUInt32 bytes) = bytes := by
  have bound := LittleEndian.decode_lt bytes
  simp only [length, Nat.pow_eq, Nat.reducePow] at bound
  have value : (toUInt32 bytes).toNat = LittleEndian.decode bytes := by
    simp only [toUInt32, UInt32.toNat_ofNat']
    omega
  rw [ofUInt32, value, ← length, LittleEndian.encode_decode]

theorem ofUInt64_toUInt64 {bytes : Bytes} (length : bytes.length = 8) :
    ofUInt64 (toUInt64 bytes) = bytes := by
  have bound := LittleEndian.decode_lt bytes
  simp only [length, Nat.pow_eq, Nat.reducePow] at bound
  have value : (toUInt64 bytes).toNat = LittleEndian.decode bytes := by
    simp only [toUInt64, UInt64.toNat_ofNat']
    omega
  rw [ofUInt64, value, ← length, LittleEndian.encode_decode]

theorem ofInt32_toInt32 {bytes : Bytes} (length : bytes.length = 4) :
    ofInt32 (toInt32 bytes) = bytes := by
  simp [ofInt32, toInt32, ofUInt32_toUInt32 length]

theorem ofInt64_toInt64 {bytes : Bytes} (length : bytes.length = 8) :
    ofInt64 (toInt64 bytes) = bytes := by
  simp [ofInt64, toInt64, ofUInt64_toUInt64 length]

def cut? (count : Nat) (bytes : Bytes) : Option (Bytes × Bytes) :=
  if count ≤ bytes.length then some (bytes.take count, bytes.drop count) else none

theorem cut?_append {count : Nat} {front : Bytes} (length : front.length = count) (rest : Bytes) :
    cut? count (front ++ rest) = some (front, rest) := by
  simp [cut?, ← length]

theorem cut?_eq_some {count : Nat} {bytes front rest : Bytes}
    (cut : cut? count bytes = some (front, rest)) :
    bytes = front ++ rest ∧ front.length = count := by
  unfold cut? at cut
  split at cut
  · rename_i enough
    simp only [Option.some.injEq, Prod.mk.injEq] at cut
    rcases cut with ⟨rfl, rfl⟩
    simp [List.take_append_drop, enough]
  · simp at cut

end Bytes

end DocumentProtocol
