import DocumentProtocol.Bytes.Text

/-!
# Texts that hold no zero

A byte of a text is zero only where the character zero stands: all other characters are written
without a zero byte. A text can therefore be checked for zeros by its characters, and the numeral
of an index holds none.
-/

namespace DocumentProtocol

namespace Text

theorem encode_eq_flatMap (text : String) :
    encode text = text.toList.flatMap String.utf8EncodeChar := by
  have bytes : text.toByteArray = text.toList.utf8Encode := by
    rw [← String.toByteArray_ofList, String.ofList_toList]
  rw [encode, bytes, List.utf8Encode, List.toList_data_toByteArray]

theorem zero_mem_utf8EncodeChar_iff (character : Char) :
    0 ∈ String.utf8EncodeChar character ↔ character = '\x00' := by
  have same : character = '\x00' ↔ character.val.toNat = 0 := by
    rw [← Char.val_inj, ← UInt32.toNat_inj]
    rfl
  have zero (number : Nat) : (0 : UInt8) = UInt8.ofNat number ↔ number % 256 = 0 := by
    rw [← UInt8.toNat_inj, UInt8.toNat_ofNat']
    exact eq_comm
  rw [same]
  unfold String.utf8EncodeChar
  dsimp only
  split
  · simp only [List.mem_singleton, zero]
    omega
  · split
    · simp only [List.mem_cons, List.not_mem_nil, or_false, zero]
      omega
    · split
      · simp only [List.mem_cons, List.not_mem_nil, or_false, zero]
        omega
      · simp only [List.mem_cons, List.not_mem_nil, or_false, zero]
        omega

/-- A text holds a zero just when one of its characters is zero. -/
theorem holdsZero_eq_false_iff {text : String} :
    holdsZero text = false ↔ '\x00' ∉ text.toList := by
  simp only [holdsZero, List.contains_eq_mem, decide_eq_false_iff_not, encode_eq_flatMap,
    List.mem_flatMap, zero_mem_utf8EncodeChar_iff, exists_eq_right]

theorem holdsZero_toString (index : Nat) : holdsZero (toString index) = false := by
  rw [holdsZero_eq_false_iff]
  intro mem
  have digits : (toString index).toList = Nat.toDigits 10 index := by
    simp [toString, Nat.repr]
  rw [digits] at mem
  have digit := Nat.isDigit_of_mem_toDigits (by decide) (by decide) mem
  revert digit
  decide

end Text

end DocumentProtocol
