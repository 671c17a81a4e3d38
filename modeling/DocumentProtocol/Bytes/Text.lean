import DocumentProtocol.Bytes.LittleEndian

/-!
# Text as bytes

Text travels as UTF-8. `Text.encode` gives the bytes of a text and `Text.decode?` the text of some
bytes, refusing whatever is not well-formed UTF-8; each undoes the other.

Names travel as *terminated* text: the bytes of the text followed by a zero byte. A reader takes
the bytes up to the first zero, so a text that itself holds a zero byte does not come back whole.
Reading distinguishes a missing terminator from bytes that are not text.
-/

namespace DocumentProtocol

namespace Text

def encode (text : String) : Bytes := text.toByteArray.data.toList

def decode? (bytes : Bytes) : Option String := String.fromUTF8? ⟨bytes.toArray⟩

@[simp]
theorem decode?_encode (text : String) : decode? (encode text) = some text := by
  have same : (⟨text.toByteArray.data.toList.toArray⟩ : ByteArray) = text.toByteArray := by simp
  rw [decode?, encode, same, String.fromUTF8?, dif_pos text.isValidUTF8]
  rfl

theorem encode_of_decode? {bytes : Bytes} {text : String} (decoded : decode? bytes = some text) :
    encode text = bytes := by
  unfold decode? String.fromUTF8? at decoded
  split at decoded
  · simp only [Option.some.injEq] at decoded
    subst decoded
    simp [encode, String.fromUTF8]
  · simp at decoded

/-- Whether the bytes of a text hold a zero, which would end it early on the wire. -/
def holdsZero (text : String) : Bool := (encode text).contains 0

/-- The bytes of a text followed by the terminating zero. -/
def terminated (text : String) : Bytes := encode text ++ [0]

@[simp]
theorem length_terminated (text : String) :
    (terminated text).length = (encode text).length + 1 := by
  simp [terminated]

inductive Fault where
  | unterminated
  | notUtf8
  deriving DecidableEq, Repr

/-- Splits bytes at the first zero, which belongs to neither part. -/
def splitZero? : Bytes → Option (Bytes × Bytes)
  | [] => none
  | byte :: rest =>
      if byte = 0 then some ([], rest)
      else (splitZero? rest).map fun (front, after) => (byte :: front, after)

theorem splitZero?_append {front : Bytes} (free : 0 ∉ front) (rest : Bytes) :
    splitZero? (front ++ 0 :: rest) = some (front, rest) := by
  induction front with
  | nil => simp [splitZero?]
  | cons byte front ih =>
      simp only [List.mem_cons, not_or] at free
      have nonzero : ¬byte = 0 := fun equal => free.1 equal.symm
      simp [splitZero?, nonzero, ih free.2]

theorem splitZero?_eq_some {bytes front rest : Bytes}
    (split : splitZero? bytes = some (front, rest)) :
    bytes = front ++ 0 :: rest ∧ 0 ∉ front := by
  induction bytes generalizing front with
  | nil => simp [splitZero?] at split
  | cons byte bytes ih =>
      rw [splitZero?] at split
      by_cases zero : byte = 0
      · simp only [zero, ↓reduceIte, Option.some.injEq, Prod.mk.injEq] at split
        rcases split with ⟨rfl, rfl⟩
        simp [zero]
      · simp only [zero, ↓reduceIte, Option.map_eq_some_iff, Prod.mk.injEq] at split
        rcases split with ⟨⟨inner, after⟩, found, rfl, rfl⟩
        rcases ih found with ⟨rfl, free⟩
        refine ⟨rfl, ?_⟩
        simp only [List.mem_cons, not_or]
        exact ⟨fun equal => zero equal.symm, free⟩

def readTerminated (bytes : Bytes) : Except Fault (String × Bytes) :=
  match splitZero? bytes with
  | none => .error .unterminated
  | some (front, rest) =>
      match decode? front with
      | none => .error .notUtf8
      | some text => .ok (text, rest)

theorem readTerminated_terminated {text : String} (free : holdsZero text = false) (rest : Bytes) :
    readTerminated (terminated text ++ rest) = .ok (text, rest) := by
  have absent : 0 ∉ encode text := by simpa [holdsZero] using free
  have shape : terminated text ++ rest = encode text ++ 0 :: rest := by simp [terminated]
  rw [shape, readTerminated, splitZero?_append absent]
  simp

theorem readTerminated_eq_ok {bytes rest : Bytes} {text : String}
    (read : readTerminated bytes = .ok (text, rest)) :
    bytes = terminated text ++ rest ∧ holdsZero text = false := by
  unfold readTerminated at read
  split at read
  · simp at read
  · rename_i front after split
    split at read
    · simp at read
    · rename_i decoded
      simp only [Except.ok.injEq, Prod.mk.injEq] at read
      rcases read with ⟨rfl, rfl⟩
      rcases splitZero?_eq_some split with ⟨rfl, free⟩
      have spelled := encode_of_decode? decoded
      refine ⟨?_, ?_⟩
      · simp [terminated, spelled]
      · simpa [holdsZero, spelled] using free

theorem readTerminated_length_lt {bytes rest : Bytes} {text : String}
    (read : readTerminated bytes = .ok (text, rest)) : rest.length < bytes.length := by
  rw [(readTerminated_eq_ok read).1]
  simp

end Text

end DocumentProtocol
