import DocumentProtocol.Document.Basic

/-!
# Elements

On the wire a document is its own length, its elements, and a closing zero. An element is one byte
for the kind of its value, the terminated name, and the *payload*, the bytes of the value.

The payload does not carry its length in one uniform way: some kinds have a fixed size, some begin
with a length, a regular expression ends with its second zero. `Kind.extent?` finds where the
payload ends from the bytes that begin with it, so that `Element.next?` can cut the first element
off the contents of a document without knowing what the value is. It answers nothing for an unknown
kind, a name without end and a payload that reaches past the contents.
-/

namespace DocumentProtocol

namespace Kind

def tag : Kind → UInt8
  | .double => 0x01
  | .string => 0x02
  | .document => 0x03
  | .array => 0x04
  | .binary => 0x05
  | .undefined => 0x06
  | .objectId => 0x07
  | .boolean => 0x08
  | .dateTime => 0x09
  | .null => 0x0A
  | .regex => 0x0B
  | .dbPointer => 0x0C
  | .code => 0x0D
  | .symbol => 0x0E
  | .codeWithScope => 0x0F
  | .int32 => 0x10
  | .timestamp => 0x11
  | .int64 => 0x12
  | .decimal128 => 0x13
  | .minKey => 0xFF
  | .maxKey => 0x7F

def ofTag? (byte : UInt8) : Option Kind :=
  if byte = 0x01 then some .double
  else if byte = 0x02 then some .string
  else if byte = 0x03 then some .document
  else if byte = 0x04 then some .array
  else if byte = 0x05 then some .binary
  else if byte = 0x06 then some .undefined
  else if byte = 0x07 then some .objectId
  else if byte = 0x08 then some .boolean
  else if byte = 0x09 then some .dateTime
  else if byte = 0x0A then some .null
  else if byte = 0x0B then some .regex
  else if byte = 0x0C then some .dbPointer
  else if byte = 0x0D then some .code
  else if byte = 0x0E then some .symbol
  else if byte = 0x0F then some .codeWithScope
  else if byte = 0x10 then some .int32
  else if byte = 0x11 then some .timestamp
  else if byte = 0x12 then some .int64
  else if byte = 0x13 then some .decimal128
  else if byte = 0xFF then some .minKey
  else if byte = 0x7F then some .maxKey
  else none

@[simp]
theorem ofTag?_tag (kind : Kind) : ofTag? kind.tag = some kind := by
  cases kind <;> decide

/-- The length that a payload begins with, if it is at least `minimum`. -/
def announcedLength? (minimum : Nat) (bytes : Bytes) : Option Nat :=
  (bytes.cut? 4).bind fun (front, _) =>
    let length := (Bytes.toInt32 front).toInt
    if (minimum : Int) ≤ length then some length.toNat else none

/-- The size of the payload that some bytes begin with. -/
def extent? (kind : Kind) (bytes : Bytes) : Option Nat :=
  match kind with
  | .double | .dateTime | .timestamp | .int64 => some 8
  | .int32 => some 4
  | .boolean => some 1
  | .objectId => some 12
  | .decimal128 => some 16
  | .undefined | .null | .minKey | .maxKey => some 0
  | .string | .code | .symbol => (announcedLength? 1 bytes).map (4 + ·)
  | .document | .array => announcedLength? 5 bytes
  | .binary => (announcedLength? 0 bytes).map (5 + ·)
  | .dbPointer => (announcedLength? 1 bytes).map (4 + · + 12)
  | .codeWithScope => announcedLength? 14 bytes
  | .regex =>
      (Text.splitZero? bytes).bind fun (pattern, rest) =>
        (Text.splitZero? rest).map fun (options, _) => pattern.length + 1 + (options.length + 1)

end Kind

/-- One named value of a document, its payload still in bytes. -/
structure Element where
  kind : Kind
  key : String
  payload : Bytes

namespace Element

def bytes (element : Element) : Bytes :=
  element.kind.tag :: (Text.terminated element.key ++ element.payload)

/-- Cuts the first element off the contents of a document. -/
def next? : Bytes → Option (Element × Bytes)
  | [] => none
  | tag :: bytes =>
      match Kind.ofTag? tag, Text.readTerminated bytes with
      | some kind, .ok (key, rest) =>
          match kind.extent? rest with
          | some size => (rest.cut? size).map fun (payload, after) => (⟨kind, key, payload⟩, after)
          | none => none
      | _, _ => none

theorem next?_length {bytes rest : Bytes} {element : Element}
    (next : next? bytes = some (element, rest)) :
    element.payload.length + rest.length < bytes.length := by
  cases bytes with
  | nil => simp [next?] at next
  | cons tag bytes =>
      simp only [next?] at next
      split at next
      · rename_i kind key after _ read
        split at next
        · rename_i size _
          simp only [Option.map_eq_some_iff, Prod.mk.injEq] at next
          rcases next with ⟨⟨payload, tail⟩, cut, rfl, rfl⟩
          have shorter := Text.readTerminated_length_lt read
          have shape := (Bytes.cut?_eq_some cut).1
          simp only [shape, List.length_append, List.length_cons] at shorter ⊢
          omega
        · simp at next
      · simp at next

end Element

end DocumentProtocol
