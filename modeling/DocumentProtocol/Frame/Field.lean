import DocumentProtocol.Error

/-!
# Fields of a body

The body of a message begins with fields of fixed formats: unsigned and signed words, and
terminated text. Each reader here takes one field off the front of some bytes and answers with its
value and the bytes after it. `Field.readAt` reads a field at an offset into a buffer instead and
answers with the offset after it; an offset past the end finds no bytes.
-/

namespace DocumentProtocol

namespace Field

/-- A reader of one field: its value and the bytes after it. -/
abbrev Reader (α : Type) := Bytes → Except ProtocolError (α × Bytes)

def fixed {α : Type} (size : Nat) (value : Bytes → α) : Reader α := fun bytes =>
  match Bytes.cut? size bytes with
  | some (front, rest) => .ok (value front, rest)
  | none => .error (.malformed .truncatedInteger)

def byte : Reader UInt8 := fixed 1 fun bytes => bytes.headD 0

def uint32 : Reader UInt32 := fixed 4 Bytes.toUInt32

def int32 : Reader Int32 := fixed 4 Bytes.toInt32

def int64 : Reader Int64 := fixed 8 Bytes.toInt64

def text : Reader String := fun bytes =>
  match Text.readTerminated bytes with
  | .ok found => .ok found
  | .error .unterminated => .error (.malformed .unterminatedText)
  | .error .notUtf8 => .error (.malformed .invalidText)

/-- Reads a field at an offset into a buffer and answers with the offset after it. -/
def readAt {α : Type} (reader : Reader α) (buffer : Bytes) (offset : Nat) :
    Except ProtocolError (α × Nat) := do
  let (value, rest) ← reader (buffer.drop offset)
  return (value, buffer.length - rest.length)

end Field

end DocumentProtocol
