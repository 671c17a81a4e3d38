import DocumentProtocol.Document.Element

/-!
# Encoding documents

`Document.bytes` writes a document: its length, the bytes of its elements, and a closing zero. An
array is written like a document whose names are the indices of its items. The function is total;
the texts that travel with a terminator, the names and the two parts of a regular expression, must
not hold a zero themselves. `Document.isWritable` says so at every depth, and `Document.encode?`
answers nothing for a document that breaks the rule.

The options of a regular expression are written in the order of their characters.
-/

namespace DocumentProtocol

def Text.sorted (text : String) : String := String.ofList (text.toList.mergeSort (· ≤ ·))

namespace Document

/-- The payload of a text: its length with the terminator, its bytes, the terminator. -/
def textPayload (text : String) : Bytes :=
  Bytes.ofInt32 (Int32.ofNat ((Text.encode text).length + 1)) ++ Text.terminated text

/-- Puts the length before the contents of a document and the closing zero after them. -/
def enclose (contents : Bytes) : Bytes :=
  Bytes.ofInt32 (Int32.ofNat (contents.length + 5)) ++ contents ++ [0]

/-- The payload of binary data; the old subtype 2 repeats the length inside. -/
def binaryPayload (subtype : UInt8) (data : Bytes) : Bytes :=
  let inner := if subtype = 2 then Bytes.ofInt32 (Int32.ofNat data.length) ++ data else data
  Bytes.ofInt32 (Int32.ofNat inner.length) ++ subtype :: inner

/-- The payload of code with its scope: the length of all of it, the code, the scope. -/
def scopedPayload (source : String) (scope : Bytes) : Bytes :=
  let inner := textPayload source ++ scope
  Bytes.ofInt32 (Int32.ofNat (inner.length + 4)) ++ inner

end Document

mutual

/-- The bytes of a value, without the tag of its kind. -/
def Value.payload : Value → Bytes
  | .double bits => Bytes.ofUInt64 bits
  | .string text => Document.textPayload text
  | .document fields => Document.enclose (Value.fieldsBytes fields)
  | .array items => Document.enclose (Value.itemsBytes 0 items)
  | .binary subtype data => Document.binaryPayload subtype data
  | .undefined => []
  | .objectId id => id.bytes
  | .boolean flag => [if flag then 1 else 0]
  | .dateTime milliseconds => Bytes.ofInt64 milliseconds
  | .null => []
  | .regex pattern options => Text.terminated pattern ++ Text.terminated (Text.sorted options)
  | .dbPointer collection id => Document.textPayload collection ++ id.bytes
  | .code source => Document.textPayload source
  | .symbol text => Document.textPayload text
  | .codeWithScope source scope =>
      Document.scopedPayload source (Document.enclose (Value.fieldsBytes scope))
  | .int32 number => Bytes.ofInt32 number
  | .timestamp time increment => Bytes.ofUInt32 increment ++ Bytes.ofUInt32 time
  | .int64 number => Bytes.ofInt64 number
  | .decimal128 digits => digits.bytes
  | .minKey => []
  | .maxKey => []
termination_by structural value => value

def Value.fieldsBytes : List (String × Value) → Bytes
  | [] => []
  | field :: rest => Value.fieldBytes field ++ Value.fieldsBytes rest
termination_by structural fields => fields

def Value.fieldBytes : String × Value → Bytes
  | (key, value) => value.kind.tag :: (Text.terminated key ++ value.payload)
termination_by structural field => field

/-- The elements of an array from an index on. -/
def Value.itemsBytes (index : Nat) : List Value → Bytes
  | [] => []
  | value :: rest =>
      value.kind.tag :: (Text.terminated (toString index) ++ value.payload) ++
        Value.itemsBytes (index + 1) rest
termination_by structural items => items

end

mutual

/-- Whether no terminated text inside a value holds a zero. -/
def Value.isWritable : Value → Bool
  | .document fields => Value.fieldsWritable fields
  | .array items => Value.itemsWritable items
  | .regex pattern options => !Text.holdsZero pattern && !Text.holdsZero options
  | .codeWithScope _ scope => Value.fieldsWritable scope
  | _ => true
termination_by structural value => value

def Value.fieldsWritable : List (String × Value) → Bool
  | [] => true
  | field :: rest => Value.fieldWritable field && Value.fieldsWritable rest
termination_by structural fields => fields

def Value.fieldWritable : String × Value → Bool
  | (key, value) => !Text.holdsZero key && value.isWritable
termination_by structural field => field

def Value.itemsWritable : List Value → Bool
  | [] => true
  | value :: rest => value.isWritable && Value.itemsWritable rest
termination_by structural items => items

end

namespace Document

def bytes (document : Document) : Bytes := enclose (Value.fieldsBytes document)

/-- Whether no terminated text anywhere in a document holds a zero. -/
def isWritable (document : Document) : Bool := Value.fieldsWritable document

def encode? (document : Document) : Option Bytes :=
  if document.isWritable then some document.bytes else none

end Document

end DocumentProtocol
