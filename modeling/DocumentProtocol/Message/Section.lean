import DocumentProtocol.Frame.Basic
import DocumentProtocol.Frame.Field
import DocumentProtocol.Message.Request

/-!
# The sectioned message

The body holds flags, a run of sections, and a checksum of four bytes if the first flag is set. A
section of kind 0 is one document whose fields join the query. A section of kind 1 is a document
sequence: its size, its identifier and its documents, which join the query as an array under the
identifier. The size counts itself, the identifier and the documents, but not the byte of the kind.

Sections are found by position. The first begins behind the flags, each begins where the one before
it ended, and the last must end at the *boundary*, which is the end of the body or, with a checksum,
four bytes before it. `Message.scan` walks from a position to the boundary; what lies behind the
position it stops at is then compared with what the flags promise.
-/

namespace DocumentProtocol

/-- A section of a message. -/
inductive Section where
  /-- Fields of the query. -/
  | body (block : Block)
  /-- Documents under an identifier. -/
  | sequence (identifier : String) (blocks : List Block)

namespace Section

def bodyKind : UInt8 := 0

def sequenceKind : UInt8 := 1

/-- The query with a section joined to it. -/
def joinTo (query : Document) : Section → Document
  | .body block => query.insertAll block.document
  | .sequence identifier blocks =>
      query.insert identifier (.array ((Block.documents blocks).map .document))

def identifier? : Section → Option String
  | .body _ => none
  | .sequence identifier _ => some identifier

def largest : Section → Nat
  | .body block => block.size
  | .sequence _ blocks => Block.largest blocks

/-- Reads a section with fields of the query, and the number of bytes it takes behind its kind. -/
def readBody (bytes : Bytes) : Except ProtocolError (Section × Nat) := do
  let size ← (Document.announcedSize bytes).mapError fun _ => .malformed .sectionOverrun
  let document ← Document.decode (bytes.take size)
  return (.body ⟨document, size⟩, size)

def sequenceSize (bytes : Bytes) : Except ProtocolError Nat :=
  match Field.int32 bytes with
  | .error _ => .error (.malformed .sectionOverrun)
  | .ok (size, _) =>
      if 5 ≤ size.toInt ∧ size.toInt ≤ bytes.length then .ok size.toInt.toNat
      else .error (.malformed .sectionOverrun)

def readSequence (bytes : Bytes) : Except ProtocolError (Section × Nat) := do
  let size ← sequenceSize bytes
  let (identifier, rest) ← Field.text ((bytes.take size).drop 4)
  let blocks ← Document.decodeAll rest
  return (.sequence identifier blocks, size)

def read (kind : UInt8) (bytes : Bytes) : Except ProtocolError (Section × Nat) :=
  if kind = bodyKind then readBody bytes
  else if kind = sequenceKind then readSequence bytes
  else .error (.malformed (.unknownSection kind))

end Section

namespace Message

/-- The flag of a message that ends with a checksum. -/
def checksumFlag : UInt32 := 1

def moreToComeFlag : UInt32 := 2

def checksumSize : Nat := 4

def databaseKey : String := "$db"

/-- The sections from a position up to the boundary, and the position behind the last of them. -/
def scan (boundary : Nat) (body : Bytes) (position : Nat) :
    Except ProtocolError (List Section × Nat) :=
  if position < boundary then do
    let (kind, rest) ← Field.byte (body.drop position)
    let (first, size) ← Section.read kind (rest.take (boundary - (position + 1)))
    let (others, stop) ← scan boundary body (position + 1 + size)
    return (first :: others, stop)
  else .ok ([], position)
termination_by boundary - position

/-- Where the sections of a body end. -/
def boundary (flags : UInt32) (body : Bytes) : Except ProtocolError Nat :=
  if flags &&& checksumFlag = 0 then .ok body.length
  else if body.length < 4 + checksumSize then .error (.malformed .checksumSize)
  else .ok (body.length - checksumSize)

/-- What follows the sections of a body: the checksum that the flags promise, or nothing. -/
def trailer (flags : UInt32) (body : Bytes) (position : Nat) :
    Except ProtocolError (Option UInt32) :=
  let remaining := body.length - position
  if flags &&& checksumFlag = 0 then
    if remaining ≠ 0 then .error (.malformed .trailingBytes) else .ok none
  else if remaining ≠ checksumSize then .error (.malformed .checksumSize)
  else (Field.uint32 (body.drop position)).map fun (checksum, _) => some checksum

def query (sections : List Section) : Document := sections.foldl Section.joinTo []

/-- Reads the body of a sectioned message. -/
def decode (requestId : Int32) (body : Bytes) : Except ProtocolError Request := do
  let (flags, _) ← Field.uint32 body
  let boundary ← boundary flags body
  let (sections, stop) ← scan boundary body 4
  let checksum ← trailer flags body stop
  let query := query sections
  return {
    operation := .msg
    query := query
    info := {
      requestId := requestId
      flags := flags
      database := (query.find? databaseKey).bind Value.text?
      sequenceIds := sections.filterMap Section.identifier?
      checksum := checksum
      moreToCome := flags &&& moreToComeFlag ≠ 0
      largestDocument := (sections.map Section.largest).foldl max 0 } }

structure DocumentSequence where
  identifier : String
  documents : List Document

def sequenceBytes (sequence : DocumentSequence) : Except ProtocolError Bytes := do
  let documents ← Document.encodeAll sequence.documents
  let size := 4 + (Text.terminated sequence.identifier).length + documents.length
  if Bytes.wordLimit ≤ size then throw (.oversizedFrame size)
  return Section.sequenceKind ::
    (Bytes.ofInt32 (Int32.ofNat size) ++ Text.terminated sequence.identifier ++ documents)

def sequencesBytes : List DocumentSequence → Except ProtocolError Bytes
  | [] => .ok []
  | sequence :: rest => do return (← sequenceBytes sequence) ++ (← sequencesBytes rest)

def body (flags : UInt32) (document : Document) (sequences : List DocumentSequence) :
    Except ProtocolError Bytes := do
  let document ← Document.encode document
  let sequences ← sequencesBytes sequences
  return Bytes.ofUInt32 (flags &&& ~~~checksumFlag) ++ Section.bodyKind :: document ++ sequences

/-- The frame of a sectioned message. It carries no checksum, whatever the flags say. -/
def encode (requestId : Int32) (flags : UInt32) (document : Document)
    (sequences : List DocumentSequence) : Except ProtocolError Frame := do
  Frame.make requestId 0 Opcode.msg.code (← body flags document sequences)

end Message

end DocumentProtocol
