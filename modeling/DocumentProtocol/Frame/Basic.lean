import DocumentProtocol.Error

/-!
# Frames

A message is a header of four signed words and a body. The first word is the length of the whole
message, header included, so a message without a body has length sixteen. A frame made from a body
carries the body's length in its header; a frame read from bytes carries what the bytes say.

`Header.bodyLength` checks the length field before anything is read for it: below sixteen the header
is invalid, above the limit the message is refused by its size.
-/

namespace DocumentProtocol

/-- The header of a message. -/
structure Header where
  /-- The length of the message, header included. -/
  length : Int32
  requestId : Int32
  responseTo : Int32
  opcode : Int32
  deriving DecidableEq, Repr

namespace Header

def size : Nat := 16

def bytes (header : Header) : Bytes :=
  Bytes.ofInt32 header.length ++ Bytes.ofInt32 header.requestId ++
    Bytes.ofInt32 header.responseTo ++ Bytes.ofInt32 header.opcode

/-- The header that the first sixteen bytes write. -/
def ofBytes (bytes : Bytes) : Header where
  length := Bytes.toInt32 (bytes.take 4)
  requestId := Bytes.toInt32 ((bytes.drop 4).take 4)
  responseTo := Bytes.toInt32 ((bytes.drop 8).take 4)
  opcode := Bytes.toInt32 ((bytes.drop 12).take 4)

def read (bytes : Bytes) : Except ProtocolError Header :=
  if bytes.length < size then .error .invalidHeader else .ok (ofBytes bytes)

/-- The length of the body that a header announces, if the message keeps the limit. -/
def bodyLength (header : Header) (limit : Nat) : Except ProtocolError Nat :=
  if header.length.toInt < size then .error .invalidHeader
  else
    let length := header.length.toInt.toNat
    if limit < length then .error (.oversizedFrame length) else .ok (length - size)

end Header

structure Frame where
  header : Header
  body : Bytes
  deriving DecidableEq, Repr

namespace Frame

def size (frame : Frame) : Nat := Header.size + frame.body.length

def bytes (frame : Frame) : Bytes := frame.header.bytes ++ frame.body

/-- The frame of a body, if its length fits the length field. -/
def make (requestId responseTo opcode : Int32) (body : Bytes) : Except ProtocolError Frame :=
  let length := Header.size + body.length
  if length < Bytes.wordLimit then
    .ok ⟨⟨Int32.ofNat length, requestId, responseTo, opcode⟩, body⟩
  else .error (.oversizedFrame length)

def ofBytes (bytes : Bytes) (limit : Nat) : Except ProtocolError Frame := do
  let header ← Header.read bytes
  let length ← header.bodyLength limit
  if bytes.length ≠ Header.size + length then throw .invalidHeader
  return ⟨header, bytes.drop Header.size⟩

end Frame

end DocumentProtocol
