import DocumentProtocol.Message.Insert
import DocumentProtocol.Message.Query
import DocumentProtocol.Message.Section

/-!
# Requests and replies by operation

A request is read by the layout of its operation. It is answered in a format that goes with the
layout: the legacy query by a legacy reply, the sectioned message by a message with one section, the
legacy insert not at all.

A legacy reply holds flags, a cursor, a starting position, the number of its documents, and the
documents. Its reader insists that the number is right.
-/

namespace DocumentProtocol

/-- The body of a legacy reply. -/
structure LegacyReply where
  flags : Int32
  cursorId : Int64
  startingFrom : Int32
  documents : List Document

namespace LegacyReply

def decode (body : Bytes) : Except ProtocolError LegacyReply := do
  let (flags, rest) ← Field.int32 body
  let (cursorId, rest) ← Field.int64 rest
  let (startingFrom, rest) ← Field.int32 rest
  let (announced, rest) ← Field.int32 rest
  let blocks ← Document.decodeAll rest
  if announced.toInt ≠ blocks.length then
    throw (.malformed (.documentCount announced blocks.length))
  return ⟨flags, cursorId, startingFrom, Block.documents blocks⟩

/-- The frame of a legacy reply that carries some documents from the first on. -/
def encode (documents : List Document) (responseTo replyId : Int32) :
    Except ProtocolError Frame := do
  let count := documents.length
  let documents ← Document.encodeAll documents
  if Bytes.wordLimit ≤ count then throw (.oversizedFrame documents.length)
  Frame.make replyId responseTo Opcode.reply.code
    (Bytes.ofInt32 0 ++ Bytes.ofInt64 0 ++ Bytes.ofInt32 0 ++ Bytes.ofInt32 (Int32.ofNat count) ++
      documents)

end LegacyReply

namespace Operation

def decode (operation : Operation) (requestId : Int32) (body : Bytes) :
    Except ProtocolError Request :=
  match operation with
  | .query => Query.decode requestId body
  | .msg => Message.decode requestId body
  | .insert => Insert.decode requestId body

/-- The frame that answers a request with one document, if the operation is answered. -/
def replyFrame (operation : Operation) (result : Document) (responseTo replyId : Int32) :
    Except ProtocolError (Option Frame) :=
  match operation with
  | .query => (LegacyReply.encode [result] responseTo replyId).map some
  | .msg => do
      let body ← Message.body 0 result []
      return some (← Frame.make replyId responseTo Opcode.msg.code body)
  | .insert => .ok none

end Operation

end DocumentProtocol
