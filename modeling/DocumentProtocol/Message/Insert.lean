import DocumentProtocol.Frame.Basic
import DocumentProtocol.Frame.Field
import DocumentProtocol.Message.Request

/-!
# The legacy insert

The body holds flags, the full name of a collection, and at least one document. The first document
is the query of the request; the others go with it. A legacy insert is never answered.
-/

namespace DocumentProtocol

namespace Insert

/-- Reads the body of a legacy insert. -/
def decode (requestId : Int32) (body : Bytes) : Except ProtocolError Request := do
  let (flags, rest) ← Field.uint32 body
  let (collection, rest) ← Field.text rest
  match ← Document.decodeAll rest with
  | [] => throw (.malformed .missingDocument)
  | first :: others =>
      return {
        operation := .insert
        query := first.document
        info := {
          requestId := requestId
          flags := flags
          collection := some collection
          database := Request.databaseOf? collection
          extraDocuments := Block.documents others
          largestDocument := Block.largest (first :: others) } }

def body (flags : UInt32) (collection : String) (documents : List Document) :
    Except ProtocolError Bytes := do
  let documents ← Document.encodeAll documents
  return Bytes.ofUInt32 flags ++ Text.terminated collection ++ documents

def encode (requestId : Int32) (flags : UInt32) (collection : String)
    (documents : List Document) : Except ProtocolError Frame := do
  Frame.make requestId 0 Opcode.insert.code (← body flags collection documents)

end Insert

end DocumentProtocol
