import DocumentProtocol.Frame.Basic
import DocumentProtocol.Frame.Field
import DocumentProtocol.Message.Request

/-!
# The legacy query

The body holds flags, the full name of a collection, how many documents to skip and to return, and
the query document. A document that selects fields may follow; it is left alone, and so is anything
else after the query.

A name that ends in `.$cmd` makes the query a command.
-/

namespace DocumentProtocol

namespace Query

def commandCollection : String := ".$cmd"

/-- Whether the full name of a collection is that of a collection of commands. -/
def isCommandName (collection : String) : Bool :=
  commandCollection.toList.reverse.isPrefixOf collection.toList.reverse

/-- Reads the body of a legacy query. -/
def decode (requestId : Int32) (body : Bytes) : Except ProtocolError Request := do
  let (flags, rest) ← Field.uint32 body
  let (collection, rest) ← Field.text rest
  let (skip, rest) ← Field.int32 rest
  let (limit, rest) ← Field.int32 rest
  let size ← (Document.announcedSize rest).mapError fun _ => .malformed .missingDocument
  let query ← Document.decode (rest.take size)
  return {
    operation := .query
    query := query
    info := {
      requestId := requestId
      flags := flags
      collection := some collection
      skip := some skip
      limit := some limit
      isCommand := isCommandName collection
      database := Request.databaseOf? collection
      largestDocument := size } }

def body (collection : String) (skip limit : Int32) (query : Document) :
    Except ProtocolError Bytes := do
  let document ← Document.encode query
  return Bytes.ofUInt32 0 ++ Text.terminated collection ++ Bytes.ofInt32 skip ++
    Bytes.ofInt32 limit ++ document

def encode (requestId : Int32) (collection : String) (skip limit : Int32) (query : Document) :
    Except ProtocolError Frame := do
  Frame.make requestId 0 Opcode.query.code (← body collection skip limit query)

end Query

end DocumentProtocol
