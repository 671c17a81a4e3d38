import DocumentProtocol.Document.Basic

/-!
# Errors

Every failure that a connection can run into is a cause, and its wording is one function of the
cause. Some causes concern a single request: no responder accepts it, its handler fails, or it
carries a document above the limit. These are answered with an error document, and the connection
goes on. All others end the connection and are never answered.

A handler's failure carries the code and the code name that the client sees.
-/

namespace DocumentProtocol

/-- Why the bytes of a message cannot be read. -/
inductive Malformation where
  | truncatedInteger
  | unterminatedText
  | invalidText
  | truncatedDocument
  | shortDocument
  | missingDocument
  | unknownSection (kind : UInt8)
  | sectionOverrun
  | checksumSize
  | trailingBytes
  /-- A reply announces another number of documents than it carries. -/
  | documentCount (announced : Int32) (carried : Nat)
  /-- A reply answers another request than the one it was awaited for. -/
  | otherRequest (answered sent : Int32)
  | stated (reason : String)
  deriving DecidableEq, Repr

def Malformation.message : Malformation → String
  | .truncatedInteger => "Not enough bytes for an integer field"
  | .unterminatedText => "C-string is missing its NUL terminator"
  | .invalidText => "C-string is not valid UTF-8"
  | .truncatedDocument => "Document length exceeds available bytes"
  | .shortDocument => "Document length below minimum of 5 bytes"
  | .missingDocument => "Message carries no document"
  | .unknownSection kind => s!"Unknown OP_MSG section kind: {kind}"
  | .sectionOverrun => "OP_MSG section runs past the message boundary"
  | .checksumSize => "OP_MSG checksum flag set but 4 checksum bytes are not present"
  | .trailingBytes => "Bytes left over after OP_MSG section parsing"
  | .documentCount announced carried =>
      s!"OP_REPLY announces {announced} documents but carries {carried}"
  | .otherRequest answered sent => s!"reply answers request {answered} but {sent} was sent"
  | .stated reason => reason

/-- The failure of a handler, as the client sees it. -/
structure HandlerError where
  code : Int32
  codeName : String
  message : String
  deriving DecidableEq, Repr

namespace HandlerError

def internal (message : String) : HandlerError := ⟨1, "InternalError", message⟩

def badValue (message : String) : HandlerError := ⟨2, "BadValue", message⟩

def commandNotFound (message : String) : HandlerError := ⟨59, "CommandNotFound", message⟩

def objectTooLarge (size limit : Nat) : HandlerError :=
  ⟨10334, "BSONObjectTooLarge",
    s!"object too large. size in bytes: {size}, max size: {limit}"⟩

def display (error : HandlerError) : String :=
  s!"{error.codeName} ({error.code}): {error.message}"

def toDocument (error : HandlerError) : Document :=
  [("ok", .double 0), ("errmsg", .string error.message), ("code", .int32 error.code),
   ("codeName", .string error.codeName)]

end HandlerError

/-- The causes for which a request or a connection fails. -/
inductive ProtocolError where
  | io
  | document
  | documentEncode
  | connectionClosed
  | cancelled
  | invalidHeader
  | oversizedFrame (size : Nat)
  | malformed (cause : Malformation)
  | unsupportedOpcode (code : Int32)
  | documentTooLarge (size limit : Nat)
  | noMatchingResponder (command : String)
  | handler (error : HandlerError)
  | timeout
  | configuration (reason : String)
  deriving DecidableEq, Repr

namespace ProtocolError

def message : ProtocolError → String
  | .io => "I/O error"
  | .document => "Document decode error"
  | .documentEncode => "Document encode error"
  | .connectionClosed => "Connection closed"
  | .cancelled => "Connection cancelled by server shutdown"
  | .invalidHeader => "Invalid message header"
  | .oversizedFrame size => s!"Message too large: {size} bytes"
  | .malformed cause => s!"Malformed message: {cause.message}"
  | .unsupportedOpcode code => s!"Unsupported opcode: {code}"
  | .documentTooLarge size limit =>
      s!"Document of {size} bytes exceeds the {limit} byte limit"
  | .noMatchingResponder command =>
      "No responder matched query for command '" ++ command ++ "'"
  | .handler error => s!"Handler failed: {error.display}"
  | .timeout => "Timeout occurred"
  | .configuration reason => s!"Configuration error: {reason}"

/-- Whether the error concerns one request, so that the connection can answer it and go on. -/
def isRequestScoped : ProtocolError → Bool
  | .noMatchingResponder _ => true
  | .handler _ => true
  | .documentTooLarge _ _ => true
  | _ => false

/-- Whether the error means that the peer left or was told to leave. -/
def isDisconnect : ProtocolError → Bool
  | .connectionClosed => true
  | .cancelled => true
  | _ => false

/-- The document that answers a request with the error, if the error is answered at all. -/
def replyDocument? : ProtocolError → Option Document
  | .noMatchingResponder command =>
      some (HandlerError.commandNotFound ("no such command: '" ++ command ++ "'")).toDocument
  | .handler error => some error.toDocument
  | .documentTooLarge size limit => some (HandlerError.objectTooLarge size limit).toDocument
  | _ => none

end ProtocolError

inductive StreamFault where
  | endOfStream
  | reset
  | aborted
  | brokenPipe
  | other
  deriving DecidableEq, Repr

/-- The error of a stream fault: the faults of a peer that left close the connection. -/
def StreamFault.toError : StreamFault → ProtocolError
  | .endOfStream => .connectionClosed
  | .reset => .connectionClosed
  | .aborted => .connectionClosed
  | .brokenPipe => .connectionClosed
  | .other => .io

end DocumentProtocol
