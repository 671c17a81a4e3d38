import DocumentProtocol.Message.Reply
import DocumentProtocol.Metrics
import DocumentProtocol.Responder.Builtin

/-!
# Answering requests

A `Service` is what the connections of a server have in common and never change: the responders and
the limits. `SharedState` is what they share and change: the backend, the counters and the number of
the next reply.

`Service.answer` does all there is to do for one message between reading it and writing the reply.
It reads the request, refuses it if one of its documents is above the limit, otherwise has it
answered by the first responder that accepts it, and writes the result or the error document as a
reply. A message that cannot be read, and a reply that cannot be written, are errors of the
connection. A number is drawn for a reply before the reply is written, and only if the client waits
for one.
-/

namespace DocumentProtocol

/-- What the connections of a server have in common. -/
structure Service (Backend : Type) where
  registry : Registry Backend := {}
  maxMessageSize : Nat
  maxDocumentSize : Nat
  /-- How long a connection may wait for a header; zero for ever. -/
  idleTimeout : Nat
  writeTimeout : Nat

def Service.ofConfig {Backend : Type} (config : Config) (registry : Registry Backend) :
    Service Backend where
  registry := registry
  maxMessageSize := config.transport.maxMessageSize
  maxDocumentSize := config.transport.maxDocumentSize
  idleTimeout := config.server.idleTimeout
  writeTimeout := config.server.writeTimeout

/-- What the connections of a server share and change. -/
structure SharedState (Backend : Type) where
  backend : Backend
  metrics : Metrics := {}
  /-- The number of the next reply. -/
  nextReplyId : Int32 := 1

namespace SharedState

variable {Backend : Type}

def count (shared : SharedState Backend) (event : Metrics.Event) : SharedState Backend :=
  { shared with metrics := shared.metrics.record event }

def drawReplyId (shared : SharedState Backend) : Int32 × SharedState Backend :=
  (shared.nextReplyId, { shared with nextReplyId := shared.nextReplyId + 1 })

end SharedState

/-- What the counters count when routing a request fails. -/
def ProtocolError.routingEvent? : ProtocolError → Option Metrics.Event
  | .noMatchingResponder _ => some .unmatchedRequest
  | .handler _ => some .handlerError
  | _ => none

def Request.ofMessage (header : Header) (body : Bytes) : Except ProtocolError Request := do
  let operation ← Operation.ofCode header.opcode
  operation.decode header.requestId body

/-- The document that answers a request: the result, or the error as a document. -/
def answerDocument : Except ProtocolError Document → Except ProtocolError Document
  | .ok document => .ok document
  | .error error =>
      match error.replyDocument? with
      | some document => .ok document
      | none => .error error

namespace Service

variable {Backend : Type}

def route (service : Service Backend) (request : Request) (backend : Backend) :
    Except ProtocolError Document × Backend :=
  if service.maxDocumentSize < request.info.largestDocument then
    (.error (.documentTooLarge request.info.largestDocument service.maxDocumentSize), backend)
  else service.registry.dispatch request.query request.info backend

/-- Routes a request, changing the backend and counting a failure. -/
def routeShared (service : Service Backend) (request : Request) (shared : SharedState Backend) :
    Except ProtocolError Document × SharedState Backend :=
  let (routed, backend) := service.route request shared.backend
  let shared := { shared with backend := backend }
  match routed with
  | .ok document => (.ok document, shared)
  | .error error =>
      match error.routingEvent? with
      | some event => (.error error, shared.count event)
      | none => (.error error, shared)

/-- The reply to a request that has been routed, if the client waits for one. -/
def reply (request : Request) (document : Document) (shared : SharedState Backend) :
    Except ProtocolError (Option Frame) × SharedState Backend :=
  if request.expectsReply then
    let (replyId, shared) := shared.drawReplyId
    (request.operation.replyFrame document request.info.requestId replyId, shared)
  else (.ok none, shared)

def answerRequest (service : Service Backend) (request : Request) (shared : SharedState Backend) :
    Except ProtocolError (Option Frame) × SharedState Backend :=
  let (routed, shared) := service.routeShared request shared
  match answerDocument routed with
  | .ok document => reply request document shared
  | .error error => (.error error, shared)

def answer (service : Service Backend) (header : Header) (body : Bytes)
    (shared : SharedState Backend) : Except ProtocolError (Option Frame) × SharedState Backend :=
  match Request.ofMessage header body with
  | .ok request => service.answerRequest request shared
  | .error error => (.error error, shared)

end Service

end DocumentProtocol
