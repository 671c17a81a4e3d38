import DocumentProtocol.Message.Request
import DocumentProtocol.Responder.Predicate

/-!
# The registry of responders

A responder pairs a predicate with a handler. The registry keeps responders in the order in which
they were registered, and the first whose predicate accepts a query answers it; a later one is
never asked, not even when the handler fails. Handlers work on a backend: a handler gets the
backend as the requests before it left it, and leaves it to the requests after it.
-/

namespace DocumentProtocol

/-- Computes the answer to a request and the backend after it. -/
abbrev Handler (Backend : Type) :=
  Document → RequestInfo → Backend → Except HandlerError Document × Backend

structure Responder (Backend : Type) where
  name : String
  accepts : Predicate
  handle : Handler Backend

/-- The responders of a server, in order of registration. -/
structure Registry (Backend : Type) where
  responders : List (Responder Backend) := []

namespace Registry

variable {Backend : Type}

def registerNamed (registry : Registry Backend) (name : String) (accepts : Predicate)
    (handle : Handler Backend) : Registry Backend :=
  ⟨registry.responders ++ [⟨name, accepts, handle⟩]⟩

/-- The registry with a responder at its end that is named by its place. -/
def register (registry : Registry Backend) (accepts : Predicate) (handle : Handler Backend) :
    Registry Backend :=
  registry.registerNamed s!"responder-{registry.responders.length}" accepts handle

/-- The first responder that accepts a query. -/
def findMatch (registry : Registry Backend) (query : Document) :
    Except ProtocolError (Responder Backend) :=
  match registry.responders.find? fun responder => responder.accepts query with
  | some responder => .ok responder
  | none => .error (.noMatchingResponder query.commandName)

/-- The answer of the first responder that accepts a query, and the backend after it. -/
def dispatch (registry : Registry Backend) (query : Document) (info : RequestInfo)
    (backend : Backend) : Except ProtocolError Document × Backend :=
  match registry.findMatch query with
  | .error error => (.error error, backend)
  | .ok responder =>
      let (answer, backend) := responder.handle query info backend
      (answer.mapError .handler, backend)

end Registry

end DocumentProtocol
