/-!
# Metrics

Counters of what happened to the connections of a server. They count modulo `2 ^ 64`, and each event
changes a fixed few of them, so that the order of events does not matter. A connection that is
established is counted twice, among all that there were and among those that are active, and these
are two events: the counters may be read in between.
-/

namespace DocumentProtocol

/-- The counters of a server. -/
structure Metrics where
  connectionsTotal : UInt64 := 0
  connectionsActive : UInt64 := 0
  connectionsRejected : UInt64 := 0
  requestsReceived : UInt64 := 0
  repliesSent : UInt64 := 0
  bytesReceived : UInt64 := 0
  bytesSent : UInt64 := 0
  unmatchedRequests : UInt64 := 0
  handlerErrors : UInt64 := 0
  protocolErrors : UInt64 := 0
  deriving DecidableEq, Repr

namespace Metrics

/-- What the counters count. -/
inductive Event where
  | connectionOpened
  | connectionActivated
  | connectionClosed
  | connectionRejected
  | requestReceived (size : Nat)
  | replySent (size : Nat)
  | unmatchedRequest
  | handlerError
  | protocolError
  deriving DecidableEq, Repr

def record (metrics : Metrics) : Event → Metrics
  | .connectionOpened => { metrics with connectionsTotal := metrics.connectionsTotal + 1 }
  | .connectionActivated => { metrics with connectionsActive := metrics.connectionsActive + 1 }
  | .connectionClosed => { metrics with connectionsActive := metrics.connectionsActive - 1 }
  | .connectionRejected => { metrics with connectionsRejected := metrics.connectionsRejected + 1 }
  | .requestReceived size =>
      { metrics with
        requestsReceived := metrics.requestsReceived + 1
        bytesReceived := metrics.bytesReceived + UInt64.ofNat size }
  | .replySent size =>
      { metrics with
        repliesSent := metrics.repliesSent + 1
        bytesSent := metrics.bytesSent + UInt64.ofNat size }
  | .unmatchedRequest => { metrics with unmatchedRequests := metrics.unmatchedRequests + 1 }
  | .handlerError => { metrics with handlerErrors := metrics.handlerErrors + 1 }
  | .protocolError => { metrics with protocolErrors := metrics.protocolErrors + 1 }

def toList (metrics : Metrics) : List UInt64 :=
  [metrics.connectionsTotal, metrics.connectionsActive, metrics.connectionsRejected,
   metrics.requestsReceived, metrics.repliesSent, metrics.bytesReceived, metrics.bytesSent,
   metrics.unmatchedRequests, metrics.handlerErrors, metrics.protocolErrors]

end Metrics

end DocumentProtocol
