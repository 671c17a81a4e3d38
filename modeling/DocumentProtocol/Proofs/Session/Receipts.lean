import DocumentProtocol.Proofs.Session.Deeds
import Mathlib.Algebra.GroupWithZero.Nat

/-!
# What comes of a message

A service issues a receipt when the answer in it is what the service makes of the message.
`Service.Treats` lists what this can be: a message is refused, it needs no reply, the reply to it
cannot be written, or it is answered.

The counters of a server follow the deeds of its connections. Each deed counts some events, and a
step of a connection counts those of its deeds and no others (`Connection.Does.metrics_eq`). What is
counted about the routing of a request is told apart by the receipt alone.
-/

namespace DocumentProtocol

variable {Backend : Type}

open Deed

/-! ### Answers -/

namespace Service

/-- Whether a receipt is what a service makes of a message with the backend that it finds. -/
def Issues (service : Service Backend) (receipt : Receipt Backend) : Prop :=
  ∃ shared after : SharedState Backend, shared.backend = receipt.backend ∧
    service.answer receipt.frame.header receipt.frame.body shared = (receipt.answer, after)

variable {service : Service Backend} {receipt : Receipt Backend}

theorem issues_of_answer {header : Header} {body : Bytes} {shared after : SharedState Backend}
    {result : Except ProtocolError (Option Frame)}
    (answer : service.answer header body shared = (result, after)) :
    service.Issues ⟨⟨header, body⟩, shared.backend, result⟩ :=
  ⟨shared, after, rfl, answer⟩

/-- What can come of a message. -/
inductive Treats (service : Service Backend) (receipt : Receipt Backend) : Prop where
  | refused {error : ProtocolError} (refuses : receipt.frame.Refuses error)
      (answer_eq : receipt.answer = .error error) : Treats service receipt
  | silent {request : Request} {document : Document} {after : Backend}
      (carries : receipt.frame.Carries request)
      (resolves : service.Resolves request receipt.backend document after)
      (silent : request.IsSilent) (answer_eq : receipt.answer = .ok none) : Treats service receipt
  | unwritable {request : Request} {document : Document} {after : Backend} {error : ProtocolError}
      (carries : receipt.frame.Carries request)
      (resolves : service.Resolves request receipt.backend document after)
      (awaits : request.AwaitsReply) (cannot : request.CannotReply document error)
      (answer_eq : receipt.answer = .error error) : Treats service receipt
  | answered {request : Request} {document : Document} {after : Backend} {number : Int32}
      {reply : Frame} (carries : receipt.frame.Carries request)
      (resolves : service.Resolves request receipt.backend document after)
      (awaits : request.AwaitsReply)
      (isReply : request.IsReply document receipt.frame.header.requestId number reply)
      (answer_eq : receipt.answer = .ok (some reply)) : Treats service receipt

theorem treats_of_issues (issues : service.Issues receipt) : service.Treats receipt := by
  rcases issues with ⟨shared, after, backend_eq, answer⟩
  rcases receipt.frame.carries_or_refuses with ⟨request, carries⟩ | ⟨error, refuses⟩
  · rcases service.exists_resolves request receipt.backend with ⟨document, between, resolves⟩
    rcases request.awaitsReply_or_isSilent with awaits | silent
    · rcases answer_of_awaitsReply carries resolves backend_eq awaits with ⟨_, found, _, _⟩
      have answered := Request.isAnswered_of_awaitsReply awaits
      have answer_eq := congrArg Prod.fst (answer.symm.trans found)
      rcases request.exists_reply_or_cannotReply document receipt.frame.header.requestId
        shared.nextReplyId with ⟨reply, isReply⟩ | ⟨error, cannot⟩
      · rw [Request.replyFrame_of_isReply answered isReply] at answer_eq
        exact .answered carries resolves awaits isReply answer_eq
      · rw [Request.replyFrame_of_cannotReply answered cannot] at answer_eq
        exact .unwritable carries resolves awaits cannot answer_eq
    · rcases answer_of_isSilent carries resolves backend_eq silent with ⟨_, found, _, _⟩
      exact .silent carries resolves silent (congrArg Prod.fst (answer.symm.trans found))
  · rw [Service.answer, Frame.ofMessage_of_refuses refuses] at answer
    exact .refused refuses (congrArg Prod.fst answer).symm

/-- The error that a message brings about is its own. -/
theorem Issues.not_isInterruption {error : ProtocolError} (issues : service.Issues receipt)
    (answer_eq : receipt.answer = .error error) : ¬error.IsInterruption := by
  cases treats_of_issues issues with
  | refused refuses other =>
      cases answer_eq.symm.trans other
      exact refuses.not_isInterruption
  | unwritable _ _ _ cannot other =>
      cases answer_eq.symm.trans other
      exact cannot.not_isInterruption
  | silent _ _ _ other => cases answer_eq.symm.trans other
  | answered _ _ _ _ other => cases answer_eq.symm.trans other

end Service

/-! ### Counters -/

def routedEvent? : Except ProtocolError Document → Option Metrics.Event
  | .ok _ => none
  | .error error => error.routingEvent?

/-- What is counted about the routing of the request that a message holds. -/
def Service.routing? (service : Service Backend) (receipt : Receipt Backend) :
    Option Metrics.Event :=
  match Request.ofMessage receipt.frame.header receipt.frame.body with
  | .ok request => routedEvent? (service.route request receipt.backend).1
  | .error _ => none

/-- What is counted about a deed. -/
def Deed.events (service : Service Backend) : Deed Backend → List Metrics.Event
  | .read frame => [.requestReceived frame.header.length.toInt.toNat]
  | .answered receipt => (service.routing? receipt).toList
  | .replied size => [.replySent size]
  | .ended (.error error) => (Connection.endingEvent? error).toList
  | _ => []

namespace Metrics

def recordAll (metrics : Metrics) (events : List Event) : Metrics := events.foldl record metrics

@[simp]
theorem recordAll_nil (metrics : Metrics) : metrics.recordAll [] = metrics := rfl

@[simp]
theorem recordAll_cons (metrics : Metrics) (event : Event) (events : List Event) :
    metrics.recordAll (event :: events) = (metrics.record event).recordAll events := rfl

@[simp]
theorem recordAll_append (metrics : Metrics) (first second : List Event) :
    metrics.recordAll (first ++ second) = (metrics.recordAll first).recordAll second :=
  List.foldl_append

end Metrics

theorem SharedState.metrics_conclude (shared : SharedState Backend) (error : ProtocolError) :
    (shared.conclude error).metrics =
      shared.metrics.recordAll (Connection.endingEvent? error).toList := by
  rw [conclude]
  cases Connection.endingEvent? error <;> rfl

theorem Deed.events_ended (service : Service Backend) (error : ProtocolError) :
    events service (.ended (Connection.outcomeOf error)) =
      (Connection.endingEvent? error).toList := by
  cases error <;> rfl

namespace Service

theorem metrics_routeShared (service : Service Backend) (request : Request)
    (shared : SharedState Backend) :
    (service.routeShared request shared).2.metrics = shared.metrics.recordAll
      (routedEvent? (service.route request shared.backend).1).toList := by
  simp only [routeShared]
  rcases service.route request shared.backend with ⟨routed, backend⟩
  cases routed with
  | ok document => rfl
  | error error =>
      simp only [routedEvent?]
      cases error.routingEvent? <;> rfl

theorem metrics_answer (service : Service Backend) (header : Header) (body : Bytes)
    (shared : SharedState Backend) (result : Except ProtocolError (Option Frame)) :
    (service.answer header body shared).2.metrics = shared.metrics.recordAll
      (service.routing? ⟨⟨header, body⟩, shared.backend, result⟩).toList := by
  simp only [answer, routing?]
  cases Request.ofMessage header body with
  | error error => rfl
  | ok request =>
      simp only [answerRequest]
      rw [← metrics_routeShared service request shared]
      rcases service.routeShared request shared with ⟨routed, after⟩
      cases answerDocument routed with
      | error error => rfl
      | ok document =>
          simp only [reply]
          split <;> rfl

end Service

/-- A step counts the events of its deeds. -/
theorem Connection.Does.metrics_eq {service : Service Backend} {now : Nat}
    {connection next : Connection} {shared after : SharedState Backend}
    {deeds : List (Deed Backend)} (does : Does service now connection shared deeds next after) :
    after.metrics = shared.metrics.recordAll (deeds.flatMap (events service)) := by
  have answered {header : Header} {body : Bytes} {result : Except ProtocolError (Option Frame)}
      {between : SharedState Backend}
      (answer : service.answer header body shared = (result, between)) :
      between.metrics = shared.metrics.recordAll
        (events service (.answered ⟨⟨header, body⟩, shared.backend, result⟩)) := by
    have counted := service.metrics_answer header body shared result
    rw [answer] at counted
    exact counted
  cases does with
  | ends _ =>
      rw [SharedState.metrics_conclude, List.flatMap_cons, events_ended]
      simp
  | takesIn _ _ _ _ => rfl
  | reads _ => rfl
  | refuses _ answer =>
      rw [SharedState.metrics_conclude, answered answer, List.flatMap_cons, List.flatMap_cons,
        events_ended]
      simp
  | passes _ answer => simpa using answered answer
  | answers _ answer => simpa using answered answer
  | writes _ _ _ _ => rfl
  | finishes _ _ _ => rfl

/-! ### Requests that nothing comes of -/

namespace Service

/-- Whether a message holds a request within the limit that no responder accepts. -/
def IsUnmatched (service : Service Backend) (receipt : Receipt Backend) : Prop :=
  ∃ request, receipt.frame.Carries request ∧
    request.info.largestDocument ≤ service.maxDocumentSize ∧
    ∀ responder ∈ service.registry.responders, responder.accepts request.query = false

/-- Whether a message holds a request within the limit whose handler fails. -/
def IsFailed (service : Service Backend) (receipt : Receipt Backend) : Prop :=
  ∃ request responder failure after, receipt.frame.Carries request ∧
    request.info.largestDocument ≤ service.maxDocumentSize ∧
    service.registry.IsFirst request.query responder ∧
    responder.handle request.query request.info receipt.backend = (.error failure, after)

variable {service : Service Backend} {receipt : Receipt Backend} {request : Request}

theorem routing?_of_carries (carries : receipt.frame.Carries request)
    (within : request.info.largestDocument ≤ service.maxDocumentSize) :
    service.routing? receipt =
      routedEvent? (service.registry.dispatch request.query request.info receipt.backend).1 := by
  rw [routing?, Frame.ofMessage_eq_ok_iff.2 carries]
  simp only [route_within within]

theorem routing?_of_isUnmatched (unmatched : service.IsUnmatched receipt) :
    service.routing? receipt = some .unmatchedRequest := by
  rcases unmatched with ⟨request, carries, within, none⟩
  rw [routing?_of_carries carries within, Registry.dispatch, Registry.findMatch_of_none none]
  rfl

theorem routing?_of_isFailed (failed : service.IsFailed receipt) :
    service.routing? receipt = some .handlerError := by
  rcases failed with ⟨request, responder, failure, after, carries, within, first, failed⟩
  rw [routing?_of_carries carries within, Registry.dispatch, Registry.findMatch_of_isFirst first]
  simp only [failed]
  rfl

/-- What is counted about the routing of a request is that nothing comes of it, and why. -/
theorem routing?_cases (service : Service Backend) (receipt : Receipt Backend) :
    service.routing? receipt = none ∨
      service.routing? receipt = some .unmatchedRequest ∧ service.IsUnmatched receipt ∨
      service.routing? receipt = some .handlerError ∧ service.IsFailed receipt := by
  rcases receipt.frame.carries_or_refuses with ⟨request, carries⟩ | ⟨error, refuses⟩
  · by_cases within : request.info.largestDocument ≤ service.maxDocumentSize
    · rcases service.registry.exists_isFirst_or_none request.query with ⟨responder, first⟩ | none
      · rcases answered : responder.handle request.query request.info receipt.backend with
          ⟨answer, after⟩
        cases answer with
        | ok document =>
            left
            rw [routing?_of_carries carries within, Registry.dispatch,
              Registry.findMatch_of_isFirst first]
            simp only [answered]
            rfl
        | error failure =>
            have failed : service.IsFailed receipt :=
              ⟨request, responder, failure, after, carries, within, first, answered⟩
            exact .inr (.inr ⟨routing?_of_isFailed failed, failed⟩)
      · have unmatched : service.IsUnmatched receipt := ⟨request, carries, within, none⟩
        exact .inr (.inl ⟨routing?_of_isUnmatched unmatched, unmatched⟩)
    · left
      rw [routing?, Frame.ofMessage_eq_ok_iff.2 carries]
      simp only [route, if_pos (Nat.not_le.1 within)]
      rfl
  · left
    rw [routing?, Frame.ofMessage_of_refuses refuses]

theorem routing?_eq_unmatchedRequest_iff :
    service.routing? receipt = some .unmatchedRequest ↔ service.IsUnmatched receipt := by
  refine ⟨?_, routing?_of_isUnmatched⟩
  intro counted
  rcases service.routing?_cases receipt with other | ⟨_, unmatched⟩ | ⟨other, _⟩
  · cases counted.symm.trans other
  · exact unmatched
  · cases counted.symm.trans other

theorem routing?_eq_handlerError_iff :
    service.routing? receipt = some .handlerError ↔ service.IsFailed receipt := by
  refine ⟨?_, routing?_of_isFailed⟩
  intro counted
  rcases service.routing?_cases receipt with other | ⟨other, _⟩ | ⟨_, failed⟩
  · cases counted.symm.trans other
  · cases counted.symm.trans other
  · exact failed

instance (service : Service Backend) : DecidablePred service.IsUnmatched := fun _ =>
  decidable_of_iff _ routing?_eq_unmatchedRequest_iff

instance (service : Service Backend) : DecidablePred service.IsFailed := fun _ =>
  decidable_of_iff _ routing?_eq_handlerError_iff

end Service

/-! ### The weight of a log -/

/-- Whether an outcome is an error that is counted. -/
def Connection.IsFault : Except ProtocolError Unit → Prop
  | .ok _ => False
  | .error error => error ≠ .connectionClosed ∧ error ≠ .cancelled ∧ error ≠ .timeout

instance : DecidablePred Connection.IsFault
  | .ok _ => inferInstanceAs (Decidable False)
  | .error error => inferInstanceAs (Decidable (error ≠ .connectionClosed ∧ _))

section Weight

variable (service : Service Backend) (weight : Metrics.Event → Nat)

theorem Deed.weight_answered (receipt : Receipt Backend) :
    ((events service (.answered receipt)).map weight).sum =
      (if service.IsUnmatched receipt then weight .unmatchedRequest else 0) +
        (if service.IsFailed receipt then weight .handlerError else 0) := by
  simp only [← Service.routing?_eq_unmatchedRequest_iff, ← Service.routing?_eq_handlerError_iff]
  rcases service.routing?_cases receipt with counted | ⟨counted, _⟩ | ⟨counted, _⟩ <;>
    simp [events, counted]

theorem Deed.weight_ended (outcome : Except ProtocolError Unit) :
    ((events service (.ended outcome)).map weight).sum =
      if Connection.IsFault outcome then weight .protocolError else 0 := by
  cases outcome with
  | ok _ => simp [events, Connection.IsFault]
  | error error =>
      cases error <;> simp [events, Connection.endingEvent?, Connection.IsFault]

/-- What all events of a log weigh together, by the kinds of deeds that they belong to. -/
theorem Deed.weight_eq (deeds : List (Deed Backend)) :
    ((deeds.flatMap (events service)).map weight).sum =
      ((frames deeds).map fun frame =>
        weight (.requestReceived frame.header.length.toInt.toNat)).sum +
      ((sizes deeds).map fun size => weight (.replySent size)).sum +
      (receipts deeds).countP (fun receipt => service.IsUnmatched receipt) *
        weight .unmatchedRequest +
      (receipts deeds).countP (fun receipt => service.IsFailed receipt) * weight .handlerError +
      (outcomes deeds).countP (fun outcome => Connection.IsFault outcome) *
        weight .protocolError := by
  induction deeds with
  | nil => simp
  | cons deed deeds ih =>
      rw [List.flatMap_cons, List.map_append, List.sum_append, ih]
      cases deed with
      | read frame =>
          simp [events]
          omega
      | answered receipt =>
          rw [weight_answered]
          simp [List.countP_cons]
          split <;> split <;> simp only [Nat.add_mul, Nat.one_mul, Nat.zero_mul] <;> omega
      | replied size =>
          simp [events]
          omega
      | ended outcome =>
          rw [weight_ended]
          simp [List.countP_cons]
          split <;> simp only [Nat.add_mul, Nat.one_mul, Nat.zero_mul] <;> omega
      | _ => simp [events]

end Weight

namespace Metrics

/-- Whether a counter counts events by some weight, and connections not at all. -/
structure Counts (counter : Metrics → UInt64) (weight : Event → Nat) : Prop where
  record_eq : ∀ metrics event,
    counter (metrics.record event) = counter metrics + UInt64.ofNat (weight event)
  initial_eq : counter {} = 0
  opened_eq : weight .connectionOpened = 0
  activated_eq : weight .connectionActivated = 0
  closed_eq : weight .connectionClosed = 0
  rejected_eq : weight .connectionRejected = 0

/-- What holds of a counter for one event holds of it for many. -/
theorem Counts.recordAll_eq {counter : Metrics → UInt64} {weight : Event → Nat}
    (counts : Counts counter weight) (metrics : Metrics) (events : List Event) :
    counter (metrics.recordAll events) =
      counter metrics + UInt64.ofNat (events.map weight).sum := by
  induction events generalizing metrics with
  | nil => simp
  | cons event events ih =>
      rw [recordAll_cons, ih, counts.record_eq, List.map_cons, List.sum_cons, UInt64.ofNat_add,
        UInt64.add_assoc]

namespace Event

def arrivals : Event → Nat
  | .requestReceived _ => 1
  | _ => 0

def arrivedBytes : Event → Nat
  | .requestReceived size => size
  | _ => 0

def departures : Event → Nat
  | .replySent _ => 1
  | _ => 0

def departedBytes : Event → Nat
  | .replySent size => size
  | _ => 0

def misses : Event → Nat
  | .unmatchedRequest => 1
  | _ => 0

def failures : Event → Nat
  | .handlerError => 1
  | _ => 0

def faults : Event → Nat
  | .protocolError => 1
  | _ => 0

end Event

/-- The counters of events after one more event, each higher by the weight of the event. -/
structure Moves (metrics : Metrics) (event : Event) (after : Metrics) : Prop where
  requestsReceived : after.requestsReceived = metrics.requestsReceived + UInt64.ofNat event.arrivals
  bytesReceived : after.bytesReceived = metrics.bytesReceived + UInt64.ofNat event.arrivedBytes
  repliesSent : after.repliesSent = metrics.repliesSent + UInt64.ofNat event.departures
  bytesSent : after.bytesSent = metrics.bytesSent + UInt64.ofNat event.departedBytes
  unmatchedRequests :
    after.unmatchedRequests = metrics.unmatchedRequests + UInt64.ofNat event.misses
  handlerErrors : after.handlerErrors = metrics.handlerErrors + UInt64.ofNat event.failures
  protocolErrors : after.protocolErrors = metrics.protocolErrors + UInt64.ofNat event.faults

theorem moves_record (metrics : Metrics) (event : Event) :
    metrics.Moves event (metrics.record event) := by
  cases event <;>
    constructor <;>
      simp [record, Event.arrivals, Event.arrivedBytes, Event.departures, Event.departedBytes,
        Event.misses, Event.failures, Event.faults]

theorem counts_arrivals : Counts Metrics.requestsReceived Event.arrivals where
  record_eq metrics event := (moves_record metrics event).requestsReceived
  initial_eq := rfl
  opened_eq := rfl
  activated_eq := rfl
  closed_eq := rfl
  rejected_eq := rfl

theorem counts_arrivedBytes : Counts Metrics.bytesReceived Event.arrivedBytes where
  record_eq metrics event := (moves_record metrics event).bytesReceived
  initial_eq := rfl
  opened_eq := rfl
  activated_eq := rfl
  closed_eq := rfl
  rejected_eq := rfl

theorem counts_departures : Counts Metrics.repliesSent Event.departures where
  record_eq metrics event := (moves_record metrics event).repliesSent
  initial_eq := rfl
  opened_eq := rfl
  activated_eq := rfl
  closed_eq := rfl
  rejected_eq := rfl

theorem counts_departedBytes : Counts Metrics.bytesSent Event.departedBytes where
  record_eq metrics event := (moves_record metrics event).bytesSent
  initial_eq := rfl
  opened_eq := rfl
  activated_eq := rfl
  closed_eq := rfl
  rejected_eq := rfl

theorem counts_misses : Counts Metrics.unmatchedRequests Event.misses where
  record_eq metrics event := (moves_record metrics event).unmatchedRequests
  initial_eq := rfl
  opened_eq := rfl
  activated_eq := rfl
  closed_eq := rfl
  rejected_eq := rfl

theorem counts_failures : Counts Metrics.handlerErrors Event.failures where
  record_eq metrics event := (moves_record metrics event).handlerErrors
  initial_eq := rfl
  opened_eq := rfl
  activated_eq := rfl
  closed_eq := rfl
  rejected_eq := rfl

theorem counts_faults : Counts Metrics.protocolErrors Event.faults where
  record_eq metrics event := (moves_record metrics event).protocolErrors
  initial_eq := rfl
  opened_eq := rfl
  activated_eq := rfl
  closed_eq := rfl
  rejected_eq := rfl

end Metrics

/-- A step counts no error of the protocol unless the connection ends with one. -/
theorem Connection.Does.protocolErrors_eq {service : Service Backend} {now : Nat}
    {connection next : Connection} {shared after : SharedState Backend}
    {deeds : List (Deed Backend)} (does : Does service now connection shared deeds next after)
    (harmless : ∀ outcome, next.phase = .closed outcome → ¬IsFault outcome) :
    after.metrics.protocolErrors = shared.metrics.protocolErrors := by
  have uncounted : (outcomes deeds).countP (fun outcome => IsFault outcome) = 0 := by
    rw [does.outcomes_eq, List.countP_eq_zero]
    intro outcome mem
    cases phase_eq : next.phase with
    | closed last =>
        simp only [phase_eq, Phase.outcome?, Option.mem_toList] at mem
        cases mem
        simpa using harmless _ phase_eq
    | _ => simp [phase_eq, Phase.outcome?] at mem
  rw [does.metrics_eq, Metrics.counts_faults.recordAll_eq, weight_eq, uncounted]
  simp [Metrics.Event.faults, List.map_const']

end DocumentProtocol
