import DocumentProtocol.Proofs.Frame.Segmentation
import DocumentProtocol.Proofs.Message.Reply
import DocumentProtocol.Proofs.Session.Transition

/-!
# What a service makes of a stream

`Service.Serves` says what a client that sends some frames is owed, without connections or pipes:
the replies in order, and the error that the conversation ends with. A frame that holds a request is
resolved to a document, by the first responder that accepts it or by the failure of that one
request, and the document is sent if the client waits for a reply. The first frame that is turned
away, or whose reply cannot be written, is the last one that is looked at.

`Service.transcript` computes the same from the bytes of the stream. `Service.Serves.eq_transcript`
says that the two agree, so that the rules determine what happens, and `Service.exists_serves` that
the rules leave no case open.
-/

namespace DocumentProtocol

variable {Backend : Type}

/-! ### Resolving a request -/

/-- Whether a responder is the first of a registry that accepts a query. -/
def Registry.IsFirst (registry : Registry Backend) (query : Document)
    (responder : Responder Backend) : Prop :=
  responder.accepts query = true ∧
    ∃ before behind, registry.responders = before ++ responder :: behind ∧
      ∀ earlier ∈ before, earlier.accepts query = false

theorem Registry.findMatch_of_isFirst {registry : Registry Backend} {query : Document}
    {responder : Responder Backend} (first : registry.IsFirst query responder) :
    registry.findMatch query = .ok responder := by
  rcases first with ⟨accepts, before, behind, responders_eq, earlier⟩
  have found : registry.responders.find? (fun responder => responder.accepts query) =
      some responder := by
    apply List.find?_eq_some_iff_append.2
    exact ⟨accepts, before, behind, responders_eq, by simpa using earlier⟩
  rw [findMatch, found]

theorem Registry.findMatch_of_none {registry : Registry Backend} {query : Document}
    (none : ∀ responder ∈ registry.responders, responder.accepts query = false) :
    registry.findMatch query = .error (.noMatchingResponder query.commandName) := by
  have missing : registry.responders.find? (fun responder => responder.accepts query) =
      Option.none := by
    apply List.find?_eq_none.2
    simpa using none
  rw [findMatch, missing]

theorem Registry.exists_isFirst_or_none (registry : Registry Backend) (query : Document) :
    (∃ responder, registry.IsFirst query responder) ∨
      ∀ responder ∈ registry.responders, responder.accepts query = false := by
  cases found : registry.responders.find? fun responder => responder.accepts query with
  | none =>
      right
      simpa using List.find?_eq_none.1 found
  | some responder =>
      left
      rcases List.find?_eq_some_iff_append.1 found with ⟨accepts, before, behind, responders_eq,
        earlier⟩
      exact ⟨responder, accepts, before, behind, responders_eq, by simpa using earlier⟩

namespace Service

/-- The document that answers a request, and the backend after the request. -/
inductive Resolves (service : Service Backend) (request : Request) (backend : Backend) :
    Document → Backend → Prop where
  /-- No responder is asked about a request with a document above the limit. -/
  | tooLarge (above : service.maxDocumentSize < request.info.largestDocument) :
      Resolves service request backend
        (HandlerError.objectTooLarge request.info.largestDocument
          service.maxDocumentSize).toDocument
        backend
  | unmatched (within : request.info.largestDocument ≤ service.maxDocumentSize)
      (none : ∀ responder ∈ service.registry.responders, responder.accepts request.query = false) :
      Resolves service request backend
        (HandlerError.commandNotFound
          ("no such command: '" ++ request.commandName ++ "'")).toDocument
        backend
  | handled {responder : Responder Backend} {document : Document} {after : Backend}
      (within : request.info.largestDocument ≤ service.maxDocumentSize)
      (first : service.registry.IsFirst request.query responder)
      (handled : responder.handle request.query request.info backend = (.ok document, after)) :
      Resolves service request backend document after
  | failed {responder : Responder Backend} {failure : HandlerError} {after : Backend}
      (within : request.info.largestDocument ≤ service.maxDocumentSize)
      (first : service.registry.IsFirst request.query responder)
      (failed : responder.handle request.query request.info backend = (.error failure, after)) :
      Resolves service request backend failure.toDocument after

theorem exists_resolves (service : Service Backend) (request : Request) (backend : Backend) :
    ∃ document after, service.Resolves request backend document after := by
  by_cases above : service.maxDocumentSize < request.info.largestDocument
  · exact ⟨_, _, .tooLarge above⟩
  · have within := Nat.not_lt.1 above
    rcases service.registry.exists_isFirst_or_none request.query with ⟨responder, first⟩ | none
    · rcases answered : responder.handle request.query request.info backend with ⟨answer, after⟩
      cases answer with
      | ok document => exact ⟨_, _, .handled within first answered⟩
      | error failure => exact ⟨_, _, .failed within first answered⟩
    · exact ⟨_, _, .unmatched within none⟩

theorem route_within {service : Service Backend} {request : Request}
    (within : request.info.largestDocument ≤ service.maxDocumentSize) (backend : Backend) :
    service.route request backend =
      service.registry.dispatch request.query request.info backend := by
  rw [route, if_neg (Nat.not_lt.2 within)]

/-- Resolving a request is what routing it comes to; failures become documents. -/
theorem route_of_resolves {service : Service Backend} {request : Request}
    {backend after : Backend} {document : Document}
    (resolves : service.Resolves request backend document after) :
    ∃ routed, service.route request backend = (routed, after) ∧
      answerDocument routed = .ok document := by
  cases resolves with
  | tooLarge above => exact ⟨_, if_pos above, rfl⟩
  | unmatched within none =>
      refine ⟨.error (.noMatchingResponder request.query.commandName), ?_, rfl⟩
      rw [route_within within, Registry.dispatch, Registry.findMatch_of_none none]
  | handled within first handled =>
      refine ⟨.ok document, ?_, rfl⟩
      rw [route_within within, Registry.dispatch, Registry.findMatch_of_isFirst first]
      simp only [handled]
      rfl
  | @failed responder failure after within first failed =>
      refine ⟨.error (.handler failure), ?_, rfl⟩
      rw [route_within within, Registry.dispatch, Registry.findMatch_of_isFirst first]
      simp only [failed]
      rfl

theorem routeShared_of_route {service : Service Backend} {request : Request}
    {shared : SharedState Backend} {routed : Except ProtocolError Document} {backend : Backend}
    (route_eq : service.route request shared.backend = (routed, backend)) :
    ∃ after, service.routeShared request shared = (routed, after) ∧ after.backend = backend ∧
      after.nextReplyId = shared.nextReplyId := by
  simp only [routeShared, route_eq]
  cases routed with
  | ok document => exact ⟨_, rfl, rfl, rfl⟩
  | error error =>
      dsimp only
      split
      · exact ⟨_, rfl, rfl, rfl⟩
      · exact ⟨_, rfl, rfl, rfl⟩

/-- Answering a frame is resolving the request that it holds, and replying with the document. -/
theorem answer_of_resolves {service : Service Backend} {frame : Frame} {request : Request}
    {shared : SharedState Backend} {document : Document} {backend between : Backend}
    (carries : frame.Carries request)
    (resolves : service.Resolves request backend document between)
    (backend_eq : shared.backend = backend) :
    ∃ after, service.answer frame.header frame.body shared = reply request document after ∧
      after.backend = between ∧ after.nextReplyId = shared.nextReplyId := by
  subst backend_eq
  rcases route_of_resolves resolves with ⟨routed, route_eq, document_eq⟩
  rcases routeShared_of_route route_eq with ⟨after, shared_eq, between_eq, number_eq⟩
  refine ⟨after, ?_, between_eq, number_eq⟩
  rw [answer, Frame.ofMessage_eq_ok_iff.2 carries]
  simp [answerRequest, shared_eq, document_eq]

end Service

/-! ### What a client is owed -/

namespace Request

/-- Whether the sender of a request waits for a reply. -/
def AwaitsReply (request : Request) : Prop :=
  request.operation = .query ∨ request.operation = .msg ∧ request.info.moreToCome = false

def IsSilent (request : Request) : Prop :=
  request.operation = .insert ∨ request.operation = .msg ∧ request.info.moreToCome = true

theorem awaitsReply_or_isSilent (request : Request) : request.AwaitsReply ∨ request.IsSilent := by
  simp only [AwaitsReply, IsSilent]
  cases request.operation <;> cases request.info.moreToCome <;> simp

theorem expectsReply_of_isSilent {request : Request} (silent : request.IsSilent) :
    request.expectsReply = false := by
  rcases silent with insert | ⟨_, moreToCome⟩
  · simp [expectsReply, insert, Operation.isAnswered]
  · simp [expectsReply, moreToCome]

theorem isAnswered_of_awaitsReply {request : Request} (awaits : request.AwaitsReply) :
    request.operation.isAnswered = true := by
  rcases awaits with query | ⟨msg, _⟩
  · rw [query]
    rfl
  · rw [msg]
    rfl

end Request

theorem Frame.Carries.expectsReply_of_awaitsReply {frame : Frame} {request : Request}
    (carries : frame.Carries request) (awaits : request.AwaitsReply) :
    request.expectsReply = true := by
  have answered := Request.isAnswered_of_awaitsReply awaits
  have clear : request.info.moreToCome = false := by
    rcases awaits with query | ⟨_, clear⟩
    · rcases carries with ⟨operation, _, decoded⟩
      rcases Operation.of_decode decoded with ⟨operation_eq, _, msg⟩
      rw [← operation_eq, query] at msg
      apply Bool.eq_false_iff.2
      intro moreToCome
      cases msg moreToCome
    · exact clear
  rw [Request.expectsReply, answered, clear]
  rfl

namespace Service

section Answer

variable {service : Service Backend} {frame : Frame} {request : Request} {document : Document}
  {backend between : Backend} {shared : SharedState Backend}
  (carries : frame.Carries request)
  (resolves : service.Resolves request backend document between)
  (backend_eq : shared.backend = backend)

include carries resolves backend_eq

theorem answer_of_isSilent (silent : request.IsSilent) :
    ∃ after, service.answer frame.header frame.body shared = (.ok none, after) ∧
      after.backend = between ∧ after.nextReplyId = shared.nextReplyId := by
  rcases answer_of_resolves carries resolves backend_eq with
    ⟨after, answer, between_eq, number_eq⟩
  refine ⟨after, ?_, between_eq, number_eq⟩
  rw [answer, reply, Request.expectsReply_of_isSilent silent]
  rfl

theorem answer_of_awaitsReply (awaits : request.AwaitsReply) :
    ∃ after, service.answer frame.header frame.body shared =
        (request.operation.replyFrame document frame.header.requestId shared.nextReplyId, after) ∧
      after.backend = between ∧ after.nextReplyId = shared.nextReplyId + 1 := by
  rcases answer_of_resolves carries resolves backend_eq with
    ⟨after, answer, between_eq, number_eq⟩
  refine ⟨after.drawReplyId.2, ?_, between_eq, congrArg (· + 1) number_eq⟩
  rw [answer, reply, carries.expectsReply_of_awaitsReply awaits, ← number_eq,
    ← carries.requestId_eq]
  rfl

end Answer

end Service

/-- The error of a stream that has ended behind some leftover. -/
def Frame.Stream.fault (limit : Nat) (leftover : Bytes) : ProtocolError :=
  match ending limit leftover with
  | .error error => error
  | .ok _ => .connectionClosed

theorem Frame.Stream.fault_of_next_error {limit : Nat} {leftover : Bytes} {error : ProtocolError}
    (failed : next limit leftover = .error error) : fault limit leftover = error := by
  rcases next_eq_error_iff.1 failed with ⟨enough, bad⟩
  have other : error ≠ .connectionClosed := by
    rcases Header.bodyLength_error bad with rfl | rfl <;> simp
  rw [fault, (ending_eq_error_iff other).2 ⟨enough, bad⟩]

theorem Frame.Stream.fault_of_next_none {limit : Nat} {leftover : Bytes}
    (missing : next limit leftover = .ok none) : fault limit leftover = .connectionClosed := by
  by_cases empty : leftover = []
  · rw [fault, ending_eq_ok_iff.2 empty]
  · have split : Split limit leftover [] leftover := by
      apply Split.nil_of_next
      simp [missing]
    rw [fault, split.ending_eq_connectionClosed_iff.2 ⟨empty, next_eq_none_iff.1 missing⟩]

/-- Whether the rest of a stream holds no frame in front, and the error it ends with. -/
structure Frame.Stream.Stops (limit : Nat) (rest : Bytes) (error : ProtocolError) : Prop where
  split : Split limit rest [] rest
  error_eq : error = fault limit rest

theorem Frame.Stream.stops_of_next_error {limit : Nat} {rest : Bytes} {error : ProtocolError}
    (failed : next limit rest = .error error) : Stops limit rest error where
  split := .nil_of_next (by simp [failed])
  error_eq := (fault_of_next_error failed).symm

theorem Frame.Stream.stops_of_next_none {limit : Nat} {rest : Bytes}
    (missing : next limit rest = .ok none) : Stops limit rest .connectionClosed where
  split := .nil_of_next (by simp [missing])
  error_eq := (fault_of_next_none missing).symm

theorem Frame.Stream.not_isInterruption_fault (limit : Nat) (leftover : Bytes) :
    ¬(fault limit leftover).IsInterruption := by
  intro interruption
  rw [fault] at interruption
  split at interruption
  · rename_i error ending
    by_cases closed : error = .connectionClosed
    · subst closed
      cases interruption
    · rcases Header.bodyLength_error ((ending_eq_error_iff closed).1 ending).2 with rfl | rfl <;>
        cases interruption
  · cases interruption

namespace Service

/--
What a client is owed that sends some frames and then brings about an error: the replies to the
frames, the error that the conversation ends with, and the backend after it. The number is that of
the next reply.
-/
inductive Serves (service : Service Backend) (fault : ProtocolError) :
    List Frame → Backend → Int32 → List Frame → ProtocolError → Backend → Prop where
  | ended {backend : Backend} {number : Int32} :
      Serves service fault [] backend number [] fault backend
  | refused {frame : Frame} {frames : List Frame} {backend : Backend} {number : Int32}
      {error : ProtocolError} (refuses : frame.Refuses error) :
      Serves service fault (frame :: frames) backend number [] error backend
  | silent {frame : Frame} {frames replies : List Frame} {request : Request} {document : Document}
      {backend between after : Backend} {number : Int32} {error : ProtocolError}
      (carries : frame.Carries request)
      (resolves : service.Resolves request backend document between)
      (silent : request.IsSilent)
      (rest : Serves service fault frames between number replies error after) :
      Serves service fault (frame :: frames) backend number replies error after
  | unwritable {frame : Frame} {frames : List Frame} {request : Request} {document : Document}
      {backend between : Backend} {number : Int32} {error : ProtocolError}
      (carries : frame.Carries request)
      (resolves : service.Resolves request backend document between)
      (awaits : request.AwaitsReply) (cannot : request.CannotReply document error) :
      Serves service fault (frame :: frames) backend number [] error between
  | answered {frame reply : Frame} {frames replies : List Frame} {request : Request}
      {document : Document} {backend between after : Backend} {number : Int32}
      {error : ProtocolError} (carries : frame.Carries request)
      (resolves : service.Resolves request backend document between)
      (awaits : request.AwaitsReply)
      (isReply : request.IsReply document frame.header.requestId number reply)
      (rest : Serves service fault frames between (number + 1) replies error after) :
      Serves service fault (frame :: frames) backend number (reply :: replies) error after

/-- The rules leave no case open. -/
theorem exists_serves (service : Service Backend) (fault : ProtocolError) (frames : List Frame)
    (backend : Backend) (number : Int32) :
    ∃ replies error after, service.Serves fault frames backend number replies error after := by
  induction frames generalizing backend number with
  | nil => exact ⟨_, _, _, .ended⟩
  | cons frame frames ih =>
      rcases frame.carries_or_refuses with ⟨request, carries⟩ | ⟨error, refuses⟩
      · rcases service.exists_resolves request backend with ⟨document, between, resolves⟩
        rcases Request.awaitsReply_or_isSilent request with awaits | silent
        · rcases request.exists_reply_or_cannotReply document frame.header.requestId number with
            ⟨reply, isReply⟩ | ⟨error, cannot⟩
          · rcases ih between (number + 1) with ⟨replies, error, after, rest⟩
            exact ⟨_, _, _, .answered carries resolves awaits isReply rest⟩
          · exact ⟨_, _, _, .unwritable carries resolves awaits cannot⟩
        · rcases ih between number with ⟨replies, error, after, rest⟩
          exact ⟨_, _, _, .silent carries resolves silent rest⟩
      · exact ⟨_, _, _, .refused refuses⟩

/-- A conversation that is left alone does not end with an interruption. -/
theorem Serves.not_isInterruption {service : Service Backend} {fault error : ProtocolError}
    {frames replies : List Frame} {backend after : Backend} {number : Int32}
    (serves : service.Serves fault frames backend number replies error after)
    (calm : ¬fault.IsInterruption) : ¬error.IsInterruption := by
  induction serves with
  | ended => exact calm
  | refused refuses => exact refuses.not_isInterruption
  | silent _ _ _ _ ih => exact ih
  | unwritable _ _ _ cannot => exact cannot.not_isInterruption
  | answered _ _ _ _ _ ih => exact ih

end Service

/-! ### Computing it -/

/-- What comes of a stream: replies, the error it ends with, and what is shared afterwards. -/
structure Transcript (Backend : Type) where
  replies : List Frame := []
  error : ProtocolError
  shared : SharedState Backend

def Transcript.cons (reply : Frame) (transcript : Transcript Backend) : Transcript Backend :=
  { transcript with replies := reply :: transcript.replies }

def Transcript.ofError (error : ProtocolError) (shared : SharedState Backend) :
    Transcript Backend :=
  { error := error, shared := shared.conclude error }

namespace Service

def transcript (service : Service Backend) (stream : Bytes) (shared : SharedState Backend) :
    Transcript Backend :=
  match found : Frame.Stream.next service.maxMessageSize stream with
  | .error error => .ofError error shared
  | .ok none => .ofError .connectionClosed shared
  | .ok (some (frame, rest)) =>
      have := Frame.Stream.next_length found
      let shared := shared.count (.requestReceived frame.header.length.toInt.toNat)
      match service.answer frame.header frame.body shared with
      | (.error error, after) => .ofError error after
      | (.ok none, after) => service.transcript rest after
      | (.ok (some reply), after) =>
          (service.transcript rest (after.count (.replySent reply.size))).cons reply
termination_by stream.length

/-- What comes of a message that has been answered, and of the bytes behind it. -/
def transcriptAfter (service : Service Backend) (rest : Bytes) :
    Except ProtocolError (Option Frame) × SharedState Backend → Transcript Backend
  | (.error error, after) => .ofError error after
  | (.ok none, after) => service.transcript rest after
  | (.ok (some reply), after) =>
      (service.transcript rest (after.count (.replySent reply.size))).cons reply

variable {service : Service Backend} {shared after : SharedState Backend} {stream rest : Bytes}

theorem transcript_of_next_error {error : ProtocolError}
    (failed : Frame.Stream.next service.maxMessageSize stream = .error error) :
    service.transcript stream shared = .ofError error shared := by
  rw [transcript]
  split <;> simp_all

theorem transcript_of_next_none
    (missing : Frame.Stream.next service.maxMessageSize stream = .ok none) :
    service.transcript stream shared = .ofError .connectionClosed shared := by
  rw [transcript]
  split <;> simp_all

variable {frame : Frame} (acceptable : frame.IsAcceptable service.maxMessageSize)

include acceptable

theorem transcript_of_acceptable :
    service.transcript (frame.bytes ++ rest) shared =
      service.transcriptAfter rest (service.answer frame.header frame.body
        (shared.count (.requestReceived frame.header.length.toInt.toNat))) := by
  have next := Frame.Stream.next_eq_some_iff.2 ⟨(rfl : frame.bytes ++ rest = _), acceptable⟩
  rw [transcript]
  split
  · rename_i failed
    simp [next] at failed
  · rename_i missing
    simp [next] at missing
  · rename_i found
    simp only [next, Except.ok.injEq, Option.some.injEq, Prod.mk.injEq] at found
    rcases found with ⟨rfl, rfl⟩
    dsimp only
    split <;> rename_i answer <;> rw [answer] <;> rfl

omit acceptable

theorem transcript_of_split_nil {leftover : Bytes}
    (split : Frame.Split service.maxMessageSize stream [] leftover) :
    service.transcript stream shared =
      .ofError (Frame.Stream.fault service.maxMessageSize leftover) shared := by
  have stream_eq : stream = leftover := by simpa using split.bytes_eq
  subst stream_eq
  cases next : Frame.Stream.next service.maxMessageSize stream with
  | error error => rw [transcript_of_next_error next, Frame.Stream.fault_of_next_error next]
  | ok found =>
      cases found with
      | some found => exact absurd next (split.next_ne_some found)
      | none => rw [transcript_of_next_none next, Frame.Stream.fault_of_next_none next]

/-- The transcript of a stream is what its client is owed. -/
theorem Serves.eq_transcript {leftover : Bytes} {frames replies : List Frame}
    {error : ProtocolError} {backend after : Backend} {number : Int32}
    (serves : service.Serves (Frame.Stream.fault service.maxMessageSize leftover) frames
      backend number replies error after)
    (split : Frame.Split service.maxMessageSize stream frames leftover)
    (backend_eq : shared.backend = backend) (number_eq : shared.nextReplyId = number) :
    (service.transcript stream shared).replies = replies ∧
      (service.transcript stream shared).error = error ∧
      (service.transcript stream shared).shared.backend = after := by
  induction serves generalizing stream shared with
  | ended =>
      rw [transcript_of_split_nil split]
      exact ⟨rfl, rfl, by simp [Transcript.ofError, backend_eq]⟩
  | @refused frame frames backend number error refuses =>
      rcases split.uncons with ⟨rest, rfl, acceptable, _⟩
      have answer : service.answer frame.header frame.body
          (shared.count (.requestReceived frame.header.length.toInt.toNat)) =
            (.error error, shared.count (.requestReceived frame.header.length.toInt.toNat)) := by
        rw [Service.answer, Frame.ofMessage_of_refuses refuses]
      rw [transcript_of_acceptable acceptable, answer]
      exact ⟨rfl, rfl,
        by simp [transcriptAfter, Transcript.ofError, SharedState.count, backend_eq]⟩
  | @silent frame frames replies request document backend between after number error carries
      resolves silent rest ih =>
      rcases split.uncons with ⟨others, rfl, acceptable, split⟩
      have counted : (shared.count (.requestReceived frame.header.length.toInt.toNat)).backend =
          backend := backend_eq
      rcases answer_of_isSilent carries resolves counted silent with
        ⟨next, answer, between_eq, next_number⟩
      rw [transcript_of_acceptable acceptable, answer]
      exact ih split between_eq (next_number.trans number_eq)
  | @unwritable frame frames request document backend between number error carries resolves awaits
      cannot =>
      rcases split.uncons with ⟨others, rfl, acceptable, split⟩
      have counted : (shared.count (.requestReceived frame.header.length.toInt.toNat)).backend =
          backend := backend_eq
      rcases answer_of_awaitsReply carries resolves counted awaits with
        ⟨next, answer, between_eq, _⟩
      have answered := Request.isAnswered_of_awaitsReply awaits
      rw [Request.replyFrame_of_cannotReply answered cannot] at answer
      rw [transcript_of_acceptable acceptable, answer]
      exact ⟨rfl, rfl, by simp [transcriptAfter, Transcript.ofError, between_eq]⟩
  | @answered frame reply frames replies request document backend between after number error carries
      resolves awaits isReply rest ih =>
      rcases split.uncons with ⟨others, rfl, acceptable, split⟩
      have counted : (shared.count (.requestReceived frame.header.length.toInt.toNat)).backend =
          backend := backend_eq
      rcases answer_of_awaitsReply carries resolves counted awaits with
        ⟨next, answer, between_eq, next_number⟩
      have counted_number :
          (shared.count (.requestReceived frame.header.length.toInt.toNat)).nextReplyId = number :=
        number_eq
      rw [counted_number] at answer next_number
      have answered := Request.isAnswered_of_awaitsReply awaits
      rw [Request.replyFrame_of_isReply answered isReply] at answer
      rw [transcript_of_acceptable acceptable, answer]
      have sent_backend : (next.count (.replySent reply.size)).backend = between := between_eq
      have sent_number : (next.count (.replySent reply.size)).nextReplyId = number + 1 :=
        next_number
      rcases ih split sent_backend sent_number with ⟨replies_eq, error_eq, after_eq⟩
      exact ⟨congrArg (reply :: ·) replies_eq, error_eq, after_eq⟩

theorem not_isInterruption_transcript (service : Service Backend) (stream : Bytes)
    (shared : SharedState Backend) :
    ¬(service.transcript stream shared).error.IsInterruption := by
  rcases Frame.exists_split service.maxMessageSize stream with ⟨frames, leftover, split⟩
  rcases service.exists_serves (Frame.Stream.fault service.maxMessageSize leftover) frames
    shared.backend shared.nextReplyId with ⟨replies, error, backend, serves⟩
  rcases serves.eq_transcript split rfl rfl with ⟨_, error_eq, _⟩
  rw [error_eq]
  exact serves.not_isInterruption (Frame.Stream.not_isInterruption_fault _ _)

end Service

end DocumentProtocol
