import DocumentProtocol.Proofs.Session.Gate

/-!
# Requests that fail

A request that has been read can still fail: one of its documents is above the limit, no responder
accepts its query, or the handler that was called fails. `Service.Fails` lists these cases, each
with the error and with what the client is told, which is always the failure of a handler.

The main statement is that this is all that can go wrong with such a request. The errors of the list
are the ones that are answered, and no others are; the error document can be written whatever texts
it holds, as long as the length of the reply fits its header; the client reads it as it was meant;
and the connection goes on to the next request.
-/

namespace DocumentProtocol

variable {Backend : Type}

/-- The errors that are answered are those that concern one request. -/
theorem ProtocolError.isSome_replyDocument? (error : ProtocolError) :
    error.replyDocument?.isSome = error.isRequestScoped := by
  cases error <;> rfl

/-! ### Failures -/

namespace Service

/-- A request fails with an error, and the client is told of a failure. -/
inductive Fails (service : Service Backend) (request : Request) (backend : Backend) :
    ProtocolError → HandlerError → Prop where
  | tooLarge (above : service.maxDocumentSize < request.info.largestDocument) :
      Fails service request backend
        (.documentTooLarge request.info.largestDocument service.maxDocumentSize)
        ⟨10334, "BSONObjectTooLarge",
          "object too large. size in bytes: " ++ toString request.info.largestDocument ++
            ", max size: " ++ toString service.maxDocumentSize⟩
  | unmatched (within : request.info.largestDocument ≤ service.maxDocumentSize)
      (none : ∀ responder ∈ service.registry.responders, responder.accepts request.query = false) :
      Fails service request backend (.noMatchingResponder request.commandName)
        ⟨59, "CommandNotFound", "no such command: '" ++ request.commandName ++ "'"⟩
  | handler {responder : Responder Backend} {failure : HandlerError} {after : Backend}
      (within : request.info.largestDocument ≤ service.maxDocumentSize)
      (first : service.registry.IsFirst request.query responder)
      (failed : responder.handle request.query request.info backend = (.error failure, after)) :
      Fails service request backend (.handler failure) failure

variable {service : Service Backend} {request : Request} {backend : Backend}
  {error : ProtocolError} {failure : HandlerError}

/-- Routing fails in no other way. -/
theorem exists_fails (failed : (service.route request backend).1 = .error error) :
    ∃ failure, service.Fails request backend error failure := by
  by_cases above : service.maxDocumentSize < request.info.largestDocument
  · rw [route, if_pos above] at failed
    cases failed
    exact ⟨_, .tooLarge above⟩
  · have within := Nat.not_lt.1 above
    rw [route_within within, Registry.dispatch] at failed
    rcases service.registry.exists_isFirst_or_none request.query with ⟨responder, first⟩ | none
    · rcases handled : responder.handle request.query request.info backend with ⟨answer, after⟩
      simp only [Registry.findMatch_of_isFirst first, handled] at failed
      cases answer with
      | ok document => cases failed
      | error failure =>
          cases failed
          exact ⟨failure, .handler within first handled⟩
    · rw [Registry.findMatch_of_none none] at failed
      cases failed
      exact ⟨_, .unmatched within none⟩

namespace Fails

theorem isRequestScoped (fails : service.Fails request backend error failure) :
    error.isRequestScoped = true := by
  cases fails <;> rfl

theorem replyDocument?_eq (fails : service.Fails request backend error failure) :
    error.replyDocument? = some failure.toDocument := by
  cases fails <;> rfl

theorem exists_resolves (fails : service.Fails request backend error failure) :
    ∃ after, service.Resolves request backend failure.toDocument after := by
  cases fails with
  | tooLarge above => exact ⟨backend, .tooLarge above⟩
  | unmatched within none => exact ⟨backend, .unmatched within none⟩
  | handler within first failed => exact ⟨_, .failed within first failed⟩

end Fails

end Service

/-! ### Replies -/

namespace Request

variable {request : Request} {responseTo replyId : Int32} {reply : Frame}

/-- What a client reads in a reply to a request that has failed. -/
structure Reports (request : Request) (reply : Frame) (failure : HandlerError) : Prop where
  legacy : request.operation = .query → Client.legacyDocument reply =
    .ok [("ok", .double 0), ("errmsg", .string failure.message), ("code", .int32 failure.code),
      ("codeName", .string failure.codeName)]
  message : request.operation = .msg → Client.messageDocument reply =
    .ok [("ok", .double 0), ("errmsg", .string failure.message), ("code", .int32 failure.code),
      ("codeName", .string failure.codeName)]

theorem IsReply.reports {failure : HandlerError}
    (isReply : request.IsReply failure.toDocument responseTo replyId reply) :
    request.Reports reply failure := by
  have survives := isReply.survives (HandlerError.isPlain_toDocument failure)
  constructor
  · intro query
    exact Client.Call.legacyDocument_of_isReply query survives isReply
  · intro msg
    exact Client.Call.messageDocument_of_isReply msg survives isReply

end Request

/-! ### The connection goes on -/

namespace Connection

/--
Whether a connection goes on after the message at hand, as in `GoesOn`. Nothing is said of the
backend and the counters: a handler can have worked on them before it failed.
-/
inductive Persists (service : Service Backend) (frame : Frame) (request : Request)
    (document : Document) (now : Nat) (connection : Connection) (shared : SharedState Backend) :
    Prop where
  | replying {reply : Frame} {after : SharedState Backend} (awaits : request.AwaitsReply)
      (isReply : request.IsReply document frame.header.requestId shared.nextReplyId reply)
      (stepped : connection.step service now shared =
        some (connection.turnTo (.replying reply.bytes reply.size now), after))
  | awaiting {after : SharedState Backend} (silent : request.IsSilent)
      (stepped : connection.step service now shared =
        some (connection.turnTo (.awaitingHeader [] now), after))

variable {service : Service Backend} {frame : Frame} {request : Request} {document : Document}
  {connection : Connection} {shared : SharedState Backend} {after : Backend}

/-- A connection goes on if the document for a request can be sent, where it has to be. -/
theorem persists_of_resolves (carries : frame.Carries request)
    (resolves : service.Resolves request shared.backend document after)
    (sendable : request.AwaitsReply → ∃ reply,
      request.IsReply document frame.header.requestId shared.nextReplyId reply)
    (dispatching : connection.phase = .dispatching frame.header frame.body) (now : Nat) :
    connection.Persists service frame request document now shared := by
  rcases request.awaitsReply_or_isSilent with awaits | silent
  · rcases sendable awaits with ⟨reply, isReply⟩
    rcases Service.answer_of_awaitsReply carries resolves rfl awaits with ⟨state, answer, _⟩
    rw [Request.replyFrame_of_isReply (Request.isAnswered_of_awaitsReply awaits) isReply] at answer
    have stepped : connection.step service now shared =
        some (connection.dispatch service now frame.header frame.body shared) := by
      simp only [step, dispatching]
    rw [dispatch, answer] at stepped
    exact .replying awaits isReply stepped
  · rcases Service.answer_of_isSilent carries resolves rfl silent with ⟨state, answer, _⟩
    have stepped : connection.step service now shared =
        some (connection.dispatch service now frame.header frame.body shared) := by
      simp only [step, dispatching]
    rw [dispatch, answer] at stepped
    exact .awaiting silent stepped

end Connection

namespace Service

/--
When routing a request fails, the error is one of those that are answered, and no other errors are.
The error document is carried by a reply of the request's layout if only the length fits, and is
read by the client as it was meant. The connection takes the message in as it does any other, and
goes on after it, unless it owes a reply that is too long.
-/
theorem failures_are_reported (service : Service Backend) :
    (∀ error : ProtocolError, error.replyDocument?.isSome = error.isRequestScoped) ∧
      ∀ (frame : Frame) (request : Request) (shared : SharedState Backend) (error : ProtocolError),
        frame.Carries request → (service.route request shared.backend).1 = .error error →
          ∃ failure, service.Fails request shared.backend error failure ∧
            error.isRequestScoped = true ∧ error.replyDocument? = some failure.toDocument ∧
            (request.operation.isAnswered = true → ∀ responseTo replyId,
              (request.ReplyFits failure.toDocument ↔ ∃ reply,
                request.operation.replyFrame failure.toDocument responseTo replyId =
                  .ok (some reply)) ∧
              ∀ reply, request.operation.replyFrame failure.toDocument responseTo replyId =
                .ok (some reply) → request.Reports reply failure) ∧
            (∀ (connection : Connection) (missing now : Nat),
              connection.Completes frame.header frame.body missing →
                connection.step service now shared =
                  some (connection.goOn missing (.dispatching frame.header frame.body),
                    shared.count (.requestReceived frame.header.length.toInt.toNat))) ∧
            ((request.AwaitsReply → request.ReplyFits failure.toDocument) →
              ∀ (connection : Connection) (now : Nat),
                connection.phase = .dispatching frame.header frame.body →
                  connection.Persists service frame request failure.toDocument now shared) := by
  refine ⟨ProtocolError.isSome_replyDocument?, ?_⟩
  intro frame request shared error carries failed
  rcases exists_fails failed with ⟨failure, fails⟩
  have plain := HandlerError.isPlain_toDocument failure
  refine ⟨failure, fails, fails.isRequestScoped, fails.replyDocument?_eq, ?_, ?_, ?_⟩
  · intro answered responseTo replyId
    constructor
    · rw [Request.replyFits_iff plain]
      exact exists_congr fun reply => ⟨Request.replyFrame_of_isReply answered,
        Request.isReply_of_replyFrame answered⟩
    · intro reply written
      exact (Request.isReply_of_replyFrame answered written).reports
  · intro connection missing now completes
    exact completes.step_eq service now shared
  · intro fits connection now dispatching
    rcases fails.exists_resolves with ⟨after, resolves⟩
    apply Connection.persists_of_resolves carries resolves _ dispatching
    intro awaits
    exact (Request.replyFits_iff plain).1 (fits awaits)

/-- A message with a command that nobody knows, whose name has a quote and a line feed in it. -/
def unheardOf : Frame where
  header := ⟨33, 5, 0, 2013⟩
  body := [0, 0, 0, 0, 0, 12, 0, 0, 0, 10, 105, 116, 39, 115, 10, 0, 0]

def deaf : Service Nat where
  maxMessageSize := 100
  maxDocumentSize := 12
  idleTimeout := 0
  writeTimeout := 0

theorem failures_are_reported_unheardOf :
    ∃ request, unheardOf.Carries request ∧
      ∀ shared, (deaf.route request shared.backend).1 =
          .error (.noMatchingResponder "it's\n") ∧
        (∃ reply, request.operation.replyFrame
            (HandlerError.commandNotFound "no such command: 'it's\n'").toDocument 5 1 =
              .ok (some reply) ∧
          request.Reports reply ⟨59, "CommandNotFound", "no such command: 'it's\n'"⟩) ∧
        ∀ (connection : Connection) (now : Nat),
          connection.phase = .dispatching unheardOf.header unheardOf.body →
            connection.Persists deaf unheardOf request
              (HandlerError.commandNotFound "no such command: 'it's\n'").toDocument now
              shared := by
  have written : Message.body 0 [("it's\n", .null)] [] = .ok unheardOf.body := by cbv
  have carries : unheardOf.Carries (Message.posed 5 0 [("it's\n", .null)] []) :=
    ⟨.msg, by decide, Message.decode_of_body 5 (by decide) (by decide) (by simp) written⟩
  refine ⟨_, carries, ?_⟩
  intro shared
  have failed : (deaf.route (Message.posed 5 0 [("it's\n", .null)] []) shared.backend).1 =
      .error (.noMatchingResponder "it's\n") := by
    cbv
  refine ⟨failed, ?_⟩
  rcases (failures_are_reported deaf).2 _ _ shared _ carries failed with
    ⟨failure, fails, _, _, replied, _, goesOn⟩
  cases fails with
  | unmatched within none =>
      have fits : (Message.posed 5 0 [("it's\n", .null)] []).ReplyFits
          (HandlerError.commandNotFound "no such command: 'it's\n'").toDocument := by
        rw [Request.ReplyFits]
        cbv
      rcases replied rfl 5 1 with ⟨writable, reports⟩
      rcases writable.1 fits with ⟨reply, written⟩
      exact ⟨⟨reply, written, reports reply written⟩, goesOn fun _ => fits⟩

end Service

end DocumentProtocol
