import DocumentProtocol.Proofs.Session.Run
import DocumentProtocol.Proofs.Session.Transcript

/-!
# Recording the invocations of handlers

Which handlers a connection calls cannot be seen from what it writes. `Service.recording` makes it
visible: it is a service whose backend carries a log, and whose responders do what they did and
write each call of their handler into the log. The log grows by what `Service.Calls` says of the
request: by one entry if a responder is asked, and by none otherwise.

Recording changes nothing else. `Connection.step_recording` says so for a step of a connection and
`Exchange.Move.recording` and `Exchange.Move.forget` for a move, so that the runs of the two
services are the same but for the log.
-/

namespace DocumentProtocol

variable {Backend : Type}

/-- A call of a handler: whose it was, what it was given, and the backend it found. -/
structure Invocation (Backend : Type) where
  responder : Responder Backend
  query : Document
  info : RequestInfo
  backend : Backend

/-- A backend together with the calls of handlers that have worked on it. -/
structure Recorded (Backend : Type) where
  backend : Backend
  log : List (Invocation Backend)

def Responder.recording (responder : Responder Backend) : Responder (Recorded Backend) where
  name := responder.name
  accepts := responder.accepts
  handle query info recorded :=
    let (answer, backend) := responder.handle query info recorded.backend
    (answer, ⟨backend, recorded.log ++ [⟨responder, query, info, recorded.backend⟩]⟩)

def Registry.recording (registry : Registry Backend) : Registry (Recorded Backend) where
  responders := registry.responders.map Responder.recording

def Service.recording (service : Service Backend) : Service (Recorded Backend) where
  registry := service.registry.recording
  maxMessageSize := service.maxMessageSize
  maxDocumentSize := service.maxDocumentSize
  idleTimeout := service.idleTimeout
  writeTimeout := service.writeTimeout

namespace SharedState

/-- What is shared, with a log beside the backend. -/
def withLog (log : List (Invocation Backend)) (shared : SharedState Backend) :
    SharedState (Recorded Backend) where
  backend := ⟨shared.backend, log⟩
  metrics := shared.metrics
  nextReplyId := shared.nextReplyId

def forget (shared : SharedState (Recorded Backend)) : SharedState Backend where
  backend := shared.backend.backend
  metrics := shared.metrics
  nextReplyId := shared.nextReplyId

theorem withLog_forget (shared : SharedState (Recorded Backend)) :
    shared.forget.withLog shared.backend.log = shared := rfl

theorem withLog_count (log : List (Invocation Backend)) (shared : SharedState Backend)
    (event : Metrics.Event) :
    (shared.count event).withLog log = (shared.withLog log).count event := rfl

end SharedState

/-! ### One request -/

theorem Registry.findMatch_recording (registry : Registry Backend) (query : Document) :
    registry.recording.findMatch query = (registry.findMatch query).map Responder.recording := by
  have accepts : (fun responder : Responder (Recorded Backend) => responder.accepts query) ∘
      Responder.recording = fun responder : Responder Backend => responder.accepts query := rfl
  rw [findMatch, findMatch, recording, List.find?_map, accepts]
  cases registry.responders.find? fun responder => responder.accepts query with
  | none => rfl
  | some responder => rfl

namespace Service

variable {service : Service Backend} {request : Request} {backend : Backend}
  {shared : SharedState Backend}

/-- The calls of handlers that a request brings about: one, unless no responder is asked. -/
inductive Calls (service : Service Backend) (request : Request) (backend : Backend) :
    List (Invocation Backend) → Prop where
  | tooLarge (above : service.maxDocumentSize < request.info.largestDocument) :
      Calls service request backend []
  | unmatched (within : request.info.largestDocument ≤ service.maxDocumentSize)
      (none : ∀ responder ∈ service.registry.responders, responder.accepts request.query = false) :
      Calls service request backend []
  | once {responder : Responder Backend}
      (within : request.info.largestDocument ≤ service.maxDocumentSize)
      (first : service.registry.IsFirst request.query responder) :
      Calls service request backend [⟨responder, request.query, request.info, backend⟩]

theorem exists_calls (service : Service Backend) (request : Request) (backend : Backend) :
    ∃ calls, service.Calls request backend calls := by
  by_cases above : service.maxDocumentSize < request.info.largestDocument
  · exact ⟨_, .tooLarge above⟩
  · have within := Nat.not_lt.1 above
    rcases service.registry.exists_isFirst_or_none request.query with ⟨responder, first⟩ | none
    · exact ⟨_, .once within first⟩
    · exact ⟨_, .unmatched within none⟩

/-- The log grows by the calls of a request, and nothing else is different. -/
theorem route_recording {calls : List (Invocation Backend)}
    (called : service.Calls request backend calls) (log : List (Invocation Backend)) :
    service.recording.route request ⟨backend, log⟩ =
      ((service.route request backend).1, ⟨(service.route request backend).2, log ++ calls⟩) := by
  cases called with
  | tooLarge above =>
      have above_recording : service.recording.maxDocumentSize < request.info.largestDocument :=
        above
      rw [route, route, if_pos above, if_pos above_recording, List.append_nil]
      rfl
  | unmatched within none =>
      have within_recording : request.info.largestDocument ≤ service.recording.maxDocumentSize :=
        within
      rw [route_within within, route_within within_recording, Registry.dispatch, Registry.dispatch,
        recording, Registry.findMatch_recording, Registry.findMatch_of_none none, List.append_nil]
      rfl
  | once within first =>
      have within_recording : request.info.largestDocument ≤ service.recording.maxDocumentSize :=
        within
      rw [route_within within, route_within within_recording, Registry.dispatch, Registry.dispatch,
        recording, Registry.findMatch_recording, Registry.findMatch_of_isFirst first]
      rfl

theorem routeShared_recording {calls : List (Invocation Backend)}
    (called : service.Calls request shared.backend calls) (log : List (Invocation Backend)) :
    service.recording.routeShared request (shared.withLog log) =
      (service.routeShared request shared).map id (SharedState.withLog (log ++ calls)) := by
  have routed : service.recording.route request (shared.withLog log).backend = _ :=
    route_recording called log
  simp only [routeShared, routed]
  rcases service.route request shared.backend with ⟨result, after⟩
  cases result with
  | ok document => rfl
  | error error =>
      dsimp only
      cases error.routingEvent? with
      | none => rfl
      | some event => rfl

theorem reply_withLog (request : Request) (document : Document) (shared : SharedState Backend)
    (log : List (Invocation Backend)) :
    reply request document (shared.withLog log) =
      (reply request document shared).map id (SharedState.withLog log) := by
  simp only [reply]
  split
  · rfl
  · rfl

theorem answerRequest_recording {calls : List (Invocation Backend)}
    (called : service.Calls request shared.backend calls) (log : List (Invocation Backend)) :
    service.recording.answerRequest request (shared.withLog log) =
      (service.answerRequest request shared).map id (SharedState.withLog (log ++ calls)) := by
  simp only [answerRequest, routeShared_recording called log]
  rcases service.routeShared request shared with ⟨routed, after⟩
  simp only [Prod.map_apply, id_eq]
  cases answerDocument routed with
  | ok document => exact reply_withLog request document after (log ++ calls)
  | error error => rfl

section Answer

variable {frame : Frame} {result : Except ProtocolError (Option Frame)}
  {after : SharedState Backend}

theorem answer_recording_of_carries {calls : List (Invocation Backend)}
    (carries : frame.Carries request) (called : service.Calls request shared.backend calls)
    (answered : service.answer frame.header frame.body shared = (result, after))
    (log : List (Invocation Backend)) :
    service.recording.answer frame.header frame.body (shared.withLog log) =
      (result, after.withLog (log ++ calls)) := by
  have recorded := answerRequest_recording called log
  simp only [answer, Frame.ofMessage_eq_ok_iff.2 carries] at answered ⊢
  rw [answered] at recorded
  exact recorded

theorem answer_recording_of_refuses {error : ProtocolError} (refuses : frame.Refuses error)
    (answered : service.answer frame.header frame.body shared = (result, after))
    (log : List (Invocation Backend)) :
    service.recording.answer frame.header frame.body (shared.withLog log) =
      (result, after.withLog log) := by
  simp only [answer, Frame.ofMessage_of_refuses refuses] at answered ⊢
  cases answered
  rfl

/-- Whatever a message is, answering it adds the same to any log. -/
theorem exists_answer_recording {header : Header} {body : Bytes}
    (answered : service.answer header body shared = (result, after)) :
    ∃ calls, ∀ log, service.recording.answer header body (shared.withLog log) =
      (result, after.withLog (log ++ calls)) := by
  rcases Frame.carries_or_refuses ⟨header, body⟩ with ⟨request, carries⟩ | ⟨error, refuses⟩
  · rcases service.exists_calls request shared.backend with ⟨calls, called⟩
    exact ⟨calls, answer_recording_of_carries carries called answered⟩
  · refine ⟨[], ?_⟩
    intro log
    rw [List.append_nil]
    exact answer_recording_of_refuses refuses answered log

end Answer

end Service

/-! ### One step -/

namespace Connection

variable (service : Service Backend) (now : Nat) (connection : Connection)
  (shared : SharedState Backend) (log : List (Invocation Backend))

theorem close_withLog (error : ProtocolError) :
    connection.close error (shared.withLog log) =
      (connection.close error shared).map id (SharedState.withLog log) := by
  simp only [close]
  cases endingEvent? error with
  | none => rfl
  | some event => rfl

theorem acceptHeader_recording (bytes : Bytes) :
    connection.acceptHeader service.recording bytes (shared.withLog log) =
      (connection.acceptHeader service bytes shared).map id (SharedState.withLog log) := by
  have limit_eq : service.recording.maxMessageSize = service.maxMessageSize := rfl
  simp only [acceptHeader, limit_eq]
  cases (Header.ofBytes bytes).bodyLength service.maxMessageSize with
  | ok length => rfl
  | error error => exact close_withLog connection shared log error

/-- Taking in bytes is the same beside a log if going on with all of them is. -/
theorem take_withLog (received : Bytes) (size : Nat) (keep : Bytes → Phase)
    {accept : Connection → Bytes → SharedState Backend → Connection × SharedState Backend}
    {recording : Connection → Bytes → SharedState (Recorded Backend) →
      Connection × SharedState (Recorded Backend)}
    (accepts : ∀ connection bytes, recording connection bytes (shared.withLog log) =
      (accept connection bytes shared).map id (SharedState.withLog log)) :
    connection.take received size keep recording (shared.withLog log) =
      (connection.take received size keep accept shared).map
        (Prod.map id (SharedState.withLog log)) := by
  simp only [take, accepts, close_withLog]
  split <;> rfl

theorem readHeader_recording (received : Bytes) (since : Nat) :
    connection.readHeader service.recording now received since (shared.withLog log) =
      (connection.readHeader service now received since shared).map
        (Prod.map id (SharedState.withLog log)) := by
  have limit_eq : service.recording.idleTimeout = service.idleTimeout := rfl
  rw [readHeader, readHeader, Deadline.map_withinOptional, close_withLog, limit_eq]
  rw [take_withLog connection shared log _ _ _ fun connection bytes =>
    acceptHeader_recording service connection shared log bytes]

theorem readBody_withLog (header : Header) (received : Bytes) :
    connection.readBody header received (shared.withLog log) =
      (connection.readBody header received shared).map
        (Prod.map id (SharedState.withLog log)) := by
  rw [readBody, readBody]
  apply take_withLog
  intro connection body
  rfl

theorem dispatch_recording (header : Header) (body : Bytes) :
    ∃ calls, ∀ log, connection.dispatch service.recording now header body (shared.withLog log) =
      (connection.dispatch service now header body shared).map id
        (SharedState.withLog (log ++ calls)) := by
  rcases answered : service.answer header body shared with ⟨result, after⟩
  rcases Service.exists_answer_recording answered with ⟨calls, recorded⟩
  refine ⟨calls, ?_⟩
  intro log
  simp only [dispatch, recorded, answered]
  cases result with
  | error error => exact close_withLog connection after (log ++ calls) error
  | ok reply =>
      cases reply with
      | none => rfl
      | some reply => rfl

theorem put_withLog (pending : Bytes) (size since : Nat) :
    connection.put now pending size since (shared.withLog log) =
      (connection.put now pending size since shared).map
        (Prod.map id (SharedState.withLog log)) := by
  simp only [put, close_withLog]
  split
  · rfl
  · split
    · rfl
    · split <;> rfl

theorem writeReply_recording (pending : Bytes) (size since : Nat) :
    connection.writeReply service.recording now pending size since (shared.withLog log) =
      (connection.writeReply service now pending size since shared).map
        (Prod.map id (SharedState.withLog log)) := by
  have limit_eq : service.recording.writeTimeout = service.writeTimeout := rfl
  rw [writeReply, writeReply, Deadline.map_within, close_withLog, limit_eq, put_withLog]

/-- A step makes some calls, which come to the end of any log, and is not changed by it. -/
theorem step_recording :
    ∃ calls, ∀ log, connection.step service.recording now (shared.withLog log) =
      (connection.step service now shared).map
        (Prod.map id (SharedState.withLog (log ++ calls))) := by
  simp only [step]
  cases connection.phase with
  | awaitingHeader received since =>
      refine ⟨[], ?_⟩
      intro log
      rw [List.append_nil]
      dsimp only
      rw [close_withLog, readHeader_recording]
      split <;> rfl
  | awaitingBody header received =>
      refine ⟨[], ?_⟩
      intro log
      rw [List.append_nil]
      dsimp only
      rw [close_withLog, readBody_withLog]
      split <;> rfl
  | dispatching header body =>
      rcases dispatch_recording service now connection shared header body with ⟨calls, dispatched⟩
      refine ⟨calls, ?_⟩
      intro log
      dsimp only
      rw [dispatched]
      rfl
  | replying pending size since =>
      refine ⟨[], ?_⟩
      intro log
      rw [List.append_nil]
      exact writeReply_recording service now connection shared log pending size since
  | closed outcome => exact ⟨[], fun log => rfl⟩

end Connection

/-! ### Runs -/

namespace Exchange

variable {service : Service Backend} {exchange next : Exchange}

/-- A move is one of the recording service, and adds some calls to any log. -/
theorem Move.recording {shared after : SharedState Backend}
    (move : Move service (exchange, shared) (next, after)) :
    ∃ calls, ∀ log, Move service.recording (exchange, shared.withLog log)
      (next, after.withLog (log ++ calls)) := by
  cases move with
  | @serve _ _ _ connection duration stepped =>
      rcases Connection.step_recording service (exchange.now + duration) exchange.connection
        shared with ⟨calls, recorded⟩
      refine ⟨calls, ?_⟩
      intro log
      apply Move.serve duration
      rw [recorded, stepped]
      rfl
  | _ =>
      refine ⟨[], ?_⟩
      intro log
      rw [List.append_nil]
      constructor <;> assumption

theorem Move.forget {shared after : SharedState (Recorded Backend)}
    (move : Move service.recording (exchange, shared) (next, after)) :
    Move service (exchange, shared.forget) (next, after.forget) ∧
      shared.backend.log <+: after.backend.log := by
  cases move with
  | @serve _ _ _ connection duration stepped =>
      rcases Connection.step_recording service (exchange.now + duration) exchange.connection
        shared.forget with ⟨calls, recorded⟩
      rw [← shared.withLog_forget, recorded, Option.map_eq_some_iff] at stepped
      rcases stepped with ⟨⟨found, state⟩, stepped, same⟩
      cases same
      exact ⟨.serve duration stepped, List.prefix_append _ _⟩
  | _ =>
      refine ⟨?_, List.prefix_refl _⟩
      constructor <;> assumption

theorem CalmlyReaches.recording {before after : Exchange × SharedState Backend}
    (run : CalmlyReaches service before after) (log : List (Invocation Backend)) :
    ∃ calls, CalmlyReaches service.recording (before.1, before.2.withLog log)
      (after.1, after.2.withLog (log ++ calls)) := by
  induction run with
  | refl =>
      refine ⟨[], ?_⟩
      rw [List.append_nil]
      exact .refl
  | tail _ moved ih =>
      rcases ih with ⟨calls, run⟩
      rcases moved.1.recording with ⟨more, move⟩
      refine ⟨calls ++ more, ?_⟩
      rw [← List.append_assoc]
      exact run.tail ⟨move _, moved.2⟩

theorem CalmlyReaches.forget {before after : Exchange × SharedState (Recorded Backend)}
    (run : CalmlyReaches service.recording before after) :
    CalmlyReaches service (before.1, before.2.forget) (after.1, after.2.forget) ∧
      before.2.backend.log <+: after.2.backend.log := by
  induction run with
  | refl => exact ⟨.refl, List.prefix_refl _⟩
  | tail _ moved ih =>
      rcases ih with ⟨run, grown⟩
      rcases moved.1.forget with ⟨move, grows⟩
      exact ⟨run.tail ⟨move, moved.2⟩, grown.trans grows⟩

end Exchange

end DocumentProtocol
