import DocumentProtocol.Proofs.Document.Size
import DocumentProtocol.Proofs.Message.Delivery
import DocumentProtocol.Proofs.Session.Ahead
import DocumentProtocol.Proofs.Session.Calling
import DocumentProtocol.Proofs.Session.Recording

/-!
# Documents above the limit

A request goes to the registry just when none of the documents that it delivers is above the limit.
Otherwise no handler is called, the backend and the counters stay as they are, and the client gets
the error document that names the largest size and the limit, if it waits for a reply. Either way
the connection goes on.

That the error document can always be written needs an argument: the sizes in its text are those of
documents on the wire, so that they have ten digits at most.
-/

namespace DocumentProtocol

variable {Backend : Type}

/-! ### The error document -/

namespace Text

theorem encode_append (first second : String) :
    encode (first ++ second) = encode first ++ encode second := by
  simp only [encode_eq_flatMap, String.toList_append, List.flatMap_append]

end Text

namespace HandlerError

theorem length_toDocument (failure : HandlerError) :
    failure.toDocument.bytes.length =
      (Text.encode failure.message).length + (Text.encode failure.codeName).length + 55 := by
  have names : (Text.encode "ok").length = 2 ∧ (Text.encode "errmsg").length = 6 ∧
      (Text.encode "code").length = 4 ∧ (Text.encode "codeName").length = 8 := by decide
  simp only [toDocument, Document.bytes, Document.length_enclose, Value.fieldsBytes,
    Value.length_fieldBytes, List.length_append, List.length_nil, Value.payload,
    Document.length_textPayload, Bytes.length_ofUInt64, Bytes.length_ofInt32, names]
  omega

theorem length_objectTooLarge {size limit : Nat} (size_lt : size < Bytes.wordLimit)
    (limit_lt : limit < Bytes.wordLimit) :
    (objectTooLarge size limit).toDocument.bytes.length ≤ 200 := by
  have message_eq : (objectTooLarge size limit).message =
      "object too large. size in bytes: " ++ toString size ++ ", max size: " ++
        toString limit := rfl
  have codeName_eq : (objectTooLarge size limit).codeName = "BSONObjectTooLarge" := rfl
  have words : (Text.encode "object too large. size in bytes: ").length = 33 ∧
      (Text.encode ", max size: ").length = 12 ∧
      (Text.encode "BSONObjectTooLarge").length = 18 := by decide
  have ten : Bytes.wordLimit ≤ 10 ^ 10 := by decide
  have size_le := Text.length_encode_toString_le (by decide) (size_lt.trans_le ten)
  have limit_le := Text.length_encode_toString_le (by decide) (limit_lt.trans_le ten)
  rw [length_toDocument, message_eq, codeName_eq]
  simp only [Text.encode_append, List.length_append, words]
  omega

end HandlerError

/-- A reply with a short document that is plain can be written. -/
theorem Request.exists_reply_of_isPlain (request : Request) {document : Document}
    (plain : document.isPlain = true) (short : document.bytes.length ≤ 200)
    (responseTo replyId : Int32) :
    ∃ reply, request.IsReply document responseTo replyId reply := by
  have head : request.operation.replyHead.length ≤ 20 := by
    cases request.operation <;> decide
  apply (Request.replyFits_iff plain).1
  simp only [Request.ReplyFits, Header.size, Bytes.wordLimit]
  omega

/-! ### The documents of a frame -/

namespace Frame

/-- The documents that the body of a frame delivers in the layout of its opcode. -/
def Delivers (frame : Frame) (blocks : List Block) : Prop :=
  ∃ operation : Operation, operation.opcode.code = frame.header.opcode ∧
    operation.Delivers frame.body blocks

variable {frame : Frame} {request : Request} {blocks : List Block}

theorem Delivers.occupies (delivers : frame.Delivers blocks) :
    ∀ block ∈ blocks, block.Occupies frame.body := by
  rcases delivers with ⟨_, _, delivers⟩
  exact delivers.occupies

theorem Delivers.largest_lt (delivers : frame.Delivers blocks) :
    Block.largest blocks < Bytes.wordLimit := by
  apply Nat.lt_of_le_pred (by decide)
  apply Block.largest_le_iff.2
  intro block mem
  exact Nat.le_pred_of_lt (delivers.occupies block mem).size_lt

theorem Carries.exists_delivers (carries : frame.Carries request) :
    ∃ blocks, frame.Delivers blocks := by
  rcases carries with ⟨operation, code_eq, decoded⟩
  rcases Operation.exists_delivers decoded with ⟨blocks, delivers⟩
  exact ⟨blocks, operation, code_eq, delivers⟩

theorem Carries.largest_eq (carries : frame.Carries request) (delivers : frame.Delivers blocks) :
    request.info.largestDocument = Block.largest blocks := by
  rcases carries with ⟨operation, code_eq, decoded⟩
  rcases delivers with ⟨other, other_eq, delivers⟩
  have known := congrArg Operation.ofCode (other_eq.trans code_eq.symm)
  simp only [Operation.ofCode_code, Except.ok.injEq] at known
  subst known
  exact delivers.largest_eq decoded

end Frame

/-! ### What the service does -/

namespace Service

variable {service : Service Backend} {frame : Frame} {request : Request}

theorem answer_of_carries (carries : frame.Carries request) (shared : SharedState Backend) :
    service.answer frame.header frame.body shared = service.answerRequest request shared := by
  rw [answer, Frame.ofMessage_eq_ok_iff.2 carries]

theorem backend_answerRequest (service : Service Backend) (request : Request)
    (shared : SharedState Backend) :
    (service.answerRequest request shared).2.backend =
      (service.route request shared.backend).2 := by
  rcases route_eq : service.route request shared.backend with ⟨routed, backend⟩
  rcases routeShared_of_route route_eq with ⟨after, shared_eq, backend_eq, _⟩
  simp only [answerRequest, shared_eq]
  cases answerDocument routed with
  | ok document =>
      simp only [reply]
      split
      · exact backend_eq
      · exact backend_eq
  | error error => exact backend_eq

/-- The log of a recording service grows by the calls that a request brings about. -/
theorem log_answer {calls : List (Invocation Backend)} {shared : SharedState Backend}
    (carries : frame.Carries request) (called : service.Calls request shared.backend calls)
    (log : List (Invocation Backend)) :
    (service.recording.answer frame.header frame.body (shared.withLog log)).2.backend.log =
      log ++ calls := by
  rw [answer_of_carries carries, answerRequest_recording called]
  rfl

/-- Whether a frame is answered by the registry. -/
structure Admits (service : Service Backend) (frame : Frame) (request : Request)
    (shared : SharedState Backend) : Prop where
  route_eq : service.route request shared.backend =
    service.registry.dispatch request.query request.info shared.backend
  backend_eq : (service.answer frame.header frame.body shared).2.backend =
    (service.registry.dispatch request.query request.info shared.backend).2
  /-- The handler of the first responder that accepts the query is called, once. -/
  called : ∀ responder, service.registry.IsFirst request.query responder → ∀ log,
    (service.recording.answer frame.header frame.body (shared.withLog log)).2.backend.log =
      log ++ [⟨responder, request.query, request.info, shared.backend⟩]

theorem admits_of_within (carries : frame.Carries request)
    (within : request.info.largestDocument ≤ service.maxDocumentSize)
    (shared : SharedState Backend) : service.Admits frame request shared := by
  have route_eq := route_within within shared.backend
  refine ⟨route_eq, ?_, ?_⟩
  · rw [answer_of_carries carries, backend_answerRequest, route_eq]
  · intro responder first log
    exact log_answer carries (.once within first) log

/-- Whether a frame is answered with a document without asking anybody. -/
structure Declines (service : Service Backend) (frame : Frame) (request : Request)
    (document : Document) (shared : SharedState Backend) : Prop where
  uncalled : ∀ log,
    (service.recording.answer frame.header frame.body (shared.withLog log)).2.backend.log = log
  backend_eq : (service.answer frame.header frame.body shared).2.backend = shared.backend
  metrics_eq : (service.answer frame.header frame.body shared).2.metrics = shared.metrics
  answered : request.AwaitsReply →
    ∃ reply, request.IsReply document frame.header.requestId shared.nextReplyId reply ∧
      (service.answer frame.header frame.body shared).1 = .ok (some reply)
  silent : request.IsSilent → (service.answer frame.header frame.body shared).1 = .ok none

section Above

variable {size : Nat} (carries : frame.Carries request)
  (size_eq : request.info.largestDocument = size) (size_lt : size < Bytes.wordLimit)
  (above : service.maxDocumentSize < size)

include carries size_eq above

theorem answer_of_above (shared : SharedState Backend) :
    service.answer frame.header frame.body shared =
      reply request (HandlerError.objectTooLarge size service.maxDocumentSize).toDocument
        shared := by
  subst size_eq
  rw [answer_of_carries carries]
  simp only [answerRequest, routeShared, route, if_pos above]
  rfl

include size_lt

theorem declines_of_above (shared : SharedState Backend) :
    service.Declines frame request
      (HandlerError.objectTooLarge size service.maxDocumentSize).toDocument shared := by
  have answer_eq := answer_of_above carries size_eq above shared
  have called : service.Calls request shared.backend [] := .tooLarge (by omega)
  refine
    { uncalled := ?_
      backend_eq := ?_
      metrics_eq := ?_
      answered := ?_
      silent := ?_ }
  · intro log
    rw [log_answer carries called, List.append_nil]
  · rw [answer_eq, reply]
    split <;> rfl
  · rw [answer_eq, reply]
    split <;> rfl
  · intro awaits
    have short := HandlerError.length_objectTooLarge size_lt (above.trans size_lt)
    rcases request.exists_reply_of_isPlain (HandlerError.isPlain_toDocument _) short
      frame.header.requestId shared.nextReplyId with ⟨written, isReply⟩
    refine ⟨written, isReply, ?_⟩
    rw [answer_eq, reply, carries.expectsReply_of_awaitsReply awaits, carries.requestId_eq]
    exact Request.replyFrame_of_isReply (Request.isAnswered_of_awaitsReply awaits) isReply
  · intro silent
    rw [answer_eq, reply, Request.expectsReply_of_isSilent silent]
    rfl

end Above

end Service

/-! ### The connection goes on -/

namespace Connection

variable {connection : Connection} {header : Header} {body : Bytes} {missing : Nat}

/-- The step by which a connection takes in the last byte of a message. -/
theorem Completes.step_eq (completes : connection.Completes header body missing)
    (service : Service Backend) (now : Nat) (shared : SharedState Backend) :
    connection.step service now shared =
      some (connection.goOn missing (.dispatching header body),
        shared.count (.requestReceived header.length.toInt.toNat)) := by
  cases stepped : connection.step service now shared with
  | none =>
      rcases completes.exists_reads with ⟨_, _, reads⟩
      rcases reads.pending_of_step_eq_none stepped with ⟨short, empty, _⟩
      cases completes with
      | mk phase_eq _ missing_eq _ enough =>
          cases reads with
          | header other => cases phase_eq.symm.trans other
          | body other =>
              cases phase_eq.symm.trans other
              rw [empty, List.length_nil] at enough
              omega
  | some result =>
      rcases result with ⟨next, after⟩
      rcases (transition_of_step stepped).of_completes completes with ⟨rfl, rfl⟩
      rfl

/--
Whether a connection goes on after the message at hand: it writes a reply with a document, or it
awaits the next header at once.
-/
inductive GoesOn (service : Service Backend) (frame : Frame) (request : Request)
    (document : Document) (now : Nat) (connection : Connection) (shared : SharedState Backend) :
    Prop where
  | replying {reply : Frame} {after : SharedState Backend} (awaits : request.AwaitsReply)
      (isReply : request.IsReply document frame.header.requestId shared.nextReplyId reply)
      (stepped : connection.step service now shared =
        some (connection.turnTo (.replying reply.bytes reply.size now), after))
      (backend_eq : after.backend = shared.backend) (metrics_eq : after.metrics = shared.metrics)
  | awaiting {after : SharedState Backend} (silent : request.IsSilent)
      (stepped : connection.step service now shared =
        some (connection.turnTo (.awaitingHeader [] now), after))
      (backend_eq : after.backend = shared.backend) (metrics_eq : after.metrics = shared.metrics)

theorem goesOn_of_declines {service : Service Backend} {frame : Frame} {request : Request}
    {document : Document} (declines : ∀ shared, service.Declines frame request document shared)
    (dispatching : connection.phase = .dispatching frame.header frame.body) (now : Nat)
    (shared : SharedState Backend) :
    GoesOn service frame request document now connection shared := by
  have declined := declines shared
  rcases answered : service.answer frame.header frame.body shared with ⟨result, after⟩
  have backend_eq := declined.backend_eq
  have metrics_eq := declined.metrics_eq
  rw [answered] at backend_eq metrics_eq
  rcases request.awaitsReply_or_isSilent with awaits | silent
  · rcases declined.answered awaits with ⟨reply, isReply, result_eq⟩
    rw [answered] at result_eq
    subst result_eq
    refine .replying awaits isReply ?_ backend_eq metrics_eq
    simp only [step, dispatching, dispatch, answered]
    rfl
  · have result_eq := declined.silent silent
    rw [answered] at result_eq
    subst result_eq
    refine .awaiting silent ?_ backend_eq metrics_eq
    simp only [step, dispatching, dispatch, answered]
    rfl

end Connection

namespace Service

/-- Whether what follows a frame is served as if the frame had brought nothing but its reply. -/
structure Passes (service : Service Backend) (frame : Frame) (request : Request)
    (document : Document) : Prop where
  answered : request.AwaitsReply → ∀ {fault error : ProtocolError} {frames replies : List Frame}
    {backend after : Backend} {number : Int32},
    service.Serves fault frames backend (number + 1) replies error after →
      ∃ reply, request.IsReply document frame.header.requestId number reply ∧
        service.Serves fault (frame :: frames) backend number (reply :: replies) error after
  silent : request.IsSilent → ∀ {fault error : ProtocolError} {frames replies : List Frame}
    {backend after : Backend} {number : Int32},
    service.Serves fault frames backend number replies error after →
      service.Serves fault (frame :: frames) backend number replies error after

variable {service : Service Backend} {frame : Frame} {request : Request}

theorem passes_of_above {size : Nat} (carries : frame.Carries request)
    (size_eq : request.info.largestDocument = size) (size_lt : size < Bytes.wordLimit)
    (above : service.maxDocumentSize < size) :
    service.Passes frame request
      (HandlerError.objectTooLarge size service.maxDocumentSize).toDocument := by
  subst size_eq
  constructor
  · intro awaits fault error frames replies backend after number rest
    have short := HandlerError.length_objectTooLarge size_lt (above.trans size_lt)
    rcases request.exists_reply_of_isPlain (HandlerError.isPlain_toDocument _) short
      frame.header.requestId number with ⟨reply, isReply⟩
    exact ⟨reply, isReply, .answered carries (.tooLarge above) awaits isReply rest⟩
  · intro silent fault error frames replies backend after number rest
    exact .silent carries (.tooLarge above) silent rest

/--
A request is answered by the registry if all documents that it delivers keep the limit. If one of
them does not, no handler is called and the backend and the counters stay as they are; the reply, if
the client waits for one, is the error document that names the largest size and the limit. The
connection takes the message in as it does any other, and it and what follows on it go on.
-/
theorem admits_or_declines (service : Service Backend) (frame : Frame) (request : Request)
    (carries : frame.Carries request) :
    (∃ blocks, frame.Delivers blocks) ∧
      ∀ blocks, frame.Delivers blocks →
        (∀ block ∈ blocks, block.Occupies frame.body) ∧
        ((∀ block ∈ blocks, block.size ≤ service.maxDocumentSize) →
          ∀ shared, service.Admits frame request shared) ∧
        ((∃ block ∈ blocks, service.maxDocumentSize < block.size) →
          ∃ document, document = (HandlerError.objectTooLarge (Block.largest blocks)
              service.maxDocumentSize).toDocument ∧
            (∀ shared, service.Declines frame request document shared) ∧
            (∀ connection : Connection, ∀ missing,
              connection.Completes frame.header frame.body missing →
                ∀ now (shared : SharedState Backend), connection.step service now shared =
                  some (connection.goOn missing (.dispatching frame.header frame.body),
                    shared.count (.requestReceived frame.header.length.toInt.toNat))) ∧
            (∀ connection : Connection,
              connection.phase = .dispatching frame.header frame.body → ∀ now shared,
                connection.GoesOn service frame request document now shared) ∧
            service.Passes frame request document) := by
  refine ⟨carries.exists_delivers, ?_⟩
  intro blocks delivers
  have size_eq := carries.largest_eq delivers
  have size_lt := delivers.largest_lt
  refine ⟨delivers.occupies, ?_, ?_⟩
  · intro within shared
    apply admits_of_within carries
    rw [size_eq]
    exact Block.largest_le_iff.2 within
  · intro exceeds
    have above := Block.lt_largest_iff.2 exceeds
    have declines (shared : SharedState Backend) :=
      declines_of_above carries size_eq size_lt above shared
    refine ⟨_, rfl, declines, ?_, ?_, passes_of_above carries size_eq size_lt above⟩
    · intro connection missing completes now shared
      exact completes.step_eq service now shared
    · intro connection dispatching now shared
      exact Connection.goesOn_of_declines declines dispatching now shared

/-- A message with the empty document and a sequence of one document of eight bytes. -/
def bordering : Frame where
  header := ⟨41, 5, 0, 2013⟩
  body := [0, 0, 0, 0, 0, 5, 0, 0, 0, 0, 1, 14, 0, 0, 0, 115, 0, 8, 0, 0, 0, 10, 97, 0, 0]

def limitedTo (limit : Nat) : Service Nat where
  registry := ⟨[⟨"any", Predicate.any, Registry.always []⟩]⟩
  maxMessageSize := 100
  maxDocumentSize := limit
  idleTimeout := 0
  writeTimeout := 0

/-- The document in the sequence is the largest, and the limit is sharp. -/
theorem admits_or_declines_bordering :
    ∃ request, bordering.Carries request ∧ request.AwaitsReply ∧
      (∀ shared, (limitedTo 8).Admits bordering request shared) ∧
      ∀ shared, (limitedTo 7).Declines bordering request
        (HandlerError.objectTooLarge 8 7).toDocument shared := by
  have written : Message.body 0 [] [⟨"s", [[("a", .null)]]⟩] = .ok bordering.body := by cbv
  have carries : bordering.Carries (Message.posed 5 0 [] [⟨"s", [[("a", .null)]]⟩]) :=
    ⟨.msg, by decide, Message.decode_of_body 5 (by decide) (by decide)
      (by simpa using ⟨by decide, by decide⟩) written⟩
  have longest : Document.longest [[], [("a", .null)]] = 8 := by cbv
  have largest {blocks : List Block} (delivers : bordering.Delivers blocks) :
      Block.largest blocks = 8 :=
    (carries.largest_eq delivers).symm.trans longest
  refine ⟨_, carries, .inr ⟨rfl, rfl⟩, ?_, ?_⟩
  · rcases admits_or_declines (limitedTo 8) bordering _ carries with ⟨⟨blocks, delivers⟩, sizes⟩
    apply (sizes blocks delivers).2.1
    apply Block.largest_le_iff.1
    exact (largest delivers).le
  · rcases admits_or_declines (limitedTo 7) bordering _ carries with ⟨⟨blocks, delivers⟩, sizes⟩
    have above : (limitedTo 7).maxDocumentSize < Block.largest blocks := by
      rw [largest delivers]
      decide
    rcases (sizes blocks delivers).2.2 (Block.lt_largest_iff.1 above) with
      ⟨document, rfl, declines, _⟩
    rwa [largest delivers] at declines

end Service

end DocumentProtocol
