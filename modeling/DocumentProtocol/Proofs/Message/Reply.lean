import DocumentProtocol.Proofs.Document.Survival
import DocumentProtocol.Proofs.Frame.Whole
import DocumentProtocol.Proofs.Message.Failure
import DocumentProtocol.Session.Service

/-!
# Reading requests and writing replies

`Frame.Carries` says when a frame holds a request, and `Frame.Refuses` with which error a frame is
turned away that holds none; a frame does one of the two. What is read from a frame keeps the
identifier of its header, and only a sectioned message can ask for no reply.

`Request.IsReply` says when a frame is a reply to a request that carries one document, and
`Request.CannotReply` with which error writing such a reply fails. Again there is one or the other,
for every request that waits for a reply. For a plain document nothing but the length decides which.
-/

namespace DocumentProtocol

/-! ### Reading a request -/

/-- Whether a frame holds a request: its opcode names a layout in which its body can be read. -/
def Frame.Carries (frame : Frame) (request : Request) : Prop :=
  ∃ operation : Operation, operation.opcode.code = frame.header.opcode ∧
    operation.decode frame.header.requestId frame.body = .ok request

/-- Whether a frame is turned away with an error. -/
inductive Frame.Refuses (frame : Frame) : ProtocolError → Prop where
  /-- The opcode names no layout that a server reads. -/
  | unsupported (unknown : ∀ operation : Operation, operation.opcode.code ≠ frame.header.opcode) :
      Refuses frame (.unsupportedOpcode frame.header.opcode)
  | unreadable {operation : Operation} {error : ProtocolError}
      (known : operation.opcode.code = frame.header.opcode)
      (failed : operation.decode frame.header.requestId frame.body = .error error) :
      Refuses frame error

namespace Operation

theorem ofCode_code (operation : Operation) : ofCode operation.opcode.code = .ok operation := by
  cases operation <;> rfl

theorem ofCode_of_unknown {code : Int32}
    (unknown : ∀ operation : Operation, operation.opcode.code ≠ code) :
    ofCode code = .error (.unsupportedOpcode code) := by
  simp only [ofCode, Except.bind_eq_error_iff]
  cases named : Opcode.ofCode code with
  | error error =>
      left
      simp only [Opcode.ofCode] at named
      split at named
      · cases named
      · simpa [eq_comm] using named
  | ok opcode =>
      right
      have code_eq : opcode.code = code := by
        simp only [Opcode.ofCode] at named
        split at named
        · rename_i found
          simp only [Except.ok.injEq] at named
          subst named
          simpa using List.find?_some found
        · cases named
      refine ⟨opcode, rfl, ?_⟩
      cases operation : ofOpcode? opcode with
      | none => rfl
      | some found =>
          have same : found.opcode = opcode := by
            cases opcode <;> simp only [ofOpcode?, reduceCtorEq, Option.some.injEq] at operation <;>
              subst operation <;> rfl
          exact absurd (by rw [same, code_eq]) (unknown found)

theorem of_decode {operation : Operation} {requestId : Int32} {body : Bytes} {request : Request}
    (decoded : operation.decode requestId body = .ok request) :
    request.operation = operation ∧ request.info.requestId = requestId ∧
      (request.info.moreToCome = true → operation = .msg) := by
  cases operation with
  | query =>
      simp only [decode, Query.decode, Except.bind_eq_ok_iff, pure, Except.pure,
        Except.ok.injEq] at decoded
      rcases decoded with ⟨_, _, _, _, _, _, _, _, _, _, _, _, rfl⟩
      exact ⟨rfl, rfl, nofun⟩
  | msg =>
      simp only [decode, Message.decode, Except.bind_eq_ok_iff, pure, Except.pure,
        Except.ok.injEq] at decoded
      rcases decoded with ⟨_, _, _, _, _, _, _, _, rfl⟩
      exact ⟨rfl, rfl, fun _ => rfl⟩
  | insert =>
      simp only [decode, Insert.decode, Except.bind_eq_ok_iff] at decoded
      rcases decoded with ⟨_, _, _, _, blocks, _, decoded⟩
      cases blocks with
      | nil => cases decoded
      | cons first others =>
          simp only [pure, Except.pure, Except.ok.injEq] at decoded
          subst decoded
          exact ⟨rfl, rfl, nofun⟩

end Operation

namespace Frame

variable {frame : Frame} {request : Request} {error : ProtocolError}

theorem ofMessage_eq_ok_iff :
    Request.ofMessage frame.header frame.body = .ok request ↔ frame.Carries request := by
  by_cases known : ∃ operation : Operation, operation.opcode.code = frame.header.opcode
  · rcases known with ⟨operation, code_eq⟩
    simp only [Request.ofMessage, ← code_eq, Operation.ofCode_code, Carries]
    constructor
    · intro decoded
      exact ⟨operation, rfl, decoded⟩
    · rintro ⟨other, same, decoded⟩
      have known := congrArg Operation.ofCode same
      simp only [Operation.ofCode_code, Except.ok.injEq] at known
      subst known
      exact decoded
  · have unknown : ∀ operation : Operation, operation.opcode.code ≠ frame.header.opcode := by
      intro operation code_eq
      exact known ⟨operation, code_eq⟩
    simp only [Request.ofMessage, Operation.ofCode_of_unknown unknown, Carries]
    constructor
    · intro decoded
      cases decoded
    · rintro ⟨operation, code_eq, _⟩
      exact absurd code_eq (unknown operation)

theorem ofMessage_of_refuses (refuses : frame.Refuses error) :
    Request.ofMessage frame.header frame.body = .error error := by
  cases refuses with
  | unsupported unknown =>
      rw [Request.ofMessage, Operation.ofCode_of_unknown unknown]
      rfl
  | @unreadable operation error known failed =>
      rw [Request.ofMessage, ← known, Operation.ofCode_code]
      exact failed

/-- A frame holds a request or is turned away. -/
theorem carries_or_refuses (frame : Frame) :
    (∃ request, frame.Carries request) ∨ ∃ error, frame.Refuses error := by
  by_cases known : ∃ operation : Operation, operation.opcode.code = frame.header.opcode
  · rcases known with ⟨operation, code_eq⟩
    cases decoded : operation.decode frame.header.requestId frame.body with
    | ok request =>
        left
        exact ⟨request, operation, code_eq, decoded⟩
    | error error =>
        right
        exact ⟨error, .unreadable code_eq decoded⟩
  · right
    refine ⟨_, .unsupported ?_⟩
    intro operation code_eq
    exact known ⟨operation, code_eq⟩

theorem Refuses.not_isInterruption (refuses : frame.Refuses error) : ¬error.IsInterruption := by
  intro interruption
  cases refuses with
  | unsupported => cases interruption
  | @unreadable operation _ known failed =>
      cases operation.failsIllegibly _ _ _ failed <;> cases interruption

theorem Carries.requestId_eq (carries : frame.Carries request) :
    request.info.requestId = frame.header.requestId := by
  rcases carries with ⟨operation, _, decoded⟩
  exact (Operation.of_decode decoded).2.1

end Frame

/-! ### Writing a reply -/

namespace Operation

/-- What stands before the document in the body of a reply. -/
def replyHead : Operation → Bytes
  | .query => Bytes.ofInt32 0 ++ Bytes.ofInt64 0 ++ Bytes.ofInt32 0 ++ Bytes.ofInt32 1
  | .msg => Bytes.ofUInt32 0 ++ [Section.bodyKind]
  | .insert => []

def replyOpcode : Operation → Opcode
  | .query => .reply
  | .msg => .msg
  | .insert => .insert

theorem replyFrame_query (document : Document) (responseTo replyId : Int32) :
    query.replyFrame document responseTo replyId = document.encode >>= fun block =>
      (Frame.make replyId responseTo query.replyOpcode.code
        (query.replyHead ++ block)).map some := by
  cases written : document.encode with
  | error error =>
      simp [replyFrame, LegacyReply.encode, Document.encodeAll, written, bind, Except.bind,
        Except.map]
  | ok block =>
      have few : ¬Bytes.wordLimit ≤ [document].length := by
        simp [Bytes.wordLimit]
      have written_eq : Document.encodeAll [document] = .ok block := by
        simp [Document.encodeAll, written, bind, Except.bind, pure, Except.pure]
      simp only [replyFrame, LegacyReply.encode, written_eq, bind, Except.bind]
      rw [if_neg few]
      rfl

theorem replyFrame_msg (document : Document) (responseTo replyId : Int32) :
    msg.replyFrame document responseTo replyId = document.encode >>= fun block =>
      (Frame.make replyId responseTo msg.replyOpcode.code (msg.replyHead ++ block)).map some := by
  cases written : document.encode with
  | error error => simp [replyFrame, Message.body, written, bind, Except.bind]
  | ok block =>
      have body_eq : Message.body 0 document [] = .ok (msg.replyHead ++ block) := by
        simp [Message.body, Message.sequencesBytes, written, bind, Except.bind, pure, Except.pure,
          replyHead]
      simp only [replyFrame, body_eq, bind, Except.bind]
      change _ = (Frame.make replyId responseTo Opcode.msg.code (msg.replyHead ++ block)).map some
      cases Frame.make replyId responseTo Opcode.msg.code (msg.replyHead ++ block) with
      | error error => rfl
      | ok reply => rfl

theorem replyFrame_of_isAnswered {operation : Operation} (answered : operation.isAnswered = true)
    (document : Document) (responseTo replyId : Int32) :
    operation.replyFrame document responseTo replyId = document.encode >>= fun block =>
      (Frame.make replyId responseTo operation.replyOpcode.code
        (operation.replyHead ++ block)).map some := by
  cases operation with
  | query => exact replyFrame_query document responseTo replyId
  | msg => exact replyFrame_msg document responseTo replyId
  | insert => cases answered

end Operation

namespace Request

/--
Whether a frame is a reply to a request with one document. The two numbers are the identifiers of
the request and of the reply.
-/
structure IsReply (request : Request) (document : Document) (responseTo replyId : Int32)
    (reply : Frame) : Prop where
  length_eq : reply.header.length.toInt = reply.size
  requestId_eq : reply.header.requestId = replyId
  responseTo_eq : reply.header.responseTo = responseTo
  opcode_eq : reply.header.opcode = request.operation.replyOpcode.code
  body_eq : ∃ block, document.encode = .ok block ∧
    reply.body = request.operation.replyHead ++ block

/-- Whether a reply with a document cannot be written, and why. -/
inductive CannotReply (request : Request) (document : Document) : ProtocolError → Prop where
  | unwritable {error : ProtocolError} (failed : document.encode = .error error) :
      CannotReply request document error
  /-- The length of the reply does not fit the header. -/
  | tooLong {block : Bytes} {size : Nat} (written : document.encode = .ok block)
      (size_eq : size = Header.size + (request.operation.replyHead ++ block).length)
      (tooLong : Bytes.wordLimit ≤ size) :
      CannotReply request document (.oversizedFrame size)

variable {request : Request} {document : Document} {responseTo replyId : Int32}

theorem replyFrame_of_isReply {reply : Frame} (answered : request.operation.isAnswered = true)
    (isReply : request.IsReply document responseTo replyId reply) :
    request.operation.replyFrame document responseTo replyId = .ok (some reply) := by
  rcases isReply with ⟨length_eq, requestId_eq, responseTo_eq, opcode_eq, block, written, body_eq⟩
  have made := Frame.make_eq_ok_iff.2
    ⟨length_eq, requestId_eq, responseTo_eq, opcode_eq, body_eq⟩
  simp only [Operation.replyFrame_of_isAnswered answered, Except.bind_eq_ok_iff]
  refine ⟨block, written, ?_⟩
  rw [made]
  rfl

theorem replyFrame_of_cannotReply {error : ProtocolError}
    (answered : request.operation.isAnswered = true) (cannot : request.CannotReply document error) :
    request.operation.replyFrame document responseTo replyId = .error error := by
  simp only [Operation.replyFrame_of_isAnswered answered, Except.bind_eq_error_iff]
  cases cannot with
  | unwritable failed =>
      left
      exact failed
  | tooLong written size_eq tooLong =>
      subst size_eq
      right
      refine ⟨_, written, ?_⟩
      rw [Frame.make_eq_error_iff.2 ⟨tooLong, rfl⟩]
      rfl

theorem IsReply.not_cannotReply {reply : Frame} {error : ProtocolError}
    (isReply : request.IsReply document responseTo replyId reply)
    (answered : request.operation.isAnswered = true) : ¬request.CannotReply document error := by
  intro cannot
  have written := replyFrame_of_isReply answered isReply
  rw [replyFrame_of_cannotReply answered cannot] at written
  cases written

theorem CannotReply.not_isInterruption {error : ProtocolError}
    (cannot : request.CannotReply document error) : ¬error.IsInterruption := by
  intro interruption
  cases cannot with
  | unwritable failed =>
      simp only [Document.encode] at failed
      split at failed
      · cases failed
      · cases failed
        cases interruption
  | tooLong => cases interruption

/-- There is a reply with a document, or it cannot be written. -/
theorem exists_reply_or_cannotReply (request : Request) (document : Document)
    (responseTo replyId : Int32) :
    (∃ reply, request.IsReply document responseTo replyId reply) ∨
      ∃ error, request.CannotReply document error := by
  cases written : document.encode with
  | error error =>
      right
      exact ⟨error, .unwritable written⟩
  | ok block =>
      cases made : Frame.make replyId responseTo request.operation.replyOpcode.code
        (request.operation.replyHead ++ block) with
      | error error =>
          right
          exact ⟨_, .tooLong written rfl (Frame.make_eq_error_iff.1 made).1⟩
      | ok reply =>
          rcases Frame.make_eq_ok_iff.1 made with
            ⟨length_eq, requestId_eq, responseTo_eq, opcode_eq, body_eq⟩
          left
          exact ⟨reply, length_eq, requestId_eq, responseTo_eq, opcode_eq, block, written, body_eq⟩

/-! ### Replies with plain documents -/

variable {reply : Frame}

/-- Whether the length of a reply with a document fits its header. -/
def ReplyFits (request : Request) (document : Document) : Prop :=
  Header.size + (request.operation.replyHead.length + document.bytes.length) < Bytes.wordLimit

theorem IsReply.replyFits (isReply : request.IsReply document responseTo replyId reply) :
    request.ReplyFits document := by
  rcases isReply with ⟨length_eq, _, _, _, block, written, body_eq⟩
  have bound := reply.header.length.toInt_lt
  rw [length_eq, Frame.size, body_eq, List.length_append,
    Document.eq_bytes_of_encode written] at bound
  simp only [ReplyFits, Bytes.wordLimit]
  omega

/-- A plain document is carried by a reply just when its length fits. -/
theorem replyFits_iff (plain : document.isPlain = true) :
    request.ReplyFits document ↔
      ∃ reply, request.IsReply document responseTo replyId reply := by
  refine ⟨?_, fun ⟨_, isReply⟩ => isReply.replyFits⟩
  intro fits
  rcases request.exists_reply_or_cannotReply document responseTo replyId with found | ⟨_, cannot⟩
  · exact found
  · exfalso
    cases cannot with
    | unwritable failed =>
        rw [Document.encode_of_isPlain plain] at failed
        cases failed
    | tooLong written size_eq tooLong =>
        rw [List.length_append, Document.eq_bytes_of_encode written] at size_eq
        simp only [ReplyFits] at fits
        omega

theorem IsReply.survives (plain : document.isPlain = true)
    (isReply : request.IsReply document responseTo replyId reply) : document.Survives := by
  have fits := isReply.replyFits
  simp only [ReplyFits] at fits
  exact Document.survives_iff.2 ⟨plain, by omega⟩

theorem isReply_of_replyFrame (answered : request.operation.isAnswered = true)
    (written : request.operation.replyFrame document responseTo replyId = .ok (some reply)) :
    request.IsReply document responseTo replyId reply := by
  rcases request.exists_reply_or_cannotReply document responseTo replyId with
    ⟨found, isReply⟩ | ⟨error, cannot⟩
  · rw [replyFrame_of_isReply answered isReply] at written
    cases written
    exact isReply
  · rw [replyFrame_of_cannotReply answered cannot] at written
    cases written

end Request

end DocumentProtocol
