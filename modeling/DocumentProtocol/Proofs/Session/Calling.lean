import DocumentProtocol.Proofs.Message.Surplus
import DocumentProtocol.Proofs.Session.Transcript
import DocumentProtocol.Session.Client

/-!
# What a call asks for and what its reply says

`Client.Call.request` is the request that a call is made for: its query, and what the body says
beside it. A call is sound when its documents survive and the texts in it that end with a zero hold
none. The frame of a sound call carries its request, the client waits for a reply just when the
server sends one, and a reply with a document that survives comes back as this document.
-/

namespace DocumentProtocol

/-- The document of a failure is plain, whatever its message says. -/
theorem HandlerError.isPlain_toDocument (failure : HandlerError) :
    failure.toDocument.isPlain = true := by
  cbv

namespace Message

/-- A document with the documents of sequences joined to it. -/
def joined (document : Document) (sequences : List DocumentSequence) : Document :=
  sequences.foldl
    (fun query sequence =>
      query.insert sequence.identifier (.array (sequence.documents.map .document)))
    document

/-- The request that a message with a document and sequences is sent for. -/
def posed (requestId : Int32) (flags : UInt32) (document : Document)
    (sequences : List DocumentSequence) : Request where
  operation := .msg
  query := joined document sequences
  info :=
    { requestId := requestId
      flags := flags
      database := ((joined document sequences).find? databaseKey).bind Value.text?
      sequenceIds := sequences.map DocumentSequence.identifier
      moreToCome := flags &&& moreToComeFlag ≠ 0
      largestDocument := Document.longest (given document sequences) }

theorem largest_eq_longest (document : Document) (sequences : List DocumentSequence) :
    ((sectionsOf document sequences).map Section.largest).foldl max 0 =
      Document.longest (given document sequences) := by
  have largest := largest_sectionsOf document sequences
  have longest : some (Document.longest (given document sequences)) =
      ((given document sequences).map fun member => member.bytes.length).max? := by
    rw [Document.longest, List.foldl_max]
    simp [given, List.max?_cons]
  rw [← longest] at largest
  exact Option.some.inj largest

variable {document : Document} {sequences : List DocumentSequence}

theorem requestOf_sectionsOf (requestId : Int32) {flags : UInt32}
    (clear : flags &&& checksumFlag = 0) (survives : document.Survives) :
    requestOf requestId flags (sectionsOf document sequences) [] =
      posed requestId flags document sequences := by
  have query_eq : query (sectionsOf document sequences) = joined document sequences :=
    query_sectionsOf sequences survives
  simp only [requestOf, posed, query_eq, identifiers_sectionsOf, largest_eq_longest, checksumOf,
    if_pos clear]

/-- The body of a message without a checksum is read as the request it was written for. -/
theorem decode_of_body {flags : UInt32} {bytes : Bytes} (requestId : Int32)
    (unsigned : flags &&& ~~~checksumFlag = flags) (survives : document.Survives)
    (survive : ∀ sequence ∈ sequences, sequence.Survives)
    (written : body flags document sequences = .ok bytes) :
    decode requestId bytes = .ok (posed requestId flags document sequences) := by
  have clear := checksum_and_clear flags
  have spelled := spelled_of_body survives survive written
  rw [unsigned] at clear spelled
  rw [decode_of_spelled spelled, requestOf_sectionsOf requestId clear survives]

end Message

namespace Client.Call

/-- The layout of the message that a call is sent in. -/
def operation : Call → Operation
  | command _ _ _ => .msg
  | unacknowledged _ _ => .msg
  | legacy _ _ => .query
  | insert _ _ => .insert

/-- The request that a call is made for. -/
def request (requestId : Int32) : Call → Request
  | command database document sequences =>
      Message.posed requestId 0 (addressed database document) sequences
  | unacknowledged database document =>
      Message.posed requestId Message.moreToComeFlag (addressed database document) []
  | legacy database document =>
      { operation := .query
        query := document
        info :=
          { requestId := requestId
            collection := some (database ++ Query.commandCollection)
            skip := some 0
            limit := some (-1)
            isCommand := true
            database := Request.databaseOf? (database ++ Query.commandCollection)
            largestDocument := document.bytes.length } }
  | insert collection documents =>
      { operation := .insert
        query := documents.headD []
        info :=
          { requestId := requestId
            collection := some collection
            database := Request.databaseOf? collection
            extraDocuments := documents.tail
            largestDocument := Document.longest documents } }

/-- Whether what a call is made of can be written and read as itself. -/
inductive IsSound : Call → Prop where
  | command {database : String} {document : Document} {sequences : List Message.DocumentSequence}
      (survives : document.Survives) (survive : ∀ sequence ∈ sequences, sequence.Survives) :
      IsSound (.command database document sequences)
  | unacknowledged {database : String} {document : Document} (survives : document.Survives) :
      IsSound (.unacknowledged database document)
  | legacy {database : String} {document : Document} (free : Text.holdsZero database = false)
      (survives : document.Survives) : IsSound (.legacy database document)
  /-- A batch is never empty. -/
  | insert {collection : String} {first : Document} {others : List Document}
      (free : Text.holdsZero collection = false)
      (survive : ∀ document ∈ first :: others, document.Survives) :
      IsSound (.insert collection (first :: others))

theorem holdsZero_append {first second : String} (left : Text.holdsZero first = false)
    (right : Text.holdsZero second = false) : Text.holdsZero (first ++ second) = false := by
  rw [Text.holdsZero_eq_false_iff] at left right ⊢
  simp [left, right]

/-- A legacy call is for the collection of commands, whatever the database is called. -/
theorem isCommandName_append (database : String) :
    Query.isCommandName (database ++ Query.commandCollection) = true := by
  apply Query.isCommandName_iff.2
  exact ⟨database, rfl⟩

/-- The body of the message that a call is sent in. -/
def body : Call → Except ProtocolError Bytes
  | command database document sequences => Message.body 0 (addressed database document) sequences
  | unacknowledged database document =>
      Message.body Message.moreToComeFlag (addressed database document) []
  | legacy database document =>
      Query.body (database ++ Query.commandCollection) 0 (-1) document
  | insert collection documents => Insert.body 0 collection documents

theorem frame_eq_bind (call : Call) (requestId : Int32) :
    call.frame requestId =
      call.body >>= Frame.make requestId 0 call.operation.opcode.code := by
  cases call <;> rfl

theorem frame_eq_ok_iff {call : Call} {requestId : Int32} {frame : Frame} :
    call.frame requestId = .ok frame ↔
      call.body = .ok frame.body ∧ frame.header.length.toInt = frame.size ∧
        frame.header.requestId = requestId ∧ frame.header.responseTo = 0 ∧
        frame.header.opcode = call.operation.opcode.code := by
  rw [frame_eq_bind, Except.bind_eq_ok_iff]
  constructor
  · rintro ⟨body, written, made⟩
    rcases Frame.make_eq_ok_iff.1 made with
      ⟨length_eq, requestId_eq, responseTo_eq, opcode_eq, body_eq⟩
    subst body_eq
    exact ⟨written, length_eq, requestId_eq, responseTo_eq, opcode_eq⟩
  · rintro ⟨written, length_eq, requestId_eq, responseTo_eq, opcode_eq⟩
    exact ⟨_, written, Frame.make_eq_ok_iff.2
      ⟨length_eq, requestId_eq, responseTo_eq, opcode_eq, rfl⟩⟩

section Sound

variable {call : Call} {requestId : Int32} {frame : Frame}

theorem survives_addressed {database : String} {document : Document} {flags : UInt32}
    {sequences : List Message.DocumentSequence} {bytes : Bytes} (survives : document.Survives)
    (written : Message.body flags (addressed database document) sequences = .ok bytes)
    (small : bytes.length < Bytes.wordLimit) : (addressed database document).Survives := by
  simp only [Message.body, Except.bind_eq_ok_iff, pure, Except.pure, Except.ok.injEq] at written
  rcases written with ⟨front, front_eq, rest, _, rfl⟩
  simp only [Document.eq_bytes_of_encode front_eq, List.length_append, List.length_cons] at small
  apply survives.insert (by cbv)
  change (addressed database document).bytes.length < Bytes.wordLimit
  omega

/-- The body of a sound call is read as its request. -/
theorem decode_of_isSound {bytes : Bytes} (sound : call.IsSound) (written : call.body = .ok bytes)
    (small : bytes.length < Bytes.wordLimit) (requestId : Int32) :
    call.operation.decode requestId bytes = .ok (call.request requestId) := by
  cases sound with
  | command survives survive =>
      have addressed := survives_addressed survives written small
      exact Message.decode_of_body requestId (by decide) addressed survive written
  | unacknowledged survives =>
      have addressed := survives_addressed survives written small
      exact Message.decode_of_body requestId (by decide) addressed (by simp) written
  | @legacy database document free survives =>
      have decoded := Query.decode_of_body requestId
        (holdsZero_append free (by decide)) survives written
      rw [isCommandName_append] at decoded
      exact decoded
  | insert free survive => exact Insert.decode_of_body requestId free survive written

/-- The frame of a sound call carries its request. -/
theorem carries_of_isSound (sound : call.IsSound) (framed : call.frame requestId = .ok frame) :
    frame.Carries (call.request requestId) := by
  rcases frame_eq_ok_iff.1 framed with ⟨written, length_eq, requestId_eq, _, opcode_eq⟩
  refine ⟨call.operation, opcode_eq.symm, ?_⟩
  rw [requestId_eq]
  exact decode_of_isSound sound written (Frame.body_lt length_eq) requestId

end Sound

@[simp]
theorem operation_request (call : Call) (requestId : Int32) :
    (call.request requestId).operation = call.operation := by
  cases call <;> rfl

/-- A client waits for a reply to the calls that a server replies to. -/
theorem awaitsReply_of_isAnswered {call : Call} (answered : call.isAnswered = true)
    (requestId : Int32) : (call.request requestId).AwaitsReply := by
  cases call with
  | command database document sequences => exact .inr ⟨rfl, rfl⟩
  | unacknowledged database document => cases answered
  | legacy database document => exact .inl rfl
  | insert collection documents => cases answered

theorem isSilent_of_isAnswered {call : Call} (unanswered : call.isAnswered = false)
    (requestId : Int32) : (call.request requestId).IsSilent := by
  cases call with
  | command database document sequences => cases unanswered
  | unacknowledged database document => exact .inr ⟨rfl, rfl⟩
  | legacy database document => cases unanswered
  | insert collection documents => exact .inl rfl

/-! ### The reply -/

section Reply

variable {call : Call} {document : Document} {requestId replyId : Int32} {reply : Frame}

theorem messageDocument_of_isReply {request : Request} (operation_eq : request.operation = .msg)
    (survives : document.Survives) (isReply : request.IsReply document requestId replyId reply) :
    messageDocument reply = .ok document := by
  rcases isReply with ⟨_, _, _, opcode_eq, block, written, body_eq⟩
  rw [operation_eq] at opcode_eq body_eq
  have body_written : Message.body 0 document [] = .ok reply.body := by
    simp [Message.body, Message.sequencesBytes, written, body_eq, Operation.replyHead, bind,
      Except.bind, pure, Except.pure]
  have decoded := Message.decode_of_body reply.header.requestId (by decide) survives (by simp)
    body_written
  have known : reply.header.opcode = Opcode.msg.code := opcode_eq
  simp only [messageDocument, known, decoded, bind, Except.bind]
  rfl

theorem legacyDocument_of_isReply {request : Request} (operation_eq : request.operation = .query)
    (survives : document.Survives) (isReply : request.IsReply document requestId replyId reply) :
    legacyDocument reply = .ok document := by
  have answered : request.operation.isAnswered = true := by
    rw [operation_eq]
    rfl
  have written := Request.replyFrame_of_isReply answered isReply
  have known := isReply.opcode_eq
  rw [operation_eq] at written known
  have known : reply.header.opcode = Opcode.reply.code := known
  rcases Except.map_eq_ok_iff.1 written with ⟨frame, encoded, same⟩
  cases same
  have survive : ∀ member ∈ [document], member.Survives := by
    simpa using survives
  have decoded := LegacyReply.decode_of_encoded survive encoded
  simp only [legacyDocument, known, decoded, bind, Except.bind]
  rfl

/-- A reply to a call with a document that survives comes back as this document. -/
theorem result_of_isReply (answered : call.isAnswered = true) (survives : document.Survives)
    (isReply : (call.request requestId).IsReply document requestId replyId reply) :
    call.result requestId reply = .ok (some document) := by
  have responseTo_eq := isReply.responseTo_eq
  cases call with
  | command database query sequences =>
      have found := messageDocument_of_isReply rfl survives isReply
      simp [result, responseTo_eq, found, bind, Except.bind, pure, Except.pure]
  | unacknowledged database query => cases answered
  | legacy database query =>
      have found := legacyDocument_of_isReply rfl survives isReply
      simp [result, responseTo_eq, found, bind, Except.bind, pure, Except.pure]
  | insert collection documents => cases answered

end Reply

end Client.Call

end DocumentProtocol
