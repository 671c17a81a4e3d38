import DocumentProtocol.Proofs.Document.Blocks
import DocumentProtocol.Proofs.Frame.Receiving
import DocumentProtocol.Proofs.Session.Conversation
import DocumentProtocol.Session.Client

/-!
# What a client believes

A client does not know who is at the far end. A `Stranger` takes in some bytes, whatever they say,
and sends what it likes, in any pieces: bytes that are no frames, frames that nobody asked for, or
more of them than were asked for.

`Client.Call.Answers` says when a frame is an answer to a call: it names the request, it has the
opcode that goes with the call, and its body is read and holds the document. The main statement is
that a call returns a document only if the next frame of the stream is acceptable and an answer with
this document, that it takes this one frame off the stream at most, and that it does return the
document of an answer if its request could be sent.
-/

namespace DocumentProtocol

/-! ### Answers -/

namespace Client.Call

/-- Whether a frame is an answer to a call, with a document in it. -/
inductive Answers (requestId : Int32) (frame : Frame) (document : Document) : Call → Prop where
  | command {database : String} {query : Document} {sequences : List Message.DocumentSequence}
      {request : Request} (responseTo_eq : frame.header.responseTo = requestId)
      (opcode_eq : frame.header.opcode = Opcode.msg.code)
      (decoded : Message.decode frame.header.requestId frame.body = .ok request)
      (query_eq : request.query = document) :
      Answers requestId frame document (.command database query sequences)
  /-- Of several documents the first counts. -/
  | legacy {database : String} {query : Document} {reply : LegacyReply} {others : List Document}
      (responseTo_eq : frame.header.responseTo = requestId)
      (opcode_eq : frame.header.opcode = Opcode.reply.code)
      (decoded : LegacyReply.decode frame.body = .ok reply)
      (documents_eq : reply.documents = document :: others) :
      Answers requestId frame document (.legacy database query)

variable {requestId : Int32} {frame : Frame} {document : Document} {call : Call}

theorem messageDocument_eq_ok_iff :
    messageDocument frame = .ok document ↔
      frame.header.opcode = Opcode.msg.code ∧
        ∃ request, Message.decode frame.header.requestId frame.body = .ok request ∧
          request.query = document := by
  by_cases known : frame.header.opcode = Opcode.msg.code
  · simp only [messageDocument, known, ne_eq, not_true_eq_false, ↓reduceIte, true_and]
    cases Message.decode frame.header.requestId frame.body with
    | error error => simp [bind, Except.bind]
    | ok request => simp [bind, Except.bind, pure, Except.pure]
  · simp [messageDocument, known, bind, Except.bind, throw, throwThe, MonadExceptOf.throw]

theorem legacyDocument_eq_ok_iff :
    legacyDocument frame = .ok document ↔
      frame.header.opcode = Opcode.reply.code ∧
        ∃ reply others, LegacyReply.decode frame.body = .ok reply ∧
          reply.documents = document :: others := by
  by_cases known : frame.header.opcode = Opcode.reply.code
  · simp only [legacyDocument, known, ne_eq, not_true_eq_false, ↓reduceIte, true_and]
    cases LegacyReply.decode frame.body with
    | error error => simp [bind, Except.bind]
    | ok reply =>
        cases documents_eq : reply.documents with
        | nil => simp [bind, Except.bind, documents_eq, throw, throwThe, MonadExceptOf.throw]
        | cons first others => simp [bind, Except.bind, pure, Except.pure, documents_eq]
  · simp [legacyDocument, known, bind, Except.bind, throw, throwThe, MonadExceptOf.throw]

/-- A frame for another request is an error, whatever the call is. -/
theorem result_of_ne (other : frame.header.responseTo ≠ requestId) (call : Call) :
    call.result requestId frame =
      .error (.malformed (.otherRequest frame.header.responseTo requestId)) := by
  simp [result, other, bind, Except.bind, throw, throwThe, MonadExceptOf.throw]

/-- Otherwise the document of the frame is the result of a call that is answered. -/
theorem result_of_eq (named : frame.header.responseTo = requestId) (call : Call) :
    call.result requestId frame =
      match call with
      | command _ _ _ => (messageDocument frame).map some
      | legacy _ _ => (legacyDocument frame).map some
      | unacknowledged _ _ => .ok none
      | insert _ _ => .ok none := by
  simp only [result, named, ne_eq, not_true_eq_false, ↓reduceIte]
  cases call with
  | command database query sequences => cases messageDocument frame <;> rfl
  | unacknowledged database query => rfl
  | legacy database query => cases legacyDocument frame <;> rfl
  | insert collection documents => rfl

/-- The checks of a call find just the answers. -/
theorem result_eq_ok_iff :
    call.result requestId frame = .ok (some document) ↔ Answers requestId frame document call := by
  constructor
  · intro found
    have named : frame.header.responseTo = requestId := by
      apply Classical.byContradiction
      intro other
      rw [result_of_ne other] at found
      cases found
    rw [result_of_eq named] at found
    cases call with
    | command database query sequences =>
        rcases Except.map_eq_ok_iff.1 found with ⟨same, read, equal⟩
        cases equal
        rcases messageDocument_eq_ok_iff.1 read with ⟨opcode_eq, request, decoded, query_eq⟩
        exact .command named opcode_eq decoded query_eq
    | unacknowledged database query => cases found
    | legacy database query =>
        rcases Except.map_eq_ok_iff.1 found with ⟨same, read, equal⟩
        cases equal
        rcases legacyDocument_eq_ok_iff.1 read with ⟨opcode_eq, reply, others, decoded, first⟩
        exact .legacy named opcode_eq decoded first
    | insert collection documents => cases found
  · intro answers
    cases answers with
    | command named opcode_eq decoded query_eq =>
        have read := messageDocument_eq_ok_iff.2 ⟨opcode_eq, _, decoded, query_eq⟩
        simp [result_of_eq named, read, Except.map]
    | legacy named opcode_eq decoded first =>
        have read := legacyDocument_eq_ok_iff.2 ⟨opcode_eq, _, _, decoded, first⟩
        simp [result_of_eq named, read, Except.map]

theorem result_ne_ok_none (answered : call.isAnswered = true) :
    call.result requestId frame ≠ .ok none := by
  intro found
  by_cases named : frame.header.responseTo = requestId
  · rw [result_of_eq named] at found
    cases call with
    | command database query sequences =>
        rcases Except.map_eq_ok_iff.1 found with ⟨document, _, equal⟩
        cases equal
    | unacknowledged database query => cases answered
    | legacy database query =>
        rcases Except.map_eq_ok_iff.1 found with ⟨document, _, equal⟩
        cases equal
    | insert collection documents => cases answered
  · rw [result_of_ne named] at found
    cases found

end Client.Call

/-! ### Strangers -/

/-- A far end that does what it likes. -/
structure Stranger where
  /-- How many bytes it takes in before it is gone. -/
  appetite : Nat
  /-- What it sends, the next piece whenever the client waits for more. -/
  pieces : List Bytes
  /-- Whether its stream ends after the last piece. -/
  hasEnded : Bool
  deriving DecidableEq, Repr

namespace Stranger

def accept (bytes : Bytes) (stranger : Stranger) : Bytes × Stranger :=
  (bytes.drop stranger.appetite, { stranger with appetite := stranger.appetite - bytes.length })

/-- Hands a receiver one piece after the other until it has an answer. -/
def deliver (limit : Nat) (hasEnded : Bool) (receiver : Frame.Receiver) :
    List Bytes → Option Frame.Receiver.Answer × Frame.Receiver × List Bytes
  | [] =>
      match receiver.receive limit [] hasEnded with
      | (some (answer, rest), receiver) => (some answer, receiver, [rest])
      | (none, receiver) => (none, receiver, [])
  | piece :: pieces =>
      match receiver.receive limit piece false with
      | (some (answer, rest), receiver) => (some answer, receiver, rest :: pieces)
      | (none, receiver) => deliver limit hasEnded receiver pieces

def supply (limit : Nat) (receiver : Frame.Receiver) (stranger : Stranger) :
    Option Frame.Receiver.Answer × Frame.Receiver × Stranger :=
  let (answer, receiver, pieces) := deliver limit stranger.hasEnded receiver stranger.pieces
  (answer, receiver, { stranger with pieces := pieces })

/-- The link to a stranger, which is cut when the stranger does not take in all that is written. -/
def link : Link Stranger where
  write := accept
  isCut _ := true
  read := supply

/-! ### Reading from a stranger -/

section Deliver

variable (limit : Nat) (hasEnded : Bool)

/-- However the pieces are cut, nothing but the frame of the answer is taken off the stream. -/
theorem conserves_deliver (receiver : Frame.Receiver) (pieces : List Bytes) :
    Frame.Receiver.Conserves limit (receiver.buffer ++ pieces.flatten)
      ((deliver limit hasEnded receiver pieces).1.map fun answer =>
        (answer, (deliver limit hasEnded receiver pieces).2.2.flatten))
      (deliver limit hasEnded receiver pieces).2.1 := by
  induction pieces generalizing receiver with
  | nil =>
      have conserves := Frame.Receiver.conserves_receive limit receiver [] hasEnded
      rcases received : receiver.receive limit [] hasEnded with ⟨_ | ⟨answer, rest⟩, after⟩
      · rw [received] at conserves
        simpa [deliver, received] using conserves
      · rw [received] at conserves
        simpa [deliver, received] using conserves
  | cons piece pieces ih =>
      have conserves := Frame.Receiver.conserves_receive limit receiver piece false
      rw [List.flatten_cons, ← List.append_assoc]
      rcases received : receiver.receive limit piece false with ⟨_ | ⟨answer, rest⟩, after⟩
      · rw [received] at conserves
        cases conserves with
        | waits buffer_eq =>
            rw [← buffer_eq]
            simpa only [deliver, received] using ih after
      · rw [received] at conserves
        simpa [deliver, received] using conserves.append pieces.flatten

/-- A receiver goes on waiting only if all pieces have come and the stream has not ended. -/
theorem deliver_eq_none (receiver : Frame.Receiver) (pieces : List Bytes)
    (waits : (deliver limit hasEnded receiver pieces).1 = none) :
    (deliver limit hasEnded receiver pieces).2.2 = [] ∧ hasEnded = false := by
  induction pieces generalizing receiver with
  | nil =>
      rcases received : receiver.receive limit [] hasEnded with ⟨_ | ⟨answer, rest⟩, after⟩
      · refine ⟨by simp only [deliver, received], ?_⟩
        apply Bool.eq_false_iff.2
        intro ended
        subst ended
        have answered := Frame.Receiver.isSome_receive limit receiver []
        rw [received] at answered
        cases answered
      · simp only [deliver, received] at waits
        cases waits
  | cons piece pieces ih =>
      rcases received : receiver.receive limit piece false with ⟨_ | ⟨answer, rest⟩, after⟩
      · simp only [deliver, received] at waits ⊢
        exact ih after waits
      · simp only [deliver, received] at waits
        cases waits

/-- A ready receiver finds the frame that the stream begins with. -/
theorem deliver_of_isReady {receiver : Frame.Receiver} (ready : receiver.IsReady limit)
    {pieces : List Bytes} {frame : Frame} {rest : Bytes} (acceptable : frame.IsAcceptable limit)
    (stream_eq : receiver.buffer ++ pieces.flatten = frame.bytes ++ rest) :
    (deliver limit hasEnded receiver pieces).1 = some (.frame frame) := by
  induction pieces generalizing receiver with
  | nil =>
      have receives := Frame.Receiver.receives_receive ready [] hasEnded
      have stream_eq : receiver.buffer ++ [] ++ [] = frame.bytes ++ rest := by
        simpa using stream_eq
      rcases received : receiver.receive limit [] hasEnded with ⟨outcome, after⟩
      rw [received] at receives
      rcases receives.finds acceptable (fun _ => rfl) stream_eq with
        ⟨left, rfl⟩ | ⟨_, _, _, missing⟩
      · simp only [deliver, received]
      · exact absurd rfl missing
  | cons piece pieces ih =>
      have receives := Frame.Receiver.receives_receive ready piece false
      have stream_eq : receiver.buffer ++ piece ++ pieces.flatten = frame.bytes ++ rest := by
        simpa using stream_eq
      rcases received : receiver.receive limit piece false with ⟨outcome, after⟩
      rw [received] at receives
      rcases receives.finds acceptable (by simp) stream_eq with
        ⟨left, rfl⟩ | ⟨rfl, after_ready, buffer_eq, _⟩
      · simp only [deliver, received]
      · simp only [deliver, received]
        apply ih after_ready
        rw [buffer_eq]
        exact stream_eq

end Deliver

end Stranger

namespace Client

/-- What a stranger has sent and the client has not given out. -/
def incoming (client : Client) (stranger : Stranger) : Bytes :=
  client.receiver.buffer ++ stranger.pieces.flatten

/-- Whether the request of a call can be sent to a stranger. -/
def CanSend (client : Client) (call : Call) (stranger : Stranger) : Prop :=
  ∃ request, call.frame client.nextRequestId = .ok request ∧ request.size ≤ client.limit ∧
    client.backlog.length + request.size ≤ stranger.appetite

/--
What a call comes to that waits for a reply from a stranger, and what is left of the stranger's
stream.
-/
structure Believes (client : Client) (call : Call) (stranger : Stranger)
    (outcome : Option (Except ProtocolError (Option Document))) (left : Bytes) : Prop where
  /-- A document is returned only if it is in the next frame, and this is an answer. -/
  answered_of_ok : ∀ document, outcome = some (.ok (some document)) →
    ∃ frame : Frame, client.incoming stranger = frame.bytes ++ left ∧
      frame.IsAcceptable client.limit ∧ call.Answers client.nextRequestId frame document
  /-- Otherwise there is an error, unless the stream goes on and the client waits. -/
  returns : (∃ document, outcome = some (.ok (some document))) ∨
    (∃ error, outcome = some (.error error)) ∨ outcome = none ∧ stranger.hasEnded = false
  /-- No more than one frame is taken off the stream. -/
  consumed : client.incoming stranger = left ∨
    ∃ frame : Frame, client.incoming stranger = frame.bytes ++ left ∧
      frame.IsAcceptable client.limit
  /-- An answer is believed. -/
  ok_of_answered : client.receiver.IsReady client.limit → client.CanSend call stranger →
    ∀ frame rest document, client.incoming stranger = frame.bytes ++ rest →
      frame.IsAcceptable client.limit → call.Answers client.nextRequestId frame document →
        outcome = some (.ok (some document))

/-! ### Writing to a stranger -/

section Write

variable (client : Client) (stranger : Stranger)

theorem exists_flush :
    ∃ result, client.flush Stranger.link stranger =
        (some result, { client with backlog := client.backlog.drop stranger.appetite },
          { stranger with appetite := stranger.appetite - client.backlog.length }) ∧
      (client.backlog.length ≤ stranger.appetite → result = .ok ()) := by
  simp only [flush, Stranger.link, Stranger.accept, List.drop_eq_nil_iff]
  split
  · exact ⟨_, rfl, fun _ => rfl⟩
  · rename_i long
    exact ⟨_, rfl, fun short => absurd short long⟩

theorem exists_makeReady :
    ∃ result backlog appetite, client.makeReady Stranger.link stranger =
        (some result, { client with backlog := backlog },
          { stranger with appetite := appetite }) ∧
      ∀ size, client.backlog.length + size ≤ stranger.appetite →
        result = .ok () ∧ backlog.length + size ≤ appetite := by
  simp only [makeReady]
  split
  · rcases client.exists_flush stranger with ⟨result, flushed, complete⟩
    refine ⟨_, _, _, flushed, ?_⟩
    intro size fits
    refine ⟨complete (by omega), ?_⟩
    rw [List.length_drop]
    omega
  · exact ⟨_, _, _, rfl, fun size fits => ⟨rfl, fits⟩⟩

/-- Sending changes only what has been written, and succeeds if the stranger takes in enough. -/
theorem exists_send (frame : Frame) :
    ∃ result backlog appetite, client.send Stranger.link frame stranger =
        (some result, { client with backlog := backlog },
          { stranger with appetite := appetite }) ∧
      (frame.size ≤ client.limit → client.backlog.length + frame.size ≤ stranger.appetite →
        result = .ok ()) := by
  rcases client.exists_makeReady stranger with ⟨result, backlog, appetite, ready, complete⟩
  rw [send, ready]
  cases result with
  | error error =>
      refine ⟨_, _, _, rfl, ?_⟩
      intro _ fits
      exact (complete _ fits).1
  | ok value =>
      simp only [enqueue, Frame.Stream.append]
      by_cases long : client.limit < frame.size
      · simp only [long, ↓reduceIte]
        exact ⟨_, _, _, rfl, fun fits => absurd long (Nat.not_lt.2 fits)⟩
      · simp only [long, ↓reduceIte]
        rcases exists_flush { client with backlog := backlog ++ frame.bytes }
          { stranger with appetite := appetite } with ⟨result, flushed, written⟩
        refine ⟨result, _, _, flushed, ?_⟩
        intro _ fits
        apply written
        rw [List.length_append, Frame.length_bytes]
        exact (complete _ fits).2

end Write

/-! ### The reply -/

section Reply

variable {client : Client} {call : Call} {stranger : Stranger}

theorem await_stranger (answered : call.isAnswered = true) (requestId : Int32) :
    client.await Stranger.link requestId call stranger =
      ((Stranger.deliver client.limit stranger.hasEnded client.receiver stranger.pieces).1.map
        fun answer => (received answer).bind (call.result requestId),
      { client with
        receiver :=
          (Stranger.deliver client.limit stranger.hasEnded client.receiver stranger.pieces).2.1 },
      { stranger with
        pieces :=
          (Stranger.deliver client.limit stranger.hasEnded client.receiver
            stranger.pieces).2.2 }) := by
  simp only [await, answered, ↓reduceIte, receive, Stranger.link, Stranger.supply, Option.map_map]
  rfl

/-- Where no frame is given out, all of the stream is left, and there is no document. -/
theorem Believes.of_left {outcome : Option (Except ProtocolError (Option Document))}
    (fails : (∃ error, outcome = some (.error error)) ∨ outcome = none ∧ stranger.hasEnded = false)
    (missing : client.receiver.IsReady client.limit → client.CanSend call stranger →
      ∀ (frame : Frame) (rest : Bytes), client.incoming stranger = frame.bytes ++ rest →
        ¬frame.IsAcceptable client.limit) :
    client.Believes call stranger outcome (client.incoming stranger) where
  answered_of_ok := by
    intro document returned
    subst returned
    rcases fails with ⟨error, same⟩ | ⟨same, _⟩
    · cases same
    · cases same
  returns := .inr fails
  consumed := .inl rfl
  ok_of_answered := by
    intro ready sent frame rest document stream_eq acceptable _
    exact absurd acceptable (missing ready sent frame rest stream_eq)

/-- A frame that is given out is checked, and returned if it is an answer. -/
theorem Believes.of_frame (answered : call.isAnswered = true) {frame : Frame} {left : Bytes}
    (acceptable : frame.IsAcceptable client.limit)
    (stream_eq : client.incoming stranger = frame.bytes ++ left) :
    client.Believes call stranger (some (call.result client.nextRequestId frame)) left where
  answered_of_ok := by
    intro document returned
    refine ⟨frame, stream_eq, acceptable, ?_⟩
    apply Call.result_eq_ok_iff.1
    exact Option.some.inj returned
  returns := by
    cases checked : call.result client.nextRequestId frame with
    | error error => exact .inr (.inl ⟨error, rfl⟩)
    | ok document =>
        cases document with
        | none => exact absurd checked (Call.result_ne_ok_none answered)
        | some document => exact .inl ⟨document, rfl⟩
  consumed := .inr ⟨frame, stream_eq, acceptable⟩
  ok_of_answered := by
    intro _ _ other rest document other_eq other_acceptable answers
    rcases Frame.Split.eq_of_bytes_eq acceptable other_acceptable (stream_eq.symm.trans other_eq)
      with ⟨rfl, _⟩
    rw [Call.result_eq_ok_iff.2 answers]

/-- A call that has sent its request is given a frame to check, or an error, or it waits. -/
theorem believes_delivered (answered : call.isAnswered = true)
    {answer : Option Frame.Receiver.Answer} {after : Frame.Receiver} {pieces : List Bytes}
    (delivered : Stranger.deliver client.limit stranger.hasEnded client.receiver stranger.pieces =
      (answer, after, pieces)) :
    client.Believes call stranger
      (answer.map fun answer => (received answer).bind (call.result client.nextRequestId))
      (after.buffer ++ pieces.flatten) := by
  have conserves := Stranger.conserves_deliver client.limit stranger.hasEnded client.receiver
    stranger.pieces
  have waits := Stranger.deliver_eq_none client.limit stranger.hasEnded client.receiver
    stranger.pieces
  rw [delivered] at conserves waits
  -- A ready receiver would have found a frame, so there is none where it answers otherwise.
  have missing (other : ∀ frame, answer ≠ some (.frame frame)) :
      client.receiver.IsReady client.limit → client.CanSend call stranger →
        ∀ (frame : Frame) (rest : Bytes), client.incoming stranger = frame.bytes ++ rest →
          ¬frame.IsAcceptable client.limit := by
    intro ready _ frame rest stream_eq acceptable
    have found := Stranger.deliver_of_isReady client.limit stranger.hasEnded ready acceptable
      stream_eq
    rw [delivered] at found
    exact other frame found
  cases answer with
  | none =>
      rcases waits rfl with ⟨rfl, unfinished⟩
      cases conserves with
      | waits buffer_eq =>
          rw [List.flatten_nil, List.append_nil, buffer_eq]
          exact .of_left (.inr ⟨rfl, unfinished⟩) (missing (by simp))
  | some answer =>
      cases answer with
      | frame frame =>
          cases conserves with
          | frame acceptable stream_eq => exact .of_frame answered acceptable stream_eq
      | failed error =>
          cases conserves with
          | failed stream_eq =>
              rw [← stream_eq]
              exact .of_left (.inl ⟨_, rfl⟩) (missing (by simp))
      | ended =>
          cases conserves with
          | ended stream_eq =>
              rw [← stream_eq]
              exact .of_left (.inl ⟨_, rfl⟩) (missing (by simp))

end Reply

/--
Whatever a stranger sends, a call that waits for a reply returns a document only if the next frame
of the stream keeps the limit and answers the request of this call, and then the document in it. In
every other case it returns an error, once the stream has ended, and it takes one frame off the
stream at most.
-/
theorem believes_only_answers (client : Client) (call : Call) (answered : call.isAnswered = true)
    (stranger : Stranger) :
    client.Believes call stranger (client.call Stranger.link call stranger).1
      ((client.call Stranger.link call stranger).2.1.incoming
        (client.call Stranger.link call stranger).2.2) := by
  cases framed : call.frame client.nextRequestId with
  | error error =>
      have called : client.call Stranger.link call stranger =
          (some (.error error), client.afterCall, stranger) := by
        simp only [Client.call, framed]
      rw [called]
      apply Believes.of_left (.inl ⟨error, rfl⟩)
      rintro _ ⟨request, written, _⟩
      rw [framed] at written
      cases written
  | ok request =>
      rcases client.afterCall.exists_send stranger request with
        ⟨result, backlog, appetite, sent, complete⟩
      cases result with
      | error error =>
          have called : client.call Stranger.link call stranger =
              (some (.error error), { client.afterCall with backlog := backlog },
                { stranger with appetite := appetite }) := by
            simp only [Client.call, framed, sent]
          rw [called]
          apply Believes.of_left (.inl ⟨error, rfl⟩)
          rintro _ ⟨other, written, fits, enough⟩
          rw [framed] at written
          cases written
          cases complete fits enough
      | ok value =>
          have called : client.call Stranger.link call stranger =
              ({ client.afterCall with backlog := backlog } : Client).await Stranger.link
                client.nextRequestId call { stranger with appetite := appetite } := by
            simp only [Client.call, framed, sent]
          rw [called, await_stranger answered]
          exact believes_delivered answered rfl

/-- A reply to a request, cut in the middle of its header, and a reply to the second request. -/
def replying (requestId : Int32) : Stranger where
  appetite := 100
  pieces := [(Exchange.blank 8 requestId).bytes.take 5,
    (Exchange.blank 8 requestId).bytes.drop 5 ++ (Exchange.blank 9 2).bytes]
  hasEnded := true

def asking : Call := .command "d" [("n", .null)] []

/-- The first call believes a reply to the first request, and none to the second. -/
theorem believes_only_answers_first :
    asking.isAnswered = true ∧
      (({} : Client).call Stranger.link asking (replying 1)).1 = some (.ok (some [])) ∧
      ∃ error, (({} : Client).call Stranger.link asking (replying 2)).1 =
        some (.error error) := by
  have acceptable (requestId : Int32) :
      (Exchange.blank 8 requestId).IsAcceptable ({} : Client).limit := by
    constructor
    · change (26 : Int32).toInt = 26
      decide
    · change 26 ≤ 48000000
      decide
  have stream_eq (requestId : Int32) : ({} : Client).incoming (replying requestId) =
      (Exchange.blank 8 requestId).bytes ++ (Exchange.blank 9 2).bytes := by
    simp only [incoming, replying, List.nil_append, List.flatten_cons, List.flatten_nil,
      List.append_nil]
    rw [← List.append_assoc, List.take_append_drop]
  have sent : CanSend {} asking (replying 1) := by
    cbv
    exact ⟨_, rfl, by cbv⟩
  refine ⟨rfl, ?_, ?_⟩
  · have believes := believes_only_answers {} asking rfl (replying 1)
    have decoded : Message.decode 8 (Exchange.blank 8 1).body =
        .ok ⟨.msg, [], { requestId := 8, flags := 0, largestDocument := 5 }⟩ := by
      cbv
    exact believes.ok_of_answered (Frame.Receiver.isReady_fresh _) sent _ _ _ (stream_eq 1)
      (acceptable 1) (.command rfl rfl decoded rfl)
  · have believes := believes_only_answers {} asking rfl (replying 2)
    rcases believes.returns with ⟨document, returned⟩ | error | ⟨_, unfinished⟩
    · rcases believes.answered_of_ok document returned with
        ⟨frame, other_eq, other_acceptable, answers⟩
      rcases Frame.Split.eq_of_bytes_eq (acceptable 2) other_acceptable
        ((stream_eq 2).symm.trans other_eq) with ⟨rfl, _⟩
      cases answers with
      | command responseTo_eq => cases responseTo_eq
    · exact error
    · cases unfinished

end Client

end DocumentProtocol
