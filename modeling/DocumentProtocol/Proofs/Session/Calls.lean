import DocumentProtocol.Proofs.Session.Calling
import DocumentProtocol.Proofs.Session.Handling
import DocumentProtocol.Proofs.Session.Reception

/-!
# Calls return what was produced for them

A `Dialogue` is a client that makes some calls one after the other over the pipes of a connection.
It makes a call when no earlier one waits for its reply, and takes in what has come whenever it
likes, while the connection and the bytes in the pipes move in any order.

`Service.Produces` says which document a service produces for each call, by resolving the requests
one after the other. The main statement is that every call that waits for a reply returns just the
document that was produced for it, that no other call leaves anything on its way to the client, and
that the calls come to an end, with nothing left over on either side.

A client waits for one reply at a time. So what the client is owed is nothing or one frame, and it
is owed by the frames that it has sent; `Dialogue.OnTrack` says so and every move keeps it.
-/

namespace DocumentProtocol

variable {Backend : Type}

namespace Client.Call

/-- Whether a call can be sent within a limit, whatever its number is. -/
def Fits (limit : Nat) (call : Call) : Prop :=
  ∀ requestId, ∃ frame, call.frame requestId = .ok frame ∧ frame.size ≤ limit

/-- Whether a document can be sent back for a call within a limit. -/
structure Returns (limit : Nat) (call : Call) (document : Document) : Prop where
  /-- The documents of failures need no condition. -/
  readable : document.Survives ∨ ∃ failure : HandlerError, document = failure.toDocument
  fits : ∀ responseTo replyId, ∃ reply,
    call.operation.replyFrame document responseTo replyId = .ok (some reply) ∧ reply.size ≤ limit

/-- What a call returns when a document has been produced for it. -/
def returned (call : Call) (document : Document) : Option Document :=
  if call.isAnswered then some document else none

theorem isAnswered_operation {call : Call} (answered : call.isAnswered = true) :
    call.operation.isAnswered = true := by
  cases call with
  | command database document sequences => rfl
  | unacknowledged database document => cases answered
  | legacy database document => rfl
  | insert collection documents => cases answered

/-- There is a reply to a call with any document that can be sent back, and it is read as that. -/
theorem Returns.exists_reply {limit : Nat} {call : Call} {document : Document}
    (returns : call.Returns limit document) (answered : call.isAnswered = true)
    (requestId replyId : Int32) :
    ∃ reply, (call.request requestId).IsReply document requestId replyId reply ∧
      reply.IsAcceptable limit ∧ call.result requestId reply = .ok (some document) := by
  have awaits : (call.request requestId).operation.isAnswered = true := by
    rw [operation_request]
    exact isAnswered_operation answered
  rcases returns.fits requestId replyId with ⟨reply, written, size_le⟩
  rw [← operation_request call requestId] at written
  have isReply := Request.isReply_of_replyFrame awaits written
  refine ⟨reply, isReply, ⟨isReply.length_eq, size_le⟩, ?_⟩
  apply result_of_isReply answered _ isReply
  rcases returns.readable with survives | ⟨failure, rfl⟩
  · exact survives
  · exact isReply.survives failure.isPlain_toDocument

end Client.Call

/-- Making a call is writing its frame behind what has yet to be sent and awaiting the reply. -/
theorem Client.call_eq_await {client : Client} {call : Call} {counterpart : Counterpart}
    {frame : Frame} (written : client.backlog = []) (stays : counterpart.hasLeft = false)
    (framed : call.frame client.nextRequestId = .ok frame) (size_le : frame.size ≤ client.limit) :
    client.call Counterpart.link call counterpart =
      client.afterCall.await Counterpart.link client.nextRequestId call
        { counterpart with received := counterpart.received ++ frame.bytes } := by
  have sent : client.afterCall.send Counterpart.link frame counterpart =
      (some (.ok ()), client.afterCall,
        { counterpart with received := counterpart.received ++ frame.bytes }) := by
    rcases client with ⟨limit, requestId, receiver, backlog⟩
    subst written
    simp [send, makeReady, backlogBound, enqueue, Frame.Stream.append, Nat.not_lt.2 size_le, flush,
      Counterpart.link, Counterpart.accept, stays, afterCall, bind, Except.bind, pure, Except.pure]
  simp only [Client.call, framed, sent]

/--
A client that is to receive a frame of which some bytes have come receives this frame, if all of
them have, and otherwise takes in what has come.
-/
theorem Client.receive_of_owed {client : Client} {reply : Frame} {missing : Bytes}
    (ready : client.receiver.IsReady client.limit) (counterpart : Counterpart)
    (stays : counterpart.hasLeft = false) (acceptable : reply.IsAcceptable client.limit)
    (owed_eq : client.receiver.buffer ++ counterpart.unread ++ missing = reply.bytes) :
    ∃ answer receiver, client.receive Counterpart.link counterpart =
        (answer, { client with receiver := receiver }, { counterpart with unread := [] }) ∧
      receiver.IsReady client.limit ∧
      (answer = some (.ok reply) ∧ receiver.buffer = [] ∧ missing = [] ∨
        answer = none ∧ receiver.buffer = client.receiver.buffer ++ counterpart.unread ∧
          missing ≠ []) := by
  have found := Frame.Stream.next_eq_some_iff.2 ⟨(List.append_nil reply.bytes).symm, acceptable⟩
  rcases Reception.receives_receive ready counterpart with
    ⟨answer, receiver, rest, received_eq, receives, emptied⟩
  rw [received_eq]
  rw [stays] at receives
  rcases answer with _ | answer
  · cases emptied rfl
    cases receives with
    | waits ready _ buffer_eq incomplete =>
        refine ⟨none, receiver, rfl, ready, .inr ⟨rfl, buffer_eq, ?_⟩⟩
        rintro rfl
        rw [List.append_nil] at owed_eq
        rw [owed_eq, found] at incomplete
        cases incomplete
  · generalize given : Option.map (fun answer => (answer, rest)) (some answer) = outcome at receives
    cases receives with
    | @frame frame left after ready frame_acceptable available_eq =>
        cases given
        rw [available_eq, List.append_assoc] at owed_eq
        rcases Frame.Split.eq_of_bytes_eq frame_acceptable acceptable
          (owed_eq.trans (List.append_nil _).symm) with ⟨rfl, rest_eq⟩
        simp only [List.append_eq_nil_iff] at rest_eq
        rcases rest_eq with ⟨⟨buffer_eq, rfl⟩, rfl⟩
        exact ⟨_, receiver, rfl, ready, .inl ⟨rfl, buffer_eq, rfl⟩⟩
    | bad available_eq failed =>
        rw [available_eq, List.append_assoc] at owed_eq
        have failed := Frame.Stream.next_append_of_error failed
        rw [← owed_eq, failed] at found
        cases found
    | cut finished _ _ => cases finished
    | ended finished _ => cases finished
    | waits => cases given

namespace Service

/--
The documents that a service produces for some calls one after the other, whether the client waits
for them or not, and the backend after them. The number is that of the first request.
-/
inductive Produces (service : Service Backend) :
    List Client.Call → Int32 → Backend → List Document → Backend → Prop where
  | done {requestId : Int32} {backend : Backend} :
      Produces service [] requestId backend [] backend
  | next {call : Client.Call} {calls : List Client.Call} {requestId : Int32}
      {backend between after : Backend} {document : Document} {documents : List Document}
      (resolves : service.Resolves (call.request requestId) backend document between)
      (rest : Produces service calls (requestId + 1) between documents after) :
      Produces service (call :: calls) requestId backend (document :: documents) after

end Service

/-- A client that makes some calls, and the connection that it makes them to. -/
structure Dialogue where
  client : Client
  exchange : Exchange
  /-- The calls that the client has yet to make. -/
  calls : List Client.Call
  /-- The call that waits for a reply, and the number of its request. -/
  waiting : Option (Int32 × Client.Call) := none
  /-- What the calls have returned so far. -/
  results : List (Except ProtocolError (Option Document)) := []

namespace Dialogue

def start (limit capacity : Nat) (requestId : Int32) (calls : List Client.Call) : Dialogue where
  client := { limit := limit, nextRequestId := requestId }
  exchange := .start capacity
  calls := calls

/-- Goes on after a call has returned something or has found that it must wait. -/
def goOn (dialogue : Dialogue) (requestId : Int32) (call : Client.Call)
    (answer : Option (Except ProtocolError (Option Document)) × Client × Counterpart) : Dialogue :=
  { dialogue with
    client := answer.2.1
    exchange := dialogue.exchange.withCounterpart answer.2.2
    waiting := if answer.1.isNone then some (requestId, call) else none
    results := dialogue.results ++ answer.1.toList }

/-- What can happen next while a client makes its calls. -/
inductive Move (service : Service Backend) :
    Dialogue × SharedState Backend → Dialogue × SharedState Backend → Prop where
  /-- The connection takes a step, or bytes go into a pipe or come out of one. -/
  | exchange {dialogue : Dialogue} {next : Exchange} {shared after : SharedState Backend}
      (moved : Exchange.CalmMove service (dialogue.exchange, shared) (next, after))
      (unfinished : next.connection.inbound.isFinished = false) :
      Move service (dialogue, shared) ({ dialogue with exchange := next }, after)
  | call {dialogue : Dialogue} {shared : SharedState Backend} {call : Client.Call}
      {calls : List Client.Call} (calls_eq : dialogue.calls = call :: calls)
      (free : dialogue.waiting = none) :
      Move service (dialogue, shared)
        ({ dialogue with calls := calls }.goOn dialogue.client.nextRequestId call
          (dialogue.client.call Counterpart.link call dialogue.exchange.counterpart), shared)
  /-- The call that waits takes in what has come. -/
  | await {dialogue : Dialogue} {shared : SharedState Backend} {requestId : Int32}
      {call : Client.Call}
      {answer : Option (Except ProtocolError (Option Document)) × Client × Counterpart}
      (waits : dialogue.waiting = some (requestId, call))
      (awaited : dialogue.client.await Counterpart.link requestId call
        dialogue.exchange.counterpart = answer)
      (progress : answer.1.isSome ∨ dialogue.exchange.inbox ≠ []) :
      Move service (dialogue, shared) (dialogue.goOn requestId call answer, shared)

/-- What is on its way to the client. -/
def incoming (dialogue : Dialogue) : Bytes :=
  dialogue.client.receiver.buffer ++ dialogue.exchange.written ++
    dialogue.exchange.connection.phase.pending

/-- What is on its way to the connection. -/
def outgoing (dialogue : Dialogue) : Bytes :=
  dialogue.exchange.connection.ahead ++ dialogue.exchange.outbox ++ dialogue.client.backlog

/-- Whether all calls have been made and have returned, and nothing is left of them. -/
structure IsDone (dialogue : Dialogue) : Prop where
  calls_eq : dialogue.calls = []
  free : dialogue.waiting = none
  incoming_eq : dialogue.incoming = []
  outgoing_eq : dialogue.outgoing = []
  phase_eq : ∃ since, dialogue.exchange.connection.phase = .awaitingHeader [] since

/-- What a client waits for: the reply that it is owed, and what its call is to return. -/
inductive Awaits (limit : Nat) :
    Option (Int32 × Client.Call) → List Frame → List (Option Document) → Prop where
  | nothing : Awaits limit none [] []
  | reply {requestId : Int32} {call : Client.Call} {reply : Frame} {document : Document}
      (answered : call.isAnswered = true) (acceptable : reply.IsAcceptable limit)
      (result_eq : call.result requestId reply = .ok (some document)) :
      Awaits limit (some (requestId, call)) [reply] [some document]

/-- Calls that can be made, and the documents that are produced for them. -/
structure Agenda (service : Service Backend) (limit : Nat) (calls : List Client.Call)
    (requestId : Int32) (backend : Backend) (documents : List Document) (after : Backend) :
    Prop where
  produces : service.Produces calls requestId backend documents after
  sound : ∀ call ∈ calls, call.IsSound
  fits : ∀ call ∈ calls, call.Fits (min limit service.maxMessageSize)
  returns : List.Forall₂ (fun call document => call.isAnswered = true →
    call.Returns limit document) calls documents

/-- The first of some calls can be made, and so can the others after it. -/
theorem Agenda.uncons {service : Service Backend} {limit : Nat} {call : Client.Call}
    {calls : List Client.Call} {requestId : Int32} {backend after : Backend}
    {documents : List Document}
    (agenda : Agenda service limit (call :: calls) requestId backend documents after) :
    ∃ document others between frame, documents = document :: others ∧
      service.Resolves (call.request requestId) backend document between ∧
      Agenda service limit calls (requestId + 1) between others after ∧
      (call.isAnswered = true → call.Returns limit document) ∧
      call.frame requestId = .ok frame ∧ frame.Carries (call.request requestId) ∧
      frame.IsAcceptable service.maxMessageSize ∧ frame.size ≤ limit := by
  rcases agenda with ⟨produces, sound, fits, returns⟩
  rcases fits call (by simp) requestId with ⟨frame, framed, size_le⟩
  have carries := Client.Call.carries_of_isSound (sound call (by simp)) framed
  have length_eq := (Client.Call.frame_eq_ok_iff.1 framed).2.1
  cases produces with
  | @next _ _ _ _ between _ document others resolves rest =>
      cases returns with
      | cons first returns =>
          refine ⟨document, others, between, frame, rfl, resolves, ⟨rest, ?_, ?_, returns⟩, first,
            framed, carries, ⟨length_eq, by omega⟩, by omega⟩
          · intro other mem
            exact sound other (by simp [mem])
          · intro other mem
            exact fits other (by simp [mem])

/-- What holds throughout a dialogue. -/
structure OnTrack (service : Service Backend) (limit : Nat) (all : List (Option Document))
    (last : Backend) (state : Dialogue × SharedState Backend) : Prop where
  limit_eq : state.1.client.limit = limit
  written : state.1.client.backlog = []
  ready : state.1.client.receiver.IsReady limit
  duties : ∃ due owed awaited documents between number,
    Exchange.OnDuty service due owed state.1.client.receiver.buffer between number
      (state.1.exchange, state.2) ∧
    Agenda service limit state.1.calls state.1.client.nextRequestId between documents last ∧
    Awaits limit state.1.waiting owed awaited ∧
    state.1.results ++ awaited.map .ok ++
      (List.zipWith Client.Call.returned state.1.calls documents).map .ok = all.map .ok

namespace OnTrack

variable {service : Service Backend} {limit : Nat} {all : List (Option Document)} {last : Backend}
  {dialogue : Dialogue} {shared : SharedState Backend}

/-- A call that waits goes on waiting, or returns what it is to return. -/
theorem await {requestId : Int32} {call : Client.Call}
    (track : OnTrack service limit all last (dialogue, shared))
    (waits : dialogue.waiting = some (requestId, call)) :
    OnTrack service limit all last
      (dialogue.goOn requestId call
        (dialogue.client.await Counterpart.link requestId call dialogue.exchange.counterpart),
        shared) := by
  rcases track with ⟨rfl, written, ready, due, owed, awaited, documents, between, number, duty,
    agenda, awaits, results_eq⟩
  dsimp only at *
  rw [waits] at awaits
  cases awaits with
  | @reply _ _ reply document answered acceptable result_eq =>
      have single : Frame.allBytes [reply] = reply.bytes := by simp
      rcases duty.exists_missing with ⟨missing, owed_eq⟩
      rw [single] at owed_eq
      rcases Client.receive_of_owed ready dialogue.exchange.counterpart rfl acceptable owed_eq with
        ⟨answer, receiver, received, after_ready, ⟨rfl, buffer_eq, rfl⟩ | ⟨rfl, buffer_eq, _⟩⟩
      · have answer_eq : dialogue.client.await Counterpart.link requestId call
            dialogue.exchange.counterpart =
              (some (.ok (some document)), { dialogue.client with receiver := receiver },
                { dialogue.exchange.counterpart with unread := [] }) := by
          simp [Client.await, answered, received, Except.bind, result_eq]
        rw [answer_eq]
        refine ⟨rfl, written, after_ready, due, [], [], documents, between, number, ?_, agenda,
          .nothing, ?_⟩
        · apply duty.take reply.bytes
          · rw [← owed_eq]
            simp [goOn, buffer_eq]
          · simp
        · rw [← results_eq]
          simp [goOn]
      · have answer_eq : dialogue.client.await Counterpart.link requestId call
            dialogue.exchange.counterpart =
              (none, { dialogue.client with receiver := receiver },
                { dialogue.exchange.counterpart with unread := [] }) := by
          simp [Client.await, answered, received]
        rw [answer_eq]
        refine ⟨rfl, written, after_ready, due, [reply], [some document], documents, between,
          number, ?_, agenda, .reply answered acceptable result_eq, ?_⟩
        · apply duty.take []
          · simp [goOn, buffer_eq, Exchange.counterpart]
          · simp
        · rw [← results_eq]
          simp [goOn]

/-- A client that is free makes its next call. -/
theorem call {call : Client.Call} {calls : List Client.Call}
    (track : OnTrack service limit all last (dialogue, shared))
    (calls_eq : dialogue.calls = call :: calls) (free : dialogue.waiting = none) :
    OnTrack service limit all last
      ({ dialogue with calls := calls }.goOn dialogue.client.nextRequestId call
        (dialogue.client.call Counterpart.link call dialogue.exchange.counterpart), shared) := by
  rcases track with ⟨rfl, written, ready, due, owed, awaited, documents, between, number, duty,
    agenda, awaits, results_eq⟩
  dsimp only at *
  rw [calls_eq] at agenda results_eq
  rw [free] at awaits
  cases awaits
  rcases agenda.uncons with ⟨document, others, after, frame, rfl, resolves, agenda, returns, framed,
    carries, acceptable, size_le⟩
  rw [Client.call_eq_await written rfl framed size_le]
  cases answered : call.isAnswered with
  | false =>
      have silent := Client.Call.isSilent_of_isAnswered answered dialogue.client.nextRequestId
      have posted := duty.post acceptable (.silent carries resolves silent .done)
      rw [Client.await, if_neg (by simp [answered])]
      refine ⟨rfl, written, ready, _, [], [], others, after, number, posted, agenda, .nothing, ?_⟩
      rw [← results_eq]
      simp [goOn, Client.Call.returned, answered]
  | true =>
      have waits := Client.Call.awaitsReply_of_isAnswered answered dialogue.client.nextRequestId
      rcases (returns answered).exists_reply answered dialogue.client.nextRequestId number with
        ⟨reply, isReply, reply_acceptable, result_eq⟩
      have sent_reply : (call.request dialogue.client.nextRequestId).IsReply document
          frame.header.requestId number reply := by
        rw [(Client.Call.frame_eq_ok_iff.1 framed).2.2.1]
        exact isReply
      have posted := duty.post acceptable (.answered carries resolves waits sent_reply .done)
      have asked : OnTrack service dialogue.client.limit all last
          ({ dialogue with
              client := dialogue.client.afterCall
              exchange := dialogue.exchange.withCounterpart
                { dialogue.exchange.counterpart with
                  received := dialogue.exchange.outbox ++ frame.bytes }
              calls := calls
              waiting := some (dialogue.client.nextRequestId, call) }, shared) := by
        refine ⟨rfl, written, ready, _, [reply], [some document], others, after, number + 1, posted,
          agenda, .reply answered reply_acceptable result_eq, ?_⟩
        rw [← results_eq]
        simp [Client.Call.returned, answered]
      exact asked.await rfl

theorem move {before after : Dialogue × SharedState Backend}
    (track : OnTrack service limit all last before) (move : Move service before after) :
    OnTrack service limit all last after := by
  cases move with
  | exchange moved unfinished =>
      rcases track with ⟨limit_eq, written, ready, due, owed, awaited, documents, between, number,
        duty, agenda, awaits, results_eq⟩
      rcases duty.calmMove moved unfinished with ⟨rest, duty⟩
      exact ⟨limit_eq, written, ready, rest, owed, awaited, documents, between, number, duty,
        agenda, awaits, results_eq⟩
  | call calls_eq free => exact track.call calls_eq free
  | await waits awaited _ =>
      subst awaited
      exact track.await waits

theorem of_run {before after : Dialogue × SharedState Backend}
    (track : OnTrack service limit all last before)
    (run : Relation.ReflTransGen (Move service) before after) :
    OnTrack service limit all last after := by
  induction run with
  | refl => exact track
  | tail _ move ih => exact ih.move move

theorem of_start {calls : List Client.Call} {requestId : Int32} {documents : List Document}
    {capacity : Nat} (positive : 0 < capacity)
    (agenda : Agenda service limit calls requestId shared.backend documents last) :
    OnTrack service limit (List.zipWith Client.Call.returned calls documents) last
      (start limit capacity requestId calls, shared) where
  limit_eq := rfl
  written := rfl
  ready := Frame.Receiver.isReady_fresh limit
  duties := by
    refine ⟨[], [], [], documents, shared.backend, shared.nextReplyId, ?_, agenda, .nothing, rfl⟩
    exact
      { running := Connection.not_isClosed_of_outcome rfl
        sound := .awaitingHeader (by simp [Header.size])
        acceptable := by simp
        unhandled_eq := rfl
        handles := ⟨[], .done, rfl⟩
        steady := Exchange.isSteady_offering positive []
        unfinished := rfl }

/-- While no call waits, nothing is on its way to the client. -/
theorem incoming_eq (track : OnTrack service limit all last (dialogue, shared))
    (free : dialogue.waiting = none) : dialogue.incoming = [] := by
  rcases track.duties with ⟨due, owed, awaited, documents, between, number, duty, _, awaits, _⟩
  dsimp only at *
  rw [free] at awaits
  cases awaits
  rcases duty.handles with ⟨replies, _, owed_eq⟩
  exact (List.append_eq_nil_iff.1 owed_eq).1

theorem results_prefix (track : OnTrack service limit all last (dialogue, shared)) :
    dialogue.results <+: all.map .ok := by
  rcases track.duties with ⟨due, owed, awaited, documents, between, number, _, _, _, results_eq⟩
  rw [← results_eq, List.append_assoc]
  exact List.prefix_append _ _

theorem exchange_stuck (stuck : ∀ next, ¬Move service (dialogue, shared) next)
    (next : Exchange × SharedState Backend)
    (moved : Exchange.CalmMove service (dialogue.exchange, shared) next) :
    next.1.connection.inbound.isFinished = true := by
  apply Classical.byContradiction
  intro unfinished
  exact stuck _ (.exchange moved (Bool.eq_false_iff.2 unfinished))

/-- Where a dialogue can go no further, the reply that is owed has come, so no call waits. -/
theorem free_of_stuck (track : OnTrack service limit all last (dialogue, shared))
    (stuck : ∀ next, ¬Move service (dialogue, shared) next) : dialogue.waiting = none := by
  rcases track with ⟨rfl, _, ready, due, owed, awaited, documents, between, number, duty, _, awaits,
    _⟩
  dsimp only at *
  cases waits : dialogue.waiting with
  | none => rfl
  | some waiting =>
      rw [waits] at awaits
      cases awaits with
      | @reply requestId call reply document answered acceptable result_eq =>
          rcases duty.of_stuck (exchange_stuck stuck) with ⟨rfl, _, _, collected, since, phase_eq⟩
          rcases duty.handles with ⟨replies, handles, owed_eq⟩
          cases handles
          have arrived : dialogue.client.receiver.buffer ++ dialogue.exchange.inbox ++ [] =
              reply.bytes := by
            simpa [Exchange.written, collected, phase_eq, Phase.pending] using owed_eq
          rcases Client.receive_of_owed ready dialogue.exchange.counterpart rfl acceptable arrived
            with ⟨answer, receiver, received, _, ⟨rfl, _, _⟩ | ⟨_, _, missing⟩⟩
          · refine absurd (.await waits rfl (.inl ?_)) (stuck _)
            simp [Client.await, answered, received]
          · exact absurd rfl missing

/-- Where a dialogue can go no further, everything has been done. -/
theorem of_stuck (track : OnTrack service limit all last (dialogue, shared))
    (stuck : ∀ next, ¬Move service (dialogue, shared) next) :
    dialogue.IsDone ∧ dialogue.results = all.map .ok ∧ shared.backend = last := by
  have free := track.free_of_stuck stuck
  have made : dialogue.calls = [] := by
    cases calls_eq : dialogue.calls with
    | nil => rfl
    | cons call calls => exact absurd (.call calls_eq free) (stuck _)
  have incoming_eq := track.incoming_eq free
  rcases track with ⟨_, written, _, due, owed, awaited, documents, between, number, duty, agenda,
    awaits, results_eq⟩
  dsimp only at *
  rw [made] at agenda results_eq
  rw [free] at awaits
  cases awaits
  rcases duty.handles with ⟨replies, handles, _⟩
  have settled := duty.of_stuck (exchange_stuck stuck)
  rcases settled with ⟨rfl, sent, _, _, since, phase_eq⟩
  refine ⟨⟨made, free, incoming_eq, ?_, since, phase_eq⟩, ?_, ?_⟩
  · rw [outgoing, written, List.append_nil]
    exact duty.ahead_eq (by rw [phase_eq]; rfl)
  · simpa using results_eq
  · cases handles
    cases agenda.produces
    rfl

end OnTrack

/-! ### Dialogues end -/

/-- What is left to happen: calls first, then what the exchange does, then taking in. -/
def remaining (dialogue : Dialogue) : Nat × ((Nat × (Nat × Nat × Nat) × Nat) × Nat) × Nat :=
  (2 * dialogue.calls.length + (if dialogue.waiting.isSome then 1 else 0),
    dialogue.exchange.remaining, dialogue.exchange.inbox.length)

/-- A client that goes on waiting has taken in all that has come. -/
theorem await_eq_none {client after : Client} {requestId : Int32} {call : Client.Call}
    {counterpart behind : Counterpart}
    (awaited : client.await Counterpart.link requestId call counterpart = (none, after, behind)) :
    behind = { counterpart with unread := [] } := by
  simp only [Client.await, Client.receive, Counterpart.link, Counterpart.supply] at awaited
  split at awaited
  · split at awaited <;> cases awaited
    rfl
  · cases awaited

theorem remaining_move {service : Service Backend} {before after : Dialogue × SharedState Backend}
    (move : Move service before after) :
    Prod.Lex (· < ·) (Prod.Lex (Prod.Lex Exchange.Before (· < ·)) (· < ·)) after.1.remaining
      before.1.remaining := by
  cases move with
  | exchange moved _ =>
      apply Prod.Lex.right
      apply Prod.Lex.left
      exact Exchange.remaining_calmMove moved
  | call calls_eq free =>
      apply Prod.Lex.left
      simp only [goOn, calls_eq, free, List.length_cons]
      split
      · simp
        omega
      · simp
  | @await dialogue shared requestId call answer waits awaited progress =>
      rcases answer with ⟨_ | result, client, counterpart⟩
      · cases await_eq_none awaited
        simp only [remaining, goOn, waits]
        apply Prod.Lex.right
        apply Prod.Lex.right
        simp only [Option.isSome_none, Bool.false_eq_true, false_or] at progress
        exact List.length_pos_iff.2 progress
      · apply Prod.Lex.left
        simp [goOn, waits]

/-- No dialogue goes on for ever. -/
theorem wellFounded_move (service : Service Backend) :
    WellFounded fun after before => Move service before after := by
  have lex : WellFounded (Prod.Lex (· < ·) (Prod.Lex (Prod.Lex Exchange.Before (· < ·)) (· < ·)) :
      Nat × ((Nat × (Nat × Nat × Nat) × Nat) × Nat) × Nat → _) :=
    (Prod.lex Nat.lt_wfRel
      (Prod.lex (Prod.lex ⟨_, Exchange.wellFounded_before⟩ Nat.lt_wfRel) Nat.lt_wfRel)).wf
  apply Subrelation.wf _ (InvImage.wf (fun state => state.1.remaining) lex)
  intro after before move
  exact remaining_move move

/-- What a state of a dialogue has to do with what its calls are to return. -/
structure Obtains (service : Service Backend) (due : List (Option Document)) (backend : Backend)
    (state : Dialogue × SharedState Backend) : Prop where
  /-- The calls that have returned are the first, and each has returned what it is to return. -/
  results_prefix : state.1.results <+: due.map .ok
  /-- While no call waits for a reply, nothing is on its way to the client. -/
  incoming_eq : state.1.waiting = none → state.1.incoming = []
  /-- Where the dialogue can go no further, all calls have returned and nothing is left of them. -/
  of_stuck : (∀ next, ¬Move service state next) →
    state.1.IsDone ∧ state.1.results = due.map .ok ∧ state.2.backend = backend

/--
Every call of a client returns what was produced for it, if it waits for a reply, and nothing
otherwise, whatever the calls are, whatever number the first of them has, and however they are
interleaved with the connection; and no dialogue goes on for ever.
-/
theorem calls_return (service : Service Backend) (shared : SharedState Backend)
    (calls : List Client.Call) (requestId : Int32) (documents : List Document) (after : Backend)
    (limit capacity : Nat) (positive : 0 < capacity)
    (produces : service.Produces calls requestId shared.backend documents after)
    (sound : ∀ call ∈ calls, call.IsSound)
    (fits : ∀ call ∈ calls, call.Fits (min limit service.maxMessageSize))
    (returns : List.Forall₂ (fun call document => call.isAnswered = true →
      call.Returns limit document) calls documents) :
    (∀ state, Relation.ReflTransGen (Move service)
        (start limit capacity requestId calls, shared) state →
      Obtains service (List.zipWith Client.Call.returned calls documents) after state) ∧
      Acc (fun after before => Move service before after)
        (start limit capacity requestId calls, shared) := by
  refine ⟨?_, (wellFounded_move service).apply _⟩
  intro state run
  have track := (OnTrack.of_start positive ⟨produces, sound, fits, returns⟩).of_run run
  exact ⟨track.results_prefix, track.incoming_eq, track.of_stuck⟩

/-- A responder that numbers the requests that it answers. -/
def tally : Responder Nat where
  name := "tally"
  accepts := Predicate.firstKeyIs "n"
  handle _ _ count := (.ok [("n", .int32 (Int32.ofNat count))], count + 1)

def tallying : Service Nat where
  registry := ⟨[tally]⟩
  maxMessageSize := 200
  maxDocumentSize := 100
  idleTimeout := 0
  writeTimeout := 0

def tallyCalls : List Client.Call :=
  [.unacknowledged "d" [("n", .null)], .command "d" [("n", .null)] [], .legacy "d" [("x", .null)]]

def tallyDocuments : List Document :=
  [[("n", .int32 0)], [("n", .int32 1)],
    (HandlerError.commandNotFound "no such command: 'x'").toDocument]

theorem produces_tally : tallying.Produces tallyCalls Int32.maxValue 0 tallyDocuments 2 := by
  have first (query : Document) (named : query.commandName = "n") :
      tallying.registry.IsFirst query tally :=
    ⟨by simp [tally, Predicate.firstKeyIs, named], [], [], rfl, by simp⟩
  apply Service.Produces.next (.handled (by decide) (first _ (by decide)) rfl)
  apply Service.Produces.next (.handled (by decide) (first _ (by decide)) rfl)
  apply Service.Produces.next (.unmatched (by decide) _)
  · exact .done
  · intro responder mem
    rw [List.mem_singleton.1 mem]
    rfl

theorem sound_tally : ∀ call ∈ tallyCalls, call.IsSound := by
  simp only [tallyCalls, List.forall_mem_cons]
  exact ⟨.unacknowledged (by decide), .command (by decide) (by simp),
    .legacy (by decide) (by decide), by simp⟩

theorem fits_tally : ∀ call ∈ tallyCalls, call.Fits 200 := by
  simp only [tallyCalls, List.forall_mem_cons]
  refine ⟨?_, ?_, ?_, by simp⟩
  all_goals
    intro requestId
    cbv
    exact ⟨_, rfl, by cbv⟩

theorem returns_tally : List.Forall₂ (fun call document => call.isAnswered = true →
    call.Returns 200 document) tallyCalls tallyDocuments := by
  refine .cons ?_ (.cons ?_ (.cons ?_ .nil))
  · simp [Client.Call.isAnswered]
  · intro _
    refine ⟨.inl (by decide), ?_⟩
    intro responseTo replyId
    cbv
    exact ⟨_, rfl, by cbv⟩
  · intro _
    refine ⟨.inr ⟨_, rfl⟩, ?_⟩
    intro responseTo replyId
    cbv
    exact ⟨_, rfl, by cbv⟩

/--
The first of three calls has the last number before the numbers wrap. It waits for nothing, and the
document that is produced for it goes to no other call.
-/
theorem calls_return_tally :
    0 < 1 ∧ tallying.Produces tallyCalls Int32.maxValue 0 tallyDocuments 2 ∧
      (∀ call ∈ tallyCalls, call.IsSound) ∧
      (∀ call ∈ tallyCalls, call.Fits (min 200 tallying.maxMessageSize)) ∧
      List.Forall₂ (fun call document => call.isAnswered = true → call.Returns 200 document)
        tallyCalls tallyDocuments ∧
      ∀ state, Relation.ReflTransGen (Move tallying)
          (start 200 1 Int32.maxValue tallyCalls, { backend := 0 }) state →
        (∀ next, ¬Move tallying state next) →
          state.1.results = [.ok none, .ok (some [("n", .int32 1)]),
            .ok (some (HandlerError.commandNotFound "no such command: 'x'").toDocument)] := by
  refine ⟨by decide, produces_tally, sound_tally, fits_tally, returns_tally, ?_⟩
  intro state run stuck
  have returned := calls_return tallying { backend := 0 } tallyCalls Int32.maxValue tallyDocuments 2
    200 1 (by decide) produces_tally sound_tally fits_tally returns_tally
  exact ((returned.1 state run).of_stuck stuck).2.1

end Dialogue

end DocumentProtocol
