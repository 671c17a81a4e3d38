import DocumentProtocol.Proofs.Session.Calling
import DocumentProtocol.Proofs.Session.Parallel
import DocumentProtocol.Proofs.Session.Scrutiny

/-!
# Calls that are not sent

A call fails before it is sent if its message cannot be written or is above the limit of the client
(`Client.IsUnsent`). It has used up a number by then, and if the backlog was overdue it has written
that. The main statement is that nothing else is left of it: no byte of the call is written, nothing
is read, and whatever calls follow, they make the same requests and have the same outcomes as
without it, except that every request has the next number.

What follows depends on the far end, which sees the numbers as well. It has to be parallel, so that
it goes on alike for two clients whose requests differ in their numbers only (`Link.IsParallel`). A
connection is, if its responders do not look at the numbers (`Exchange.isParallel_link`).

So the argument is a simulation. `Client.Level` relates the two clients with what lies behind their
links, every step of a call keeps it, and so does a call. After an overdue backlog has been written
for the call in vain, the clients are level again with the next request (`Client.Trails`).
-/

namespace DocumentProtocol

/-- A request has the same length and the same text, whatever its number is. -/
theorem Client.Call.frame_add_one (call : Call) (requestId : Int32) :
    call.frame (requestId + 1) = (call.frame requestId).map Frame.renumbered := by
  rw [frame_eq_bind, frame_eq_bind]
  cases call.body with
  | error error => rfl
  | ok body => exact Frame.make_add_one requestId 0 call.operation.opcode.code body

namespace Client

/-- What a call comes to; nothing while it waits. -/
abbrev Outcome := Option (Except ProtocolError (Option Document))

namespace Outcome

/-- Whether two outcomes are the same, up to the numbers of requests that an error names. -/
inductive IsSame : Outcome → Outcome → Prop where
  | refl (outcome : Outcome) : IsSame outcome outcome
  | otherRequest (number : Int32) {first second : Int32}
      (answered_eq : first = second ∨ first = second + 1) :
      IsSame (some (.error (.malformed (.otherRequest first (number + 1)))))
        (some (.error (.malformed (.otherRequest second number))))

theorem isSame_of_areAlike {number : Int32} {first second : Option Frame.Receiver.Answer}
    (alike : Frame.Receiver.Answer.AreAlike number first second) (call : Call) :
    IsSame ((first.map received).map fun reply => reply.bind (call.result (number + 1)))
      ((second.map received).map fun reply => reply.bind (call.result number)) := by
  cases alike with
  | waits => exact .refl _
  | failed error => exact .refl _
  | ended => exact .refl _
  | @frame first second requestId_eq opcode_eq body_eq responseTo_eq answers_iff =>
      simp only [Option.map_some, received, Except.bind]
      by_cases answers : second.header.responseTo = number
      · rw [Call.result_of_eq answers, Call.result_of_eq (answers_iff.2 answers)]
        simp only [messageDocument, legacyDocument, requestId_eq, opcode_eq, body_eq]
        exact .refl _
      · rw [Call.result_of_ne answers, Call.result_of_ne (mt answers_iff.1 answers)]
        exact .otherRequest number responseTo_eq

end Outcome

variable {State : Type}

/-- Makes some calls one after the other, also after one that has been given up. -/
def callAll (link : Link State) : List Call → Client → State → List Outcome × Client × State
  | [], client, state => ([], client, state)
  | call :: calls, client, state =>
      let (outcome, client, state) := client.call link call state
      let (outcomes, client, state) := callAll link calls client state
      (outcome :: outcomes, client, state)

/-- Whether some frames are requests of some of the calls, which are numbered from a number on. -/
inductive Call.Requests : Int32 → List Call → List Frame → Prop where
  | nil (number : Int32) : Requests number [] []
  | unsent {number : Int32} {call : Call} {calls : List Call} {requests : List Frame} :
      Requests (number + 1) calls requests → Requests number (call :: calls) requests
  | sent {number : Int32} {call : Call} {calls : List Call} {request : Frame}
      {requests : List Frame} (framed : call.frame number = .ok request) :
      Requests (number + 1) calls requests → Requests number (call :: calls) (request :: requests)

/-- Whether a call fails before it is sent, with an error. -/
inductive IsUnsent (link : Link State) (client : Client) (state : State) (call : Call) :
    ProtocolError → Prop where
  /-- A document cannot be written, or the message is too long for its length field. -/
  | unwritable {error : ProtocolError} (framed : call.frame client.nextRequestId = .error error) :
      IsUnsent link client state call error
  /-- The message is above the limit; a backlog that is overdue has been written by then. -/
  | tooLong {frame : Frame} (framed : call.frame client.nextRequestId = .ok frame)
      (long : client.limit < frame.size)
      (written : backlogBound ≤ client.backlog.length → (link.write client.backlog state).1 = []) :
      IsUnsent link client state call (.oversizedFrame frame.size)

/-- What a call that is not sent leaves of a client and a far end: all as it is, or less backlog. -/
inductive LeavesAlone (link : Link State) (client : Client) (state : State) :
    Client × State → Prop where
  | untouched : LeavesAlone link client state (client.afterCall, state)
  | caughtUp (overdue : backlogBound ≤ client.backlog.length)
      (written : (link.write client.backlog state).1 = []) :
      LeavesAlone link client state
        ({ client.afterCall with backlog := [] }, (link.write client.backlog state).2)

/--
Whether two clients that have made the same calls have the same outcomes and have taken on the same
requests to send, except that those of the first have the next numbers.
-/
structure Agree (earlier : Bytes) (number : Int32) (calls : List Call)
    (first second : List Outcome × Client × Bytes × State) : Prop where
  outcomes : List.Forall₂ Outcome.IsSame first.1 second.1
  requests : ∃ requests, Call.Requests number calls requests ∧
    Renumbers earlier requests (first.2.2.1 ++ first.2.1.backlog)
      (second.2.2.1 ++ second.2.1.backlog)

/--
Whether a call comes to the same for two clients, which are related after it as before, with one
request more if it has taken on a request to send.
-/
inductive Calls (related : List Frame → Client × Bytes × State → Client × Bytes × State → Prop)
    (requests : List Frame) (number : Int32) (call : Call) :
    Outcome × Client × Bytes × State → Outcome × Client × Bytes × State → Prop where
  | unsent {outcome : Outcome} {first second : Client × Bytes × State}
      (after : related requests first second) :
      Calls related requests number call (outcome, first) (outcome, second)
  | sent {outcome other : Outcome} {request : Frame} {first second : Client × Bytes × State}
      (framed : call.frame number = .ok request) (same : outcome.IsSame other)
      (after : related (requests ++ [request]) first second) :
      Calls related requests number call (outcome, first) (other, second)

theorem Calls.mono
    {related others : List Frame → Client × Bytes × State → Client × Bytes × State → Prop}
    {requests : List Frame} {number : Int32} {call : Call}
    {first second : Outcome × Client × Bytes × State}
    (implies : ∀ requests first second, related requests first second →
      others requests first second)
    (calls : Calls related requests number call first second) :
    Calls others requests number call first second := by
  cases calls with
  | unsent after => exact .unsent (implies _ _ _ after)
  | sent framed same after => exact .sent framed same (implies _ _ _ after)

/-! ### The number of the next request -/

section Number

variable (link : Link State) (client : Client) (state : State)

theorem nextRequestId_makeReady :
    (client.makeReady link state).2.1.nextRequestId = client.nextRequestId := by
  simp only [makeReady]
  split <;> rfl

theorem nextRequestId_send (frame : Frame) :
    (client.send link frame state).2.1.nextRequestId = client.nextRequestId := by
  have ready := nextRequestId_makeReady link client state
  simp only [send]
  split
  next client _ ready_eq =>
    rw [ready_eq] at ready
    simp only [enqueue, Frame.Stream.append]
    by_cases long : client.limit < frame.size
    · simp only [long, ↓reduceIte]
      exact ready
    · simp only [long, ↓reduceIte]
      exact ready
  next => exact ready

theorem nextRequestId_await (requestId : Int32) (call : Call) :
    (client.await link requestId call state).2.1.nextRequestId = client.nextRequestId := by
  simp only [await]
  split <;> rfl

/-- Every call uses up one number. -/
theorem nextRequestId_call (call : Call) :
    (client.call link call state).2.1.nextRequestId = client.nextRequestId + 1 := by
  simp only [Client.call]
  split
  next => rfl
  next frame _ =>
    have sent := nextRequestId_send link client.afterCall state frame
    split
    next sent_eq =>
      rw [sent_eq] at sent
      rw [nextRequestId_await, sent]
      rfl
    next sent_eq =>
      rw [sent_eq] at sent
      exact sent
    next sent_eq =>
      rw [sent_eq] at sent
      exact sent

end Number

/-! ### Level clients -/

/--
Whether two clients are level: they have sent the same requests, except that those of the first have
the next numbers, and what lies behind their links is alike. The last request may be one that has
only been taken on.
-/
structure Level (limit : Nat) (earlier : Bytes)
    (alike : List Frame → Frame.Receiver × Bytes × State → Frame.Receiver × Bytes × State → Prop)
    (requests : List Frame) (next : Option Frame) (first second : Client × Bytes × State) :
    Prop where
  first_limit : first.1.limit = limit
  second_limit : second.1.limit = limit
  number_eq : first.1.nextRequestId = second.1.nextRequestId + 1
  alike : alike requests (first.1.receiver, first.2) (second.1.receiver, second.2)
  length_eq : first.1.backlog.length = second.1.backlog.length
  renumbers : Renumbers earlier (requests ++ next.toList) (first.2.1 ++ first.1.backlog)
    (second.2.1 ++ second.1.backlog)

namespace Level

variable {link : Link State} {limit : Nat} {earlier : Bytes}
  {alike : List Frame → Frame.Receiver × Bytes × State → Frame.Receiver × Bytes × State → Prop}
  {requests : List Frame} {next : Option Frame} {first second : Client} {far other : Bytes × State}

theorem afterCall (level : Level limit earlier alike requests next (first, far) (second, other)) :
    Level limit earlier alike requests next (first.afterCall, far) (second.afterCall, other) where
  first_limit := level.first_limit
  second_limit := level.second_limit
  number_eq := congrArg (· + 1) level.number_eq
  alike := level.alike
  length_eq := level.length_eq
  renumbers := level.renumbers

theorem flush (parallel : link.IsParallel limit earlier alike)
    (level : Level limit earlier alike requests next (first, far) (second, other)) :
    ∃ result firstAfter secondAfter,
      first.flush link.logged far = (result, firstAfter) ∧
        second.flush link.logged other = (result, secondAfter) ∧
        Level limit earlier alike (requests ++ next.toList) none firstAfter secondAfter ∧
        (result = some (.ok ()) → secondAfter.1.backlog = []) := by
  rcases parallel.write level.alike level.length_eq level.renumbers with
    ⟨⟨taken, first_rest, second_rest⟩, alike_after⟩
  have length_eq : (link.logged.write first.backlog far).1.length =
      (link.logged.write second.backlog other).1.length := by
    rw [first_rest, second_rest, List.length_drop, List.length_drop, level.length_eq]
  have empty_iff : (link.logged.write first.backlog far).1 = [] ↔
      (link.logged.write second.backlog other).1 = [] := by
    rw [← List.length_eq_zero_iff, length_eq, List.length_eq_zero_iff]
  have isCut_eq : link.logged.isCut (link.logged.write first.backlog far).2 =
      link.logged.isCut (link.logged.write second.backlog other).2 := parallel.isCut alike_after
  refine ⟨_, _, ({ second with backlog := (link.logged.write second.backlog other).1 },
    (link.logged.write second.backlog other).2), rfl, ?_,
    ⟨level.first_limit, level.second_limit, level.number_eq, alike_after, length_eq, ?_⟩, ?_⟩
  · simp only [Client.flush, empty_iff, isCut_eq]
  · simp only [Option.toList_none, List.append_nil]
    rw [Link.logged_append_write first_rest, Link.logged_append_write second_rest]
    exact level.renumbers
  · -- While something is left, the result is an error or there is none.
    intro complete
    apply empty_iff.1
    apply Classical.byContradiction
    intro left
    simp only [left, ↓reduceIte] at complete
    split at complete <;> cases complete

theorem makeReady (parallel : link.IsParallel limit earlier alike)
    (level : Level limit earlier alike requests none (first, far) (second, other)) :
    ∃ result firstAfter secondAfter,
      first.makeReady link.logged far = (result, firstAfter) ∧
        second.makeReady link.logged other = (result, secondAfter) ∧
        Level limit earlier alike requests none firstAfter secondAfter := by
  simp only [Client.makeReady, level.length_eq]
  split
  · rcases level.flush parallel with
      ⟨result, firstAfter, secondAfter, first_eq, second_eq, flushed, _⟩
    rw [Option.toList_none, List.append_nil] at flushed
    exact ⟨result, firstAfter, secondAfter, first_eq, second_eq, flushed⟩
  · exact ⟨_, _, _, rfl, rfl, level⟩

/-- What sending a frame comes to: it stops before the frame is taken on, or goes on to write it. -/
inductive Sends (limit : Nat) (earlier : Bytes)
    (alike : List Frame → Frame.Receiver × Bytes × State → Frame.Receiver × Bytes × State → Prop)
    (requests : List Frame) (frame : Frame) :
    Option (Except ProtocolError Unit) × Client × Bytes × State →
      Option (Except ProtocolError Unit) × Client × Bytes × State → Prop where
  | stopped {result : Option (Except ProtocolError Unit)} {first second : Client × Bytes × State}
      (fails : result ≠ some (.ok ()))
      (level : Level limit earlier alike requests none first second) :
      Sends limit earlier alike requests frame (result, first) (result, second)
  | takenOn {result : Option (Except ProtocolError Unit)} {first second : Client × Bytes × State}
      (written : result = some (.ok ()) → second.1.backlog = [])
      (level : Level limit earlier alike (requests ++ [frame]) none first second) :
      Sends limit earlier alike requests frame (result, first) (result, second)

theorem enqueue (level : Level limit earlier alike requests none (first, far) (second, other))
    {frame : Frame} (announced : frame.IsAnnounced) :
    Level limit earlier alike requests (some frame)
      ({ first with backlog := first.backlog ++ frame.renumbered.bytes }, far)
      ({ second with backlog := second.backlog ++ frame.bytes }, other) where
  first_limit := level.first_limit
  second_limit := level.second_limit
  number_eq := level.number_eq
  alike := level.alike
  length_eq := by
    simp only [List.length_append, Frame.length_bytes, Frame.size_renumbered, level.length_eq]
  renumbers := by
    have first_eq := level.renumbers.first_eq
    have second_eq := level.renumbers.second_eq
    have all_announced := level.renumbers.announced
    simp only [Option.toList_none, List.append_nil] at first_eq second_eq all_announced
    constructor
    · simp [← List.append_assoc, first_eq]
    · simp [← List.append_assoc, second_eq]
    · intro request mem
      rcases List.mem_append.1 mem with mem | mem
      · exact all_announced request mem
      · cases List.mem_singleton.1 mem
        exact announced

theorem send (parallel : link.IsParallel limit earlier alike)
    (level : Level limit earlier alike requests none (first, far) (second, other))
    {frame : Frame} (announced : frame.IsAnnounced) :
    Sends limit earlier alike requests frame (first.send link.logged frame.renumbered far)
      (second.send link.logged frame other) := by
  rcases level.makeReady parallel with
    ⟨result, ⟨first, far⟩, ⟨second, other⟩, first_eq, second_eq, ready⟩
  simp only [Client.send, first_eq, second_eq]
  rcases result with _ | ⟨error | _⟩
  · exact .stopped (by simp) ready
  · exact .stopped (by simp) ready
  · have first_limit : first.limit = limit := ready.first_limit
    have second_limit : second.limit = limit := ready.second_limit
    simp only [Client.enqueue, Frame.Stream.append, first_limit, second_limit,
      Frame.size_renumbered]
    by_cases long : limit < frame.size
    · simp only [long, ↓reduceIte]
      exact .stopped (by simp) ready
    · simp only [long, ↓reduceIte]
      rcases (ready.enqueue announced).flush parallel with
        ⟨result, firstAfter, secondAfter, first_eq, second_eq, flushed, written⟩
      simp only [first_limit, second_limit] at first_eq second_eq
      simp only [bind, Except.bind, pure, Except.pure, first_eq, second_eq]
      exact .takenOn written flushed

/-- The reply is to the last request, and both have been taken in full. -/
theorem await (parallel : link.IsParallel limit earlier alike) {request : Frame}
    (level : Level limit earlier alike (requests ++ [request]) none (first, far) (second, other))
    (written : second.backlog = []) (call : Call) :
    Outcome.IsSame (first.await link.logged (request.header.requestId + 1) call far).1
        (second.await link.logged request.header.requestId call other).1 ∧
      Level limit earlier alike (requests ++ [request]) none
        (first.await link.logged (request.header.requestId + 1) call far).2
        (second.await link.logged request.header.requestId call other).2 := by
  by_cases answered : call.isAnswered = true
  · have first_written : first.backlog = [] := by
      rw [← List.length_eq_zero_iff, level.length_eq, List.length_eq_zero_iff]
      exact written
    have taken := level.renumbers
    simp only [first_written, written, Option.toList_none, List.append_nil] at taken
    rcases parallel.read level.alike taken with ⟨answers, alike_after⟩
    have first_limit : first.limit = limit := level.first_limit
    have second_limit : second.limit = limit := level.second_limit
    simp only [Client.await, answered, ↓reduceIte, Client.receive, first_limit, second_limit]
    exact ⟨Outcome.isSame_of_areAlike answers call, rfl, rfl, level.number_eq, alike_after,
      level.length_eq, level.renumbers⟩
  · simp only [Client.await, answered]
    exact ⟨.refl _, level⟩

theorem call (parallel : link.IsParallel limit earlier alike)
    (level : Level limit earlier alike requests none (first, far) (second, other)) (call : Call) :
    Calls (Level limit earlier alike · none) requests second.nextRequestId call
      (first.call link.logged call far) (second.call link.logged call other) := by
  have number_eq : first.nextRequestId = second.nextRequestId + 1 := level.number_eq
  have first_framed := call.frame_add_one second.nextRequestId
  simp only [Client.call, number_eq, first_framed]
  cases framed : call.frame second.nextRequestId with
  | error error => exact .unsent level.afterCall
  | ok request =>
      rcases Call.frame_eq_ok_iff.1 framed with ⟨_, announced, requestId_eq, _⟩
      have sends := level.afterCall.send parallel announced
      simp only [Except.map]
      generalize first.afterCall.send link.logged request.renumbered far = firstSent at sends ⊢
      generalize second.afterCall.send link.logged request other = secondSent at sends ⊢
      cases sends with
      | @stopped result _ _ fails level =>
          rcases result with _ | ⟨error | _⟩
          · exact .unsent level
          · exact .unsent level
          · exact absurd rfl fails
      | @takenOn result _ _ written level =>
          rcases result with _ | ⟨error | _⟩
          · exact .sent framed (.refl _) level
          · exact .sent framed (.refl _) level
          · rcases level.await parallel (written rfl) call with ⟨same, level⟩
            rw [requestId_eq] at same level
            exact .sent framed same level

end Level

/-! ### An overdue backlog -/

section Overdue

variable {link : Link State} {client ready : Client} {state far : State} {call : Call}
  {frame : Frame}

/-- A client that is ready is the same client, with nothing overdue. -/
theorem makeReady_eq_ok_iff :
    client.makeReady link state = (some (.ok ()), ready, far) ↔
      client.backlog.length < backlogBound ∧ (client, state) = (ready, far) ∨
        backlogBound ≤ client.backlog.length ∧ (link.write client.backlog state).1 = [] ∧
          ({ client with backlog := [] }, (link.write client.backlog state).2) = (ready, far) := by
  by_cases overdue : backlogBound ≤ client.backlog.length
  · simp only [makeReady, overdue, ↓reduceIte, flush, Nat.not_lt.2 overdue, false_and, false_or,
      true_and]
    by_cases written : (link.write client.backlog state).1 = []
    · simp only [written, ↓reduceIte, Prod.mk.injEq, true_and]
    · simp only [written, ↓reduceIte, false_and, iff_false, Prod.mk.injEq, not_and]
      intro complete
      split at complete <;> cases complete
  · simp only [makeReady, overdue, ↓reduceIte, false_and, or_false, Nat.not_le.1 overdue,
      Prod.mk.injEq, true_and]

theorem makeReady_of_backlog_eq_nil (written : client.backlog = []) (state : State) :
    client.makeReady link state = (some (.ok ()), client, state) := by
  apply makeReady_eq_ok_iff.2
  left
  exact ⟨by simp [written, backlogBound], rfl⟩

theorem makeReady_afterCall (makes : client.makeReady link state = (some (.ok ()), ready, far)) :
    client.afterCall.makeReady link state = (some (.ok ()), ready.afterCall, far) := by
  apply makeReady_eq_ok_iff.2
  rcases makeReady_eq_ok_iff.1 makes with ⟨short, same⟩ | ⟨overdue, written, same⟩
  · cases same
    exact .inl ⟨short, rfl⟩
  · cases same
    exact .inr ⟨overdue, written, rfl⟩

/-- What sending a frame comes to is the same after the client has been made ready for it. -/
theorem send_of_makeReady (makes : client.makeReady link state = (some (.ok ()), ready, far)) :
    client.send link frame state = ready.send link frame far := by
  rcases makeReady_eq_ok_iff.1 makes with ⟨_, same⟩ | ⟨_, _, same⟩
  · cases same
    rfl
  · cases same
    simp only [send, makes, makeReady_of_backlog_eq_nil]

/-- A call that has a message to send is not changed by writing an overdue backlog before it. -/
theorem call_of_makeReady (makes : client.makeReady link state = (some (.ok ()), ready, far))
    (framed : call.frame client.nextRequestId = .ok frame) :
    client.call link call state = ready.call link call far := by
  have number_eq : ready.nextRequestId = client.nextRequestId := by
    have kept := nextRequestId_makeReady link client state
    rwa [makes] at kept
  simp only [Client.call, number_eq, framed, send_of_makeReady (makeReady_afterCall makes)]

end Overdue

/-- Whether two clients are level, or would be if the second had written its overdue backlog. -/
inductive Trails (link : Link State) (limit : Nat) (earlier : Bytes)
    (alike : List Frame → Frame.Receiver × Bytes × State → Frame.Receiver × Bytes × State → Prop)
    (requests : List Frame) : Client × Bytes × State → Client × Bytes × State → Prop where
  | level {first second : Client × Bytes × State}
      (level : Level limit earlier alike requests none first second) :
      Trails link limit earlier alike requests first second
  | caughtUp {client : Client} {state : Bytes × State} {first second : Client × Bytes × State}
      (makes : client.makeReady link.logged state = (some (.ok ()), first))
      (level : Level limit earlier alike requests none (client, state) second) :
      Trails link limit earlier alike requests first second

namespace Trails

variable {link : Link State} {limit : Nat} {earlier : Bytes}
  {alike : List Frame → Frame.Receiver × Bytes × State → Frame.Receiver × Bytes × State → Prop}
  {requests : List Frame} {first second : Client} {far other : Bytes × State}

theorem call (parallel : link.IsParallel limit earlier alike)
    (trails : Trails link limit earlier alike requests (first, far) (second, other)) (call : Call) :
    Calls (Trails link limit earlier alike) requests second.nextRequestId call
      (first.call link.logged call far) (second.call link.logged call other) := by
  cases trails with
  | level level => exact (level.call parallel call).mono fun _ _ _ level => .level level
  | @caughtUp client state _ _ makes level =>
      have number_eq : client.nextRequestId = second.nextRequestId + 1 := level.number_eq
      have client_framed := call.frame_add_one second.nextRequestId
      rw [← number_eq] at client_framed
      -- Only a call with a message makes the second client write its backlog as well.
      cases framed : call.frame second.nextRequestId with
      | error error =>
          have ready_number := nextRequestId_makeReady link.logged client state
          rw [makes] at ready_number
          have first_framed : call.frame first.nextRequestId = .error error := by
            rw [ready_number, client_framed, framed]
            rfl
          simp only [Client.call, first_framed, framed]
          exact .unsent (.caughtUp (makeReady_afterCall makes) level.afterCall)
      | ok request =>
          rw [framed] at client_framed
          rw [← call_of_makeReady makes client_framed]
          exact (level.call parallel call).mono fun _ _ _ level => .level level

/-- The requests of some calls come after those that there are. -/
theorem callAll (parallel : link.IsParallel limit earlier alike)
    (trails : Trails link limit earlier alike requests (first, far) (second, other))
    (calls : List Call) :
    ∃ others, Call.Requests second.nextRequestId calls others ∧
      List.Forall₂ Outcome.IsSame (first.callAll link.logged calls far).1
        (second.callAll link.logged calls other).1 ∧
      Trails link limit earlier alike (requests ++ others)
        (first.callAll link.logged calls far).2 (second.callAll link.logged calls other).2 := by
  induction calls generalizing requests first second far other with
  | nil =>
      rw [← List.append_nil requests] at trails
      exact ⟨[], .nil _, .nil, trails⟩
  | cons call calls ih =>
      have called := trails.call parallel call
      have number_eq := nextRequestId_call link.logged second other call
      simp only [Client.callAll]
      generalize first.call link.logged call far = firstCalled at called ⊢
      generalize second.call link.logged call other = secondCalled at called number_eq ⊢
      cases called with
      | unsent after =>
          rcases ih after with ⟨others, made, outcomes, after⟩
          rw [number_eq] at made
          exact ⟨others, .unsent made, .cons (.refl _) outcomes, after⟩
      | sent framed same after =>
          rcases ih after with ⟨others, made, outcomes, after⟩
          rw [number_eq] at made
          rw [List.append_assoc] at after
          exact ⟨_, .sent framed made, .cons same outcomes, after⟩

/-- The requests that the clients have taken on to send, also those that they have not written. -/
theorem renumbers (trails : Trails link limit earlier alike requests (first, far) (second, other)) :
    Renumbers earlier requests (far.1 ++ first.backlog) (other.1 ++ second.backlog) := by
  cases trails with
  | level level => simpa using level.renumbers
  | @caughtUp client state _ _ makes level =>
      have streams := level.renumbers
      rw [Option.toList_none, List.append_nil] at streams
      have same : far.1 ++ first.backlog = state.1 ++ client.backlog := by
        rcases makeReady_eq_ok_iff.1 makes with ⟨_, same⟩ | ⟨_, written, same⟩
        · cases same
          rfl
        · cases same
          rw [← List.drop_length (l := client.backlog)] at written
          have streams_eq := Link.logged_append_write written
          rwa [written, List.drop_length] at streams_eq
      rwa [same]

end Trails

/-! ### Calls that are not sent -/

section Unsent

variable {link : Link State} {client : Client} {state : State} {call : Call}
  {error : ProtocolError}

theorem send_of_long {ready : Client} {far : State} {frame : Frame}
    (makes : client.makeReady link state = (some (.ok ()), ready, far))
    (long : ready.limit < frame.size) :
    client.send link frame state = (some (.error (.oversizedFrame frame.size)), ready, far) := by
  simp only [send, makes, enqueue, Frame.Stream.append, long, ↓reduceIte]
  rfl

theorem IsUnsent.call_eq (unsent : client.IsUnsent link state call error) :
    ∃ after, client.call link call state = (some (.error error), after) ∧
      client.LeavesAlone link state after := by
  cases unsent with
  | unwritable framed =>
      refine ⟨_, ?_, .untouched⟩
      simp only [Client.call, framed]
  | @tooLong frame framed long written =>
      by_cases overdue : backlogBound ≤ client.backlog.length
      · have makes : client.afterCall.makeReady link state =
            (some (.ok ()), { client.afterCall with backlog := [] },
              (link.write client.backlog state).2) :=
          makeReady_eq_ok_iff.2 (.inr ⟨overdue, written overdue, rfl⟩)
        refine ⟨_, ?_, .caughtUp overdue (written overdue)⟩
        simp only [Client.call, framed, send_of_long makes long]
      · have makes : client.afterCall.makeReady link state =
            (some (.ok ()), client.afterCall, state) :=
          makeReady_eq_ok_iff.2 (.inl ⟨Nat.not_le.1 overdue, rfl⟩)
        refine ⟨_, ?_, .untouched⟩
        simp only [Client.call, framed, send_of_long makes long]

theorem IsUnsent.logged (unsent : client.IsUnsent link state call error) (taken : Bytes) :
    client.IsUnsent link.logged (taken, state) call error := by
  cases unsent with
  | unwritable framed => exact .unwritable framed
  | tooLong framed long written => exact .tooLong framed long written

/-- A client that has been left alone is level with one that has not made the call, or trails it. -/
theorem LeavesAlone.trails
    {alike : List Frame → Frame.Receiver × Bytes × State → Frame.Receiver × Bytes × State → Prop}
    {twin : State} (same : alike [] (client.receiver, [], state) (client.receiver, [], twin))
    {after : Client × Bytes × State} (left : client.LeavesAlone link.logged ([], state) after) :
    Trails link client.limit client.backlog alike [] after (client, [], twin) := by
  have level : Level client.limit client.backlog alike [] none (client.afterCall, [], state)
      (client, [], twin) := by
    refine ⟨rfl, rfl, rfl, same, rfl, ?_⟩
    constructor <;> simp [Client.afterCall]
  cases left with
  | untouched => exact .level level
  | caughtUp overdue written =>
      apply Trails.caughtUp _ level
      exact makeReady_eq_ok_iff.2 (.inr ⟨overdue, written, rfl⟩)

/--
A call that fails before it is sent returns the error, writes nothing of its message and reads
nothing. Over a link to a far end that is parallel, the calls that follow have the same outcomes as
without it, and make the same requests with the next numbers.
-/
theorem unsent_call_leaves_no_trace (unsent : client.IsUnsent link state call error) :
    (client.call link call state).1 = some (.error error) ∧
      client.LeavesAlone link state (client.call link call state).2 ∧
      ∀ alike, link.IsParallel client.limit client.backlog alike →
        ∀ twin, alike [] (client.receiver, [], state) (client.receiver, [], twin) →
          ∀ calls, Agree client.backlog client.nextRequestId calls
            ((client.call link.logged call ([], state)).2.1.callAll link.logged calls
              (client.call link.logged call ([], state)).2.2)
            (client.callAll link.logged calls ([], twin)) := by
  rcases unsent.call_eq with ⟨after, call_eq, left⟩
  rw [call_eq]
  refine ⟨rfl, left, ?_⟩
  intro alike parallel twin same calls
  rcases (unsent.logged []).call_eq with ⟨after, call_eq, left⟩
  rw [call_eq]
  rcases (left.trails same).callAll parallel calls with ⟨requests, made, outcomes, trails⟩
  exact ⟨outcomes, requests, made, trails.renumbers⟩

end Unsent

/-- A call with a document that cannot be written. -/
def unwritable : Call := .unacknowledged "d" [("\x00", .null)]

def inquiry : Call := .legacy "d" []

/-- A service that answers everything with an empty document. -/
def obliging : Service Unit where
  registry := ({} : Registry Unit).register Predicate.any (Registry.always [])
  maxMessageSize := 100
  maxDocumentSize := 100
  idleTimeout := 0
  writeTimeout := 0

theorem ignoresNumbers_obliging : obliging.registry.IgnoresNumbers := by
  intro responder mem query requestId info backend
  rw [List.mem_singleton.1 mem]
  rfl

/-- The far end of the calls before the first: a connection that waits for a header. -/
def fresh : Exchange × SharedState Unit := (.start 64, { backend := () })

/-- The next request has the number two instead of one, and the connection answers it as well. -/
theorem unsent_call_leaves_no_trace_obliging :
    ({} : Client).IsUnsent (Exchange.link obliging) fresh unwritable .documentEncode ∧
      ({} : Client).LeavesAlone (Exchange.link obliging) fresh
        (({} : Client).call (Exchange.link obliging) unwritable fresh).2 ∧
      Agree [] 1 [inquiry]
        ((({} : Client).call (Exchange.link obliging).logged unwritable ([], fresh)).2.1.callAll
          (Exchange.link obliging).logged [inquiry]
          (({} : Client).call (Exchange.link obliging).logged unwritable ([], fresh)).2.2)
        (({} : Client).callAll (Exchange.link obliging).logged [inquiry] ([], fresh)) ∧
      (({} : Client).callAll (Exchange.link obliging).logged [inquiry] ([], fresh)).1 =
        [some (.ok (some []))] := by
  have unsent : ({} : Client).IsUnsent (Exchange.link obliging) fresh unwritable
      .documentEncode := by
    apply IsUnsent.unwritable
    cbv
  rcases unsent_call_leaves_no_trace unsent with ⟨_, left, agree⟩
  refine ⟨unsent, left, ?_, by cbv⟩
  exact agree _ (Exchange.isParallel_link ignoresNumbers_obliging _) fresh
    (Exchange.areTwins_start _ _ _) [inquiry]

end Client

end DocumentProtocol
