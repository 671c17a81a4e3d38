import DocumentProtocol.Proofs.Session.Ahead
import DocumentProtocol.Proofs.Session.Conversation
import DocumentProtocol.Session.Link

/-!
# A connection at work

`Service.Handles` says that a service gets through some frames, and which replies it writes: no
frame is turned away and every reply can be written. A connection that is sent such frames, and is
not disturbed, stays on duty: what is ahead of it is what has been sent and not been handled, and
what its client has yet to receive is what has been written and what the frames ahead are still to
be answered with (`Exchange.OnDuty`). Where nothing can move, nothing is ahead and nothing is on its
way.
-/

namespace DocumentProtocol

variable {Backend : Type}

/-- A service gets through some frames: the replies, and the backend and the reply number after. -/
inductive Service.Handles (service : Service Backend) :
    List Frame → Backend → Int32 → List Frame → Backend → Int32 → Prop where
  | done {backend : Backend} {number : Int32} : Handles service [] backend number [] backend number
  | silent {frame : Frame} {frames replies : List Frame} {request : Request} {document : Document}
      {backend between after : Backend} {number last : Int32} (carries : frame.Carries request)
      (resolves : service.Resolves request backend document between) (silent : request.IsSilent)
      (rest : Handles service frames between number replies after last) :
      Handles service (frame :: frames) backend number replies after last
  | answered {frame reply : Frame} {frames replies : List Frame} {request : Request}
      {document : Document} {backend between after : Backend} {number last : Int32}
      (carries : frame.Carries request)
      (resolves : service.Resolves request backend document between) (awaits : request.AwaitsReply)
      (isReply : request.IsReply document frame.header.requestId number reply)
      (rest : Handles service frames between (number + 1) replies after last) :
      Handles service (frame :: frames) backend number (reply :: replies) after last

namespace Service.Handles

variable {service : Service Backend} {first second replies others : List Frame}
  {backend between after : Backend} {number middle last : Int32}

theorem append (left : service.Handles first backend number replies between middle)
    (right : service.Handles second between middle others after last) :
    service.Handles (first ++ second) backend number (replies ++ others) after last := by
  induction left with
  | done => exact right
  | silent carries resolves silent _ ih => exact .silent carries resolves silent (ih right)
  | answered carries resolves awaits isReply _ ih =>
      exact .answered carries resolves awaits isReply (ih right)

/-- What the service answers to the first of the frames, and what is left of them. -/
theorem answer_cons {frame : Frame} {frames : List Frame} {shared : SharedState Backend}
    (handles : service.Handles (frame :: frames) shared.backend shared.nextReplyId replies after
      last) :
    ∃ reply? rest state, service.answer frame.header frame.body shared = (.ok reply?, state) ∧
      replies = reply?.toList ++ rest ∧
      service.Handles frames state.backend state.nextReplyId rest after last := by
  cases handles with
  | silent carries resolves silent rest =>
      rcases answer_of_isSilent carries resolves rfl silent with
        ⟨state, answer, rfl, number_eq⟩
      rw [← number_eq] at rest
      exact ⟨none, _, state, answer, rfl, rest⟩
  | answered carries resolves awaits isReply rest =>
      rcases answer_of_awaitsReply carries resolves rfl awaits with
        ⟨state, answer, rfl, number_eq⟩
      rw [Request.replyFrame_of_isReply (Request.isAnswered_of_awaitsReply awaits) isReply]
        at answer
      rw [← number_eq] at rest
      exact ⟨some _, _, state, answer, rfl, rest⟩

end Service.Handles

/-- There is no bad header in front of frames that can be read. -/
theorem Frame.next_allBytes_ne_error {limit : Nat} {frames : List Frame} {error : ProtocolError}
    (acceptable : ∀ frame ∈ frames, frame.IsAcceptable limit) :
    Stream.next limit (allBytes frames) ≠ .error error := by
  intro failed
  cases frames with
  | nil =>
      have nothing : Stream.next limit [] = .ok none := Stream.next_of_short (by decide)
      rw [allBytes_nil, nothing] at failed
      cases failed
  | cons frame others =>
      have found := Stream.next_eq_some_iff.2
        ⟨(allBytes_cons frame others : _), acceptable frame (by simp)⟩
      rw [found] at failed
      cases failed

namespace Connection

variable {service : Service Backend} {now : Nat} {connection next : Connection}
  {shared after : SharedState Backend}

/-- Whether a connection cannot go on: it lacks bytes to read, or room to write. -/
inductive IsBlocked (connection : Connection) : Prop where
  | reading {received : Bytes} {size : Nat} (reads : connection.Reads received size)
      (short : received.length < size) (empty : connection.inbound.content = []) :
      IsBlocked connection
  | writing (full : connection.outbound.room = 0) : IsBlocked connection

theorem isBlocked_of_step (running : ¬connection.IsClosed)
    (stuck : connection.step service now shared = none) : connection.IsBlocked := by
  cases isWaiting_of_step stuck with
  | closed phase_eq => exact absurd ⟨_, phase_eq⟩ running
  | writing phase_eq present full => exact .writing full
  | reading reads short empty _ => exact .reading reads short empty

/-- A connection that is sent nothing but frames that can be read ends only when it cannot go on. -/
theorem Fault.isBlocked_of_frames {error : ProtocolError} {unsent : Bytes} {frames : List Frame}
    (fault : connection.Fault service now error)
    (sound : connection.phase.IsSound service.maxMessageSize)
    (running : connection.isCancelled = false)
    (unfinished : connection.inbound.isFinished = false)
    (kept : connection.outbound.isAbandoned = false) (faultless : connection.IsFaultless)
    (acceptable : ∀ frame ∈ frames, frame.IsAcceptable service.maxMessageSize)
    (ahead_eq : connection.ahead ++ unsent = Frame.allBytes frames) :
    error = .timeout ∧ connection.IsBlocked := by
  cases fault with
  | cancelled _ cancelled => simp [running] at cancelled
  | badHeader phase_eq _ enough bad =>
      have failed : Frame.Stream.next service.maxMessageSize connection.ahead = .error error := by
        rw [ahead, phase_eq]
        exact Frame.Stream.next_eq_error_iff.2 ⟨enough, bad⟩
      have failed := Frame.Stream.next_append_of_error failed unsent
      rw [ahead_eq] at failed
      exact absurd failed (Frame.next_allBytes_ne_error acceptable)
  | broken _ _ _ fault_eq => simp [faultless.1] at fault_eq
  | hungUp _ _ _ _ finished => simp [unfinished] at finished
  | idle phase_eq _ empty _ _ =>
      exact ⟨rfl, .reading (.header phase_eq) (sound.short phase_eq) empty⟩
  | severed _ suffers => exact absurd suffers (faultless.not_suffers kept _)
  | stalled _ _ _ full _ => exact ⟨rfl, .writing full⟩

/-- The bytes of all messages that a connection has yet to answer. -/
def unhandled (connection : Connection) : Bytes :=
  Frame.allBytes connection.phase.current?.toList ++ connection.ahead

namespace Transition

/-- A step that answers no message ends the connection or only moves bytes. -/
theorem ended_or_moves (transition : Transition service now connection shared next after)
    (sound : connection.phase.IsSound service.maxMessageSize)
    (idle : connection.phase.current? = none) :
    (∃ error, next = connection.ended error) ∨
      next.unhandled = connection.unhandled ∧
        next.outbound.content ++ next.phase.pending =
          connection.outbound.content ++ connection.phase.pending ∧
        after.backend = shared.backend ∧ after.nextReplyId = shared.nextReplyId := by
  cases transition with
  | fault fault =>
      left
      exact ⟨_, rfl⟩
  | header phase_eq running enough announced =>
      right
      refine ⟨?_, by simp [goOn, phase_eq, Phase.pending], rfl, rfl⟩
      rw [unhandled, unhandled, idle, ahead_goOn_header phase_eq (sound.short phase_eq) enough]
      rfl
  | headerPart phase_eq running short present =>
      right
      refine ⟨?_, by simp [goOn, phase_eq, Phase.pending], rfl, rfl⟩
      rw [unhandled, unhandled, idle, ahead_goOn_part (by simp [phase_eq, Phase.begun])]
      rfl
  | bodyPart phase_eq running short present =>
      right
      refine ⟨?_, by simp [goOn, phase_eq, Phase.pending], rfl, rfl⟩
      rw [unhandled, unhandled, idle, ahead_goOn_part (by simp [phase_eq, Phase.begun])]
      rfl
  | body completes =>
      right
      have none_pending : connection.phase.pending = [] := by
        cases completes with
        | mk phase_eq _ _ _ _ => simp only [phase_eq, Phase.pending]
      refine ⟨?_, by rw [none_pending]; rfl, rfl, rfl⟩
      rw [unhandled, unhandled, idle, (completes.ahead_eq sound).2]
      simp [goOn, ahead, Phase.current?, Phase.begun, Pipe.skip]
  | refused phase_eq answer => simp [phase_eq, Phase.current?] at idle
  | silent phase_eq answer => simp [phase_eq, Phase.current?] at idle
  | answered phase_eq answer => simp [phase_eq, Phase.current?] at idle
  | sentPart phase_eq kept room long =>
      right
      refine ⟨?_, by simp [written, phase_eq, Phase.pending, Pipe.offer], rfl, rfl⟩
      simp [unhandled, written, ahead, phase_eq, Phase.current?, Phase.begun]
  | sent phase_eq kept fits =>
      right
      refine ⟨?_, ?_, rfl, rfl⟩
      · simp [unhandled, written, ahead, phase_eq, Phase.current?, Phase.begun]
      · simp [written, phase_eq, Phase.pending, Pipe.offer, List.take_of_length_le fits]

/-- What a connection does about a message that it has an answer to. -/
theorem of_answer (transition : Transition service now connection shared next after)
    {header : Header} {body : Bytes} (phase_eq : connection.phase = .dispatching header body)
    {reply? : Option Frame} {state : SharedState Backend}
    (answer : service.answer header body shared = (.ok reply?, state)) :
    after = state ∧ ∃ phase, next = connection.turnTo phase ∧ phase.outcome? = none ∧
      phase.current? = none ∧ phase.begun = [] ∧ phase.pending = Frame.allBytes reply?.toList := by
  cases transition with
  | fault fault =>
      have idle := fault.current?_eq
      simp [phase_eq, Phase.current?] at idle
  | refused other refused =>
      rw [phase_eq] at other
      cases other
      rw [refused] at answer
      cases answer
  | silent other silent =>
      rw [phase_eq] at other
      cases other
      rw [silent] at answer
      cases answer
      exact ⟨rfl, _, rfl, rfl, rfl, rfl, rfl⟩
  | answered other answered =>
      rw [phase_eq] at other
      cases other
      rw [answered] at answer
      cases answer
      exact ⟨rfl, _, rfl, rfl, rfl, rfl, by simp [Phase.pending]⟩
  | body completes =>
      cases completes
      simp_all
  | _ => simp_all

end Transition

end Connection

namespace Exchange

theorem unhandled_send {exchange : Exchange} {size : Nat}
    (fits : size ≤ exchange.connection.inbound.room) :
    (exchange.send size).connection.unhandled ++ (exchange.send size).outbox =
      exchange.connection.unhandled ++ exchange.outbox := by
  rw [Connection.unhandled, Connection.unhandled, List.append_assoc, List.append_assoc,
    ahead_send fits]
  rfl

variable {service : Service Backend} {due owed : List Frame} {unread : Bytes} {last : Backend}
  {number : Int32}

/--
What a connection has yet to handle and its client has yet to receive. Of the frames that are owed,
some bytes are unread, some are on their way, and the others answer the frames that are due.
-/
structure Works (service : Service Backend) (due owed : List Frame) (unread : Bytes)
    (last : Backend) (number : Int32) (state : Exchange × SharedState Backend) : Prop where
  running : ¬state.1.connection.IsClosed
  sound : state.1.connection.phase.IsSound service.maxMessageSize
  acceptable : ∀ frame ∈ due, frame.IsAcceptable service.maxMessageSize
  unhandled_eq : state.1.connection.unhandled ++ state.1.outbox = Frame.allBytes due
  handles : ∃ replies,
    service.Handles due state.2.backend state.2.nextReplyId replies last number ∧
      unread ++ state.1.written ++ state.1.connection.phase.pending ++ Frame.allBytes replies =
        Frame.allBytes owed

/-- The client's ends of the pipes: what has yet to be sent, and what has come and is unread. -/
def counterpart (exchange : Exchange) : Counterpart where
  received := exchange.outbox
  unread := exchange.inbox

def withCounterpart (exchange : Exchange) (counterpart : Counterpart) : Exchange :=
  { exchange with outbox := counterpart.received, inbox := counterpart.unread }

theorem IsSteady.withCounterpart {exchange : Exchange} (steady : exchange.IsSteady)
    (unfinished : exchange.connection.inbound.isFinished = false) (counterpart : Counterpart) :
    (exchange.withCounterpart counterpart).IsSteady where
  calm := ⟨steady.calm.stays, steady.calm.running, steady.calm.patient⟩
  kept := steady.kept
  faultless := steady.faultless
  inbound_pos := steady.inbound_pos
  outbound_pos := steady.outbound_pos
  listens := steady.listens
  finished finished := by
    cases unfinished.symm.trans finished

/-- Whether a connection is at work and nothing disturbs it. -/
structure OnDuty (service : Service Backend) (due owed : List Frame) (unread : Bytes)
    (last : Backend) (number : Int32) (state : Exchange × SharedState Backend) : Prop
    extends Works service due owed unread last number state where
  steady : state.1.IsSteady
  unfinished : state.1.connection.inbound.isFinished = false

section Serve

variable {exchange : Exchange} {connection : Connection} {now : Nat}
  {shared after : SharedState Backend}

/-- A step that answers no message leaves all frames due. -/
theorem Works.serve_idle (works : Works service due owed unread last number (exchange, shared))
    (transition : exchange.connection.Transition service now shared connection after)
    (alive : ¬connection.IsClosed) (idle : exchange.connection.phase.current? = none) :
    Works service due owed unread last number
      ({ exchange with connection := connection, now := now }, after) := by
  rcases works.handles with ⟨replies, handles, owed_eq⟩
  rcases transition.ended_or_moves works.sound idle with
    ⟨error, rfl⟩ | ⟨unhandled_eq, moved, backend_eq, number_eq⟩
  · exact absurd (Connection.ended_isClosed _ _) alive
  · refine
      { running := alive
        sound := transition.isSound works.sound
        acceptable := works.acceptable
        unhandled_eq := ?_
        handles := ⟨replies, ?_, ?_⟩ }
    · rw [unhandled_eq]
      exact works.unhandled_eq
    · rw [backend_eq, number_eq]
      exact handles
    · rw [← owed_eq]
      simp only [written, List.append_assoc]
      rw [← List.append_assoc _ connection.phase.pending, moved, List.append_assoc]

section Dispatching

variable {header : Header} {body : Bytes}
  (phase_eq : exchange.connection.phase = .dispatching header body)

include phase_eq

/-- The message at hand is the first of the frames that are due. -/
theorem Works.due_eq (works : Works service due owed unread last number (exchange, shared)) :
    ∃ rest, due = ⟨header, body⟩ :: rest ∧
      exchange.connection.inbound.content ++ exchange.outbox = Frame.allBytes rest := by
  have front : (⟨header, body⟩ : Frame).bytes ++
      (exchange.connection.inbound.content ++ exchange.outbox) = Frame.allBytes due := by
    rw [← works.unhandled_eq]
    simp [Connection.unhandled, Connection.ahead, phase_eq, Phase.current?, Phase.begun]
  cases due with
  | nil =>
      have length_eq := congrArg List.length front
      simp [Frame.size, Header.size] at length_eq
  | cons frame rest =>
      rw [Frame.allBytes_cons] at front
      rcases Frame.Split.eq_of_bytes_eq (works.sound.acceptable phase_eq)
        (works.acceptable frame (by simp)) front with ⟨rfl, rest_eq⟩
      exact ⟨rest, rfl, rest_eq⟩

theorem Works.serve_message (works : Works service due owed unread last number (exchange, shared))
    (transition : exchange.connection.Transition service now shared connection after) :
    ∃ rest, Works service rest owed unread last number
      ({ exchange with connection := connection, now := now }, after) := by
  rcases works.due_eq phase_eq with ⟨rest, rfl, rest_eq⟩
  rcases works.handles with ⟨replies, handles, owed_eq⟩
  rcases handles.answer_cons with ⟨reply?, others, state, answer, rfl, handles⟩
  rcases transition.of_answer phase_eq answer with
    ⟨rfl, phase, rfl, unended, idle, begun_eq, pending_eq⟩
  refine ⟨rest,
    { running := Connection.not_isClosed_of_outcome unended
      sound := transition.isSound works.sound
      acceptable := fun frame mem => works.acceptable frame (by simp [mem])
      unhandled_eq := ?_
      handles := ⟨others, handles, ?_⟩ }⟩
  · simpa [Connection.unhandled, Connection.ahead, Connection.turnTo, idle, begun_eq] using rest_eq
  · rw [← owed_eq]
    have none_pending : exchange.connection.phase.pending = [] := by
      simp only [phase_eq, Phase.pending]
    simp [written, Connection.turnTo, none_pending, pending_eq]

end Dispatching

end Serve

namespace OnDuty

/-- What is unread and what has come are a beginning of what is owed. -/
theorem exists_missing {exchange : Exchange} {shared : SharedState Backend}
    (duty : OnDuty service due owed unread last number (exchange, shared)) :
    ∃ missing, unread ++ exchange.inbox ++ missing = Frame.allBytes owed := by
  rcases duty.handles with ⟨replies, _, owed_eq⟩
  refine ⟨exchange.connection.outbound.content ++ exchange.connection.phase.pending ++
    Frame.allBytes replies, ?_⟩
  rw [← owed_eq]
  simp [written]

/-- A client sends one more frame, and is owed the replies to it. -/
theorem post {exchange : Exchange} {shared : SharedState Backend} {frame : Frame}
    {replies : List Frame} {after : Backend} {next : Int32}
    (duty : OnDuty service due owed unread last number (exchange, shared))
    (acceptable : frame.IsAcceptable service.maxMessageSize)
    (handles : service.Handles [frame] last number replies after next) :
    OnDuty service (due ++ [frame]) (owed ++ replies) unread after next
      (exchange.withCounterpart
        { exchange.counterpart with received := exchange.outbox ++ frame.bytes }, shared) := by
  rcases duty.handles with ⟨earlier, earlier_handles, owed_eq⟩
  refine
    { duty with
      acceptable := ?_
      unhandled_eq := ?_
      handles := ⟨earlier ++ replies, earlier_handles.append handles, ?_⟩
      steady := duty.steady.withCounterpart duty.unfinished _ }
  · intro other mem
    rcases List.mem_append.1 mem with mem | mem
    · exact duty.acceptable other mem
    · rw [List.mem_singleton.1 mem]
      exact acceptable
  · rw [withCounterpart, ← List.append_assoc, duty.unhandled_eq]
    simp
  · rw [Frame.allBytes_append, Frame.allBytes_append, ← List.append_assoc, ← owed_eq]
    rfl

/-- A client takes some of the frames that it is owed off what it has received. -/
theorem take {exchange : Exchange} {shared : SharedState Backend} {rest : List Frame}
    {unread_after inbox : Bytes}
    (duty : OnDuty service due owed unread last number (exchange, shared)) (front : Bytes)
    (unread_eq : unread ++ exchange.inbox = front ++ (unread_after ++ inbox))
    (owed_eq : Frame.allBytes owed = front ++ Frame.allBytes rest) :
    OnDuty service due rest unread_after last number
      (exchange.withCounterpart { exchange.counterpart with unread := inbox }, shared) := by
  rcases duty.handles with ⟨replies, handles, bytes_eq⟩
  refine
    { duty with
      handles := ⟨replies, handles, ?_⟩
      steady := duty.steady.withCounterpart duty.unfinished _ }
  suffices same : front ++ _ = front ++ _ from List.append_cancel_left same
  rw [← owed_eq, ← bytes_eq]
  simp only [written, withCounterpart]
  rw [← List.append_assoc unread, unread_eq]
  simp

/-- A connection that does not have a message at hand has all that is due ahead of it. -/
theorem ahead_eq {exchange : Exchange} {shared : SharedState Backend}
    (duty : OnDuty service due owed unread last number (exchange, shared))
    (idle : exchange.connection.phase.current? = none) :
    exchange.connection.ahead ++ exchange.outbox = Frame.allBytes due := by
  rw [← duty.unhandled_eq, Connection.unhandled, idle]
  rfl

/-- The connection ends in no other way than by running out of time while it cannot go on. -/
theorem timeout_or_alive {exchange : Exchange} {connection : Connection} {now : Nat}
    {shared after : SharedState Backend}
    (duty : OnDuty service due owed unread last number (exchange, shared))
    (transition : exchange.connection.Transition service now shared connection after) :
    (connection = exchange.connection.ended .timeout ∧ exchange.connection.IsBlocked) ∨
      ¬connection.IsClosed := by
  cases transition with
  | fault fault =>
      left
      rcases fault.isBlocked_of_frames duty.sound duty.steady.calm.running duty.unfinished
        duty.steady.kept duty.steady.faultless duty.acceptable (duty.ahead_eq fault.current?_eq)
        with ⟨rfl, blocked⟩
      exact ⟨rfl, blocked⟩
  | refused phase_eq answer =>
      rcases duty.due_eq phase_eq with ⟨rest, rfl, _⟩
      rcases duty.handles with ⟨replies, handles, _⟩
      rcases handles.answer_cons with ⟨reply?, _, _, answered, _⟩
      rw [answered] at answer
      cases answer
  | _ =>
      right
      exact Connection.not_isClosed_of_outcome rfl

/-- Whatever happens, the connection stays on duty. -/
theorem calmMove {before after : Exchange × SharedState Backend}
    (duty : OnDuty service due owed unread last number before)
    (move : CalmMove service before after)
    (unfinished : after.1.connection.inbound.isFinished = false) :
    ∃ rest, OnDuty service rest owed unread last number after := by
  have steady := duty.steady.calmMove move
  rcases move with ⟨move, calm⟩
  cases move with
  | @serve exchange shared after connection duration stepped =>
      have transition := Connection.transition_of_step stepped
      have alive : ¬connection.IsClosed := by
        rcases duty.timeout_or_alive transition with ⟨rfl, _⟩ | alive
        · exact absurd rfl calm.patient
        · exact alive
      cases phase_eq : exchange.connection.phase.current? with
      | none => exact ⟨due, duty.serve_idle transition alive phase_eq, steady, unfinished⟩
      | some frame =>
          have dispatching := Phase.current?_eq_some_iff.1 phase_eq
          rcases duty.serve_message dispatching transition with ⟨rest, works⟩
          exact ⟨rest, works, steady, unfinished⟩
  | send _ _ _ _ fits =>
      refine ⟨due, { duty with steady := steady, unfinished := unfinished, unhandled_eq := ?_ }⟩
      rw [unhandled_send fits]
      exact duty.unhandled_eq
  | collect _ _ _ =>
      refine ⟨due, { duty with steady := steady, unfinished := unfinished, handles := ?_ }⟩
      rw [written_collect]
      exact duty.handles
  | finish _ _ _ => cases unfinished
  | leave _ => exact absurd calm.stays (by simp [perform])
  | cancel _ => exact absurd calm.running (by simp [perform, Connection.cancel])

/-- Where nothing can move, nothing is due and nothing is on its way. -/
theorem of_stuck {exchange : Exchange} {shared : SharedState Backend}
    (duty : OnDuty service due owed unread last number (exchange, shared))
    (stuck : ∀ next, CalmMove service (exchange, shared) next →
      next.1.connection.inbound.isFinished = true) :
    due = [] ∧ exchange.outbox = [] ∧ exchange.connection.inbound.content = [] ∧
      exchange.connection.outbound.content = [] ∧
      ∃ since, exchange.connection.phase = .awaitingHeader [] since := by
  have open_after {next : Exchange × SharedState Backend}
      (kept : next.1.connection.inbound.isFinished = exchange.connection.inbound.isFinished) :
      ¬CalmMove service (exchange, shared) next := by
    intro move
    have finished := stuck next move
    rw [kept, duty.unfinished] at finished
    cases finished
  have collected : exchange.connection.outbound.content = [] := by
    apply Classical.byContradiction
    intro waits
    exact open_after rfl (duty.steady.calmMove_collect waits shared)
  have blocked : exchange.connection.IsBlocked := by
    cases stepped : exchange.connection.step service (exchange.now + 0) shared with
    | none => exact Connection.isBlocked_of_step duty.running stepped
    | some result =>
        rcases result with ⟨connection, after⟩
        have transition := Connection.transition_of_step stepped
        have keeps := transition.keeps
        rcases duty.timeout_or_alive transition with ⟨_, blocked⟩ | alive
        · exact blocked
        · rcases duty.steady.calm with ⟨stays, notCancelled, _⟩
          refine absurd ⟨.serve 0 stepped, stays, keeps.isCancelled_eq.trans notCancelled, ?_⟩
            (open_after keeps.isFinished_eq)
          intro timeout
          exact alive ⟨_, Phase.outcome?_eq_some_iff.1 timeout⟩
  cases blocked with
  | writing full => exact absurd collected (duty.steady.outbound_ne_nil_of_full full)
  | @reading received size reads short empty =>
      have sent : exchange.outbox = [] := by
        apply Classical.byContradiction
        intro unsent
        exact open_after rfl
          (duty.steady.calmMove_send duty.running empty duty.unfinished unsent shared)
      have nothing := reads.next_eq_none duty.sound short empty
      have ahead_eq := duty.ahead_eq reads.current?_eq
      rw [sent, List.append_nil] at ahead_eq
      have none_due : due = [] := by
        cases due with
        | nil => rfl
        | cons frame rest =>
            have found := Frame.Stream.next_eq_some_iff.2
              ⟨Frame.allBytes_cons frame rest, duty.acceptable frame (by simp)⟩
            rw [← ahead_eq, nothing] at found
            cases found
      refine ⟨none_due, sent, empty, collected, ?_⟩
      rw [none_due, Connection.ahead, empty] at ahead_eq
      cases reads with
      | @header _ since phase_eq =>
          rw [phase_eq] at ahead_eq
          have received_eq : received = [] := by simpa [Phase.begun] using ahead_eq
          subst received_eq
          exact ⟨since, phase_eq⟩
      | body phase_eq =>
          rw [phase_eq] at ahead_eq
          have length_eq := congrArg List.length ahead_eq
          simp [Phase.begun, Header.size] at length_eq

end OnDuty

end Exchange

end DocumentProtocol
