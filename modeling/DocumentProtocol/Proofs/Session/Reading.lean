import DocumentProtocol.Proofs.Session.Ahead
import DocumentProtocol.Proofs.Session.Conversation

/-!
# How a connection reads a stream

`Exchange.ReadMove` is what a connection does as a reader: it does what it does, except that with a
message at hand it goes on as if the message had been answered in some way. What the connection
makes of a message is left open, so that it reads on where it would have ended over a message.

What has been read and what is ahead together stay the stream (`Exchange.HasRead`), and a connection
that ends while it reads ends as the bytes ahead say. Readings come to an end, and where one can go
no further the connection has ended.
-/

namespace DocumentProtocol

variable {Backend : Type}

/-- Whether some frames have been read off a stream, and some bytes of it are left. -/
structure Frame.Part (limit : Nat) (stream : Bytes) (frames : List Frame) (rest : Bytes) :
    Prop where
  bytes_eq : stream = allBytes frames ++ rest
  acceptable : ∀ frame ∈ frames, frame.IsAcceptable limit

namespace Frame.Part

variable {limit : Nat} {stream rest leftover : Bytes} {frames all : List Frame}

theorem whole (limit : Nat) (stream : Bytes) : Part limit stream [] stream :=
  ⟨rfl, by simp⟩

theorem snoc {frame : Frame} (part : Part limit stream frames (frame.bytes ++ rest))
    (acceptable : frame.IsAcceptable limit) : Part limit stream (frames ++ [frame]) rest where
  bytes_eq := by
    rw [part.bytes_eq]
    simp
  acceptable := by
    intro other mem
    rcases List.mem_append.1 mem with mem | mem
    · exact part.acceptable other mem
    · rw [List.mem_singleton.1 mem]
      exact acceptable

theorem split {others : List Frame} (part : Part limit stream frames rest)
    (split : Split limit rest others leftover) :
    Split limit stream (frames ++ others) leftover where
  bytes_eq := by
    rw [part.bytes_eq, split.bytes_eq]
    simp
  acceptable := by
    intro frame mem
    rcases List.mem_append.1 mem with mem | mem
    · exact part.acceptable frame mem
    · exact split.acceptable frame mem
  maximal := split.maximal

/-- What has been read is a beginning of the frames of the stream. -/
theorem isPrefix (part : Part limit stream frames rest)
    (all_split : Split limit stream all leftover) : frames <+: all := by
  rcases exists_split limit rest with ⟨others, behind, split⟩
  rcases all_split.unique (part.split split) with ⟨rfl, _⟩
  exact List.prefix_append _ _

/-- Where nothing more can be read, all frames have been read. -/
theorem split_of_stops {error : ProtocolError} (part : Part limit stream frames rest)
    (stops : Stream.Stops limit rest error) :
    ∃ leftover, Split limit stream frames leftover ∧ error = Stream.fault limit leftover := by
  have split := part.split stops.split
  rw [List.append_nil] at split
  exact ⟨rest, split, stops.error_eq⟩

end Frame.Part

namespace Exchange

/-- Whether a connection goes on from a message, with no reply or with some reply. -/
def GoesOn (now : Nat) (phase : Phase) : Prop :=
  phase = .awaitingHeader [] now ∨ ∃ reply : Frame, phase = .replying reply.bytes reply.size now

/-- What a connection and its client do while the connection reads, beside what it has read. -/
inductive ReadMove (service : Service Backend) :
    (Exchange × SharedState Backend) × List Frame →
      (Exchange × SharedState Backend) × List Frame → Prop where
  | move {before after : Exchange × SharedState Backend} {frames : List Frame}
      (moved : CalmMove service before after)
      (incomplete : ∀ header body missing, before.1.connection.Completes header body missing →
        after.1.connection.phase = before.1.connection.phase)
      (idle : before.1.connection.phase.current? ≠ none →
        after.1.connection.phase = before.1.connection.phase) :
      ReadMove service (before, frames) (after, frames)
  /-- Some time may pass, and anything may be shared. -/
  | read {exchange : Exchange} {shared after : SharedState Backend} {frames : List Frame}
      {header : Header} {body : Bytes} {missing now : Nat}
      (completes : exchange.connection.Completes header body missing) :
      ReadMove service ((exchange, shared), frames)
        (({ exchange with
            connection := exchange.connection.goOn missing (.dispatching header body),
            now := now }, after),
          frames ++ [⟨header, body⟩])
  | goOn {exchange : Exchange} {shared after : SharedState Backend} {frames : List Frame}
      {now : Nat} {phase : Phase} (message : exchange.connection.phase.current? ≠ none)
      (goesOn : GoesOn now phase) :
      ReadMove service ((exchange, shared), frames)
        (({ exchange with connection := exchange.connection.turnTo phase, now := now }, after),
          frames)

/-- Whether a connection with a message at hand has ended since, over this message. -/
def EndsOver (before after : Exchange) : Prop :=
  ∃ message error, before.connection.phase.current? = some message ∧
    after.connection.phase = .closed (Connection.outcomeOf error)

/-- What becomes of a message at hand. -/
theorem goesOn_or_ended {service : Service Backend} {now : Nat} {connection next : Connection}
    {shared after : SharedState Backend} {message : Frame}
    (transition : connection.Transition service now shared next after)
    (current : connection.phase.current? = some message) :
    (∃ phase, GoesOn now phase ∧ next = connection.turnTo phase) ∨
      ∃ error, next = connection.ended error := by
  have dispatching := Phase.current?_eq_some_iff.1 current
  cases transition with
  | fault fault => exact .inr ⟨_, rfl⟩
  | refused phase_eq answer => exact .inr ⟨_, rfl⟩
  | silent phase_eq answer => exact .inl ⟨_, .inl rfl, rfl⟩
  | answered phase_eq answer => exact .inl ⟨_, .inr ⟨_, rfl⟩, rfl⟩
  | body completes =>
      cases completes
      simp_all
  | _ => simp_all

/-- Any calm move is one of these, or ends the connection over the message at hand. -/
theorem CalmMove.readMove {service : Service Backend}
    {before after : Exchange × SharedState Backend}
    (moved : CalmMove service before after) (frames : List Frame) :
    (∃ read, ReadMove service (before, frames) (after, frames ++ read)) ∨
      EndsOver before.1 after.1 := by
  have calm := moved.2
  have same (phase_eq : after.1.connection.phase = before.1.connection.phase) :
      ∃ read, ReadMove service (before, frames) (after, frames ++ read) := by
    refine ⟨[], ?_⟩
    rw [List.append_nil]
    exact .move moved (fun _ _ _ _ => phase_eq) (fun _ => phase_eq)
  cases moved.1 with
  | @serve exchange shared after connection duration stepped =>
      have transition := Connection.transition_of_step stepped
      cases current : exchange.connection.phase.current? with
      | some message =>
          rcases goesOn_or_ended transition current with ⟨phase, goesOn, rfl⟩ | ⟨error, rfl⟩
          · left
            refine ⟨[], ?_⟩
            rw [List.append_nil]
            exact .goOn (by simp [current]) goesOn
          · right
            exact ⟨message, error, current, rfl⟩
      | none =>
          left
          by_cases complete : ∃ header body missing,
            exchange.connection.Completes header body missing
          · rcases complete with ⟨header, body, missing, completes⟩
            rcases transition.of_completes completes with ⟨rfl, rfl⟩
            exact ⟨[⟨header, body⟩], .read completes⟩
          · refine ⟨[], ?_⟩
            rw [List.append_nil]
            refine .move moved ?_ (by simp [current])
            intro header body missing completes
            exact absurd ⟨header, body, missing, completes⟩ complete
  | send _ _ _ _ _ => exact .inl (same rfl)
  | collect _ _ _ => exact .inl (same rfl)
  | finish _ _ _ => exact .inl (same rfl)
  | leave _ => exact absurd calm.stays (by simp [perform])
  | cancel _ => exact absurd calm.running (by simp [perform, Connection.cancel])

theorem CalmMove.phase_of_closed {service : Service Backend}
    {before after : Exchange × SharedState Backend} {outcome : Except ProtocolError Unit}
    (moved : CalmMove service before after)
    (closed : before.1.connection.phase = .closed outcome) :
    after.1.connection.phase = .closed outcome := by
  cases moved.1 with
  | serve duration stepped =>
      exact absurd ⟨outcome, closed⟩ (Connection.transition_of_step stepped).not_isClosed
  | _ => exact closed

/-- A calm run is a reading, up to a message over which the connection ends. -/
theorem CalmlyReaches.reads {service : Service Backend}
    {start state : Exchange × SharedState Backend}
    (run : CalmlyReaches service start state) :
    ∃ middle read, Relation.ReflTransGen (ReadMove service) (start, []) (middle, read) ∧
      (state = middle ∨ EndsOver middle.1 state.1) := by
  induction run with
  | refl => exact ⟨_, [], .refl, .inl rfl⟩
  | @tail before after _ moved ih =>
      rcases ih with ⟨middle, read, run, rfl | ended⟩
      · rcases moved.readMove read with ⟨more, move⟩ | ended
        · exact ⟨after, _, run.tail move, .inl rfl⟩
        · exact ⟨before, read, run, .inr ended⟩
      · rcases ended with ⟨message, error, current, closed⟩
        exact ⟨middle, read, run, .inr ⟨message, error, current, moved.phase_of_closed closed⟩⟩

/-- What has been read and what is ahead, or that nothing more could be read. -/
structure HasRead (limit : Nat) (stream : Bytes) (exchange : Exchange) (frames : List Frame) :
    Prop where
  steady : exchange.IsSteady
  sound : exchange.connection.phase.IsSound limit
  part : ¬exchange.connection.IsClosed →
    Frame.Part limit stream frames (exchange.connection.ahead ++ exchange.outbox)
  split : ∀ outcome, exchange.connection.phase = .closed outcome → ∃ leftover,
    Frame.Split limit stream frames leftover ∧
      outcome = .error (Frame.Stream.fault limit leftover)

namespace HasRead

variable {service : Service Backend} {stream : Bytes}

theorem of_offering {capacity : Nat} (positive : 0 < capacity) (limit : Nat) (stream : Bytes) :
    HasRead limit stream (offering capacity stream) [] where
  steady := isSteady_offering positive stream
  sound := .awaitingHeader (by simp [Header.size])
  part _ := .whole limit stream
  split := by simp [offering, start, Connection.start]

/-- A step of a connection that reads ends it, if at all, as the stream says. -/
theorem serve {exchange : Exchange} {connection : Connection} {now : Nat}
    {shared after : SharedState Backend} {frames : List Frame}
    (hasRead : HasRead service.maxMessageSize stream exchange frames)
    (transition : exchange.connection.Transition service now shared connection after)
    (incomplete : ∀ header body missing, ¬exchange.connection.Completes header body missing)
    (idle : exchange.connection.phase.current? = none) :
    (exchange.connection.IsWaiting ∧ connection.phase = .closed (.error .timeout)) ∨
      (∃ leftover, Frame.Split service.maxMessageSize stream frames leftover ∧
        connection.phase =
          .closed (.error (Frame.Stream.fault service.maxMessageSize leftover))) ∨
      ¬connection.IsClosed ∧ connection.ahead = exchange.connection.ahead := by
  have part := hasRead.part transition.not_isClosed
  rcases transition.fault_or_ahead_eq hasRead.sound incomplete idle with
    ⟨error, fault, rfl⟩ | running
  · rcases fault.stops hasRead.sound hasRead.steady.calm.running hasRead.steady.kept
      hasRead.steady.faultless hasRead.steady.finished with ⟨waiting, rfl⟩ | ⟨_, stops⟩
    · left
      exact ⟨waiting, rfl⟩
    · right
      left
      rcases part.split_of_stops stops with ⟨leftover, split, rfl⟩
      refine ⟨leftover, split, ?_⟩
      rw [Connection.ended,
        Connection.outcomeOf_of_not_isInterruption (Frame.Stream.not_isInterruption_fault _ _)]
  · right
    right
    exact running

theorem readMove {before after : (Exchange × SharedState Backend) × List Frame}
    (hasRead : HasRead service.maxMessageSize stream before.1.1 before.2)
    (move : ReadMove service before after) :
    HasRead service.maxMessageSize stream after.1.1 after.2 := by
  cases move with
  | @move before after frames moved incomplete idle =>
      have steady := hasRead.steady.calmMove moved
      rcases moved with ⟨moved, calm⟩
      cases moved with
      | @serve exchange shared after connection duration stepped =>
          have transition := Connection.transition_of_step stepped
          have quiet : ∀ header body missing,
              ¬exchange.connection.Completes header body missing := by
            intro header body missing completes
            exact transition.phase_ne_of_completes completes
              (incomplete header body missing completes)
          have idle : exchange.connection.phase.current? = none := by
            by_contra message
            exact transition.phase_ne_of_current? message (idle message)
          have sound := transition.isSound hasRead.sound
          rcases hasRead.serve transition quiet idle with
            ⟨_, timeout⟩ | ⟨leftover, split, phase_eq⟩ | ⟨running, ahead_eq⟩
          · exact absurd (congrArg Phase.outcome? timeout) calm.patient
          · refine ⟨steady, sound, ?_, ?_⟩
            · intro running
              exact absurd ⟨_, phase_eq⟩ running
            · intro outcome closed
              rw [phase_eq] at closed
              cases closed
              exact ⟨leftover, split, rfl⟩
          · refine ⟨steady, sound, ?_, ?_⟩
            · intro _
              rw [ahead_eq]
              exact hasRead.part transition.not_isClosed
            · intro outcome closed
              exact absurd ⟨outcome, closed⟩ running
      | send _ _ _ _ fits =>
          refine ⟨steady, hasRead.sound, ?_, hasRead.split⟩
          intro running
          rw [ahead_send fits]
          exact hasRead.part running
      | collect _ _ _ => exact ⟨steady, hasRead.sound, hasRead.part, hasRead.split⟩
      | finish _ _ _ => exact ⟨steady, hasRead.sound, hasRead.part, hasRead.split⟩
      | leave _ => exact absurd calm.stays (by simp [perform])
      | cancel _ => exact absurd calm.running (by simp [perform, Connection.cancel])
  | @read exchange shared after frames header body missing now completes =>
      rcases completes.ahead_eq hasRead.sound with ⟨acceptable, ahead_eq⟩
      have running : ¬exchange.connection.IsClosed := completes.not_isClosed
      have steady := hasRead.steady
      have part := hasRead.part running
      rw [ahead_eq, List.append_assoc] at part
      refine ⟨?_, .dispatching acceptable, fun _ => part.snoc acceptable, ?_⟩
      · refine { steady with calm := ?_, listens := fun _ => steady.listens running }
        exact ⟨steady.calm.stays, steady.calm.running, by simp [Connection.goOn, Phase.outcome?]⟩
      · intro outcome closed
        cases closed
  | @goOn exchange shared after frames now phase message goesOn =>
      have running : ¬exchange.connection.IsClosed := by
        rintro ⟨outcome, closed⟩
        simp [closed, Phase.current?] at message
      have steady := hasRead.steady
      have part := hasRead.part running
      have none_begun : exchange.connection.phase.begun = [] := by
        rcases Option.ne_none_iff_exists'.1 message with ⟨frame, current⟩
        rw [Phase.current?_eq_some_iff.1 current, Phase.begun]
        all_goals simp
      refine ⟨?_, ?_, ?_, ?_⟩
      · refine { steady with calm := ?_, listens := fun _ => steady.listens running }
        refine ⟨steady.calm.stays, steady.calm.running, ?_⟩
        rcases goesOn with rfl | ⟨reply, rfl⟩ <;> simp [Connection.turnTo, Phase.outcome?]
      · rcases goesOn with rfl | ⟨reply, rfl⟩
        · exact .awaitingHeader (by simp [Header.size])
        · exact .replying
      · intro _
        rw [Connection.ahead, none_begun] at part
        rcases goesOn with rfl | ⟨reply, rfl⟩
        · exact part
        · exact part
      · intro outcome closed
        rcases goesOn with rfl | ⟨reply, rfl⟩
        · cases closed
        · cases closed

theorem of_run {before after : (Exchange × SharedState Backend) × List Frame}
    (hasRead : HasRead service.maxMessageSize stream before.1.1 before.2)
    (run : Relation.ReflTransGen (ReadMove service) before after) :
    HasRead service.maxMessageSize stream after.1.1 after.2 := by
  induction run with
  | refl => exact hasRead
  | tail _ move ih => exact ih.readMove move

/-- A connection that has not ended can read on, or its client can do something. -/
theorem isClosed_of_stuck {exchange : Exchange} {shared : SharedState Backend}
    {frames : List Frame} (hasRead : HasRead service.maxMessageSize stream exchange frames)
    (stuck : ∀ next, ¬ReadMove service ((exchange, shared), frames) next) :
    exchange.connection.IsClosed := by
  apply Classical.byContradiction
  intro running
  have steady := hasRead.steady
  have notWaiting : ¬exchange.connection.IsWaiting := by
    intro waiting
    rcases steady.exists_calmMove waiting running shared with ⟨next, moved, phase_eq⟩
    exact stuck _ (.move moved (fun _ _ _ _ => phase_eq) fun _ => phase_eq)
  have quiet : ∀ header body missing, ¬exchange.connection.Completes header body missing := by
    intro header body missing completes
    have move : ReadMove service ((exchange, shared), frames)
        (({ exchange with
            connection := exchange.connection.goOn missing (.dispatching header body), now := 0 },
          shared), frames ++ [⟨header, body⟩]) :=
      .read completes
    exact stuck _ move
  have idle : exchange.connection.phase.current? = none := by
    by_contra message
    have move : ReadMove service ((exchange, shared), frames)
        (({ exchange with
            connection := exchange.connection.turnTo (.awaitingHeader [] 0), now := 0 }, shared),
          frames) :=
      .goOn message (.inl rfl)
    exact stuck _ move
  cases stepped : exchange.connection.step service (exchange.now + 0) shared with
  | none => exact notWaiting (Connection.isWaiting_of_step stepped)
  | some result =>
      rcases result with ⟨connection, after⟩
      have transition := Connection.transition_of_step stepped
      refine stuck _ (.move ⟨.serve 0 stepped, steady.calm.stays,
        transition.keeps.isCancelled_eq.trans steady.calm.running, ?_⟩ ?_ (by simp [idle]))
      · intro timeout
        have timeout := Phase.outcome?_eq_some_iff.1 timeout
        rcases hasRead.serve transition quiet idle with
          ⟨waiting, _⟩ | ⟨leftover, _, phase_eq⟩ | ⟨running, _⟩
        · exact notWaiting waiting
        · change connection.phase = _ at timeout
          rw [phase_eq] at timeout
          have calm := Frame.Stream.not_isInterruption_fault service.maxMessageSize leftover
          simp only [Phase.closed.injEq, Except.error.injEq] at timeout
          rw [timeout] at calm
          exact calm .timeout
        · exact running ⟨_, timeout⟩
      · intro header body missing completes
        exact absurd completes (quiet header body missing)

end HasRead

theorem work_read {connection : Connection} {header : Header} {body : Bytes} {missing : Nat}
    (completes : connection.Completes header body missing) :
    Connection.Before (connection.goOn missing (.dispatching header body)).work
      connection.work := by
  cases completes with
  | mk phase_eq _ _ _ _ =>
      apply Connection.before_of
      simp only [Connection.work, Connection.unread, Connection.goOn, phase_eq, Phase.received,
        Phase.rank, Pipe.skip, List.length_drop, List.length_nil]
      omega

theorem work_goOn {connection : Connection} {now : Nat} {phase : Phase}
    (message : connection.phase.current? ≠ none) (goesOn : GoesOn now phase) :
    Connection.Before (connection.turnTo phase).work connection.work := by
  rcases Option.ne_none_iff_exists'.1 message with ⟨frame, current⟩
  have phase_eq := Phase.current?_eq_some_iff.1 current
  apply Connection.before_of
  rcases goesOn with rfl | ⟨reply, rfl⟩
  · simp [Connection.work, Connection.unread, Connection.turnTo, phase_eq, Phase.received,
      Phase.rank]
  · simp [Connection.work, Connection.unread, Connection.turnTo, phase_eq, Phase.received,
      Phase.rank]

/-- No reading goes on for ever. -/
theorem wellFounded_readMove (service : Service Backend) :
    WellFounded fun after before => ReadMove service before after := by
  have lex : WellFounded (Prod.Lex Before (· < ·) : (Nat × (Nat × Nat × Nat) × Nat) × Nat → _) :=
    (Prod.lex ⟨_, wellFounded_before⟩ Nat.lt_wfRel).wf
  apply Subrelation.wf _ (InvImage.wf (fun state => state.1.1.remaining) lex)
  intro after before move
  cases move with
  | move moved _ _ => exact remaining_calmMove moved
  | read completes =>
      apply Prod.Lex.left
      apply Prod.Lex.right
      apply Prod.Lex.left
      exact work_read completes
  | goOn message goesOn =>
      apply Prod.Lex.left
      apply Prod.Lex.right
      apply Prod.Lex.left
      exact work_goOn message goesOn

end Exchange

end DocumentProtocol
