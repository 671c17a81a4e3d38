import DocumentProtocol.Proofs.Frame.Receiving
import DocumentProtocol.Proofs.Session.Reading
import DocumentProtocol.Session.Client

/-!
# Both sides read a stream alike

A connection takes from its pipe just the bytes that it wants next, a client collects bytes in a
buffer and looks for a frame in front of them. The main statement is that the two cut any stream
into the same frames and end with the same error after the last of them, however the stream arrives.

`Reception` is a client that does nothing but ask for one frame after the other, until it meets an
error. Its far end sends the stream in pieces of any size and then leaves.
-/

namespace DocumentProtocol

variable {Backend : Type}

/-- A client that receives, its far end, and what this has yet to send. -/
structure Reception where
  client : Client
  counterpart : Counterpart
  unsent : Bytes
  /-- What the client has received. -/
  frames : List Frame := []
  /-- The error that the client has met. -/
  failure : Option ProtocolError := none

namespace Reception

def start (limit : Nat) (stream : Bytes) : Reception where
  client := { limit := limit }
  counterpart := {}
  unsent := stream

/-- What can happen next while a client asks for one frame after the other. -/
inductive Move : Reception → Reception → Prop where
  | send {reception : Reception} {size : Nat} (present : 0 < size)
      (atMost : size ≤ reception.unsent.length) :
      Move reception
        { reception with
          counterpart := reception.counterpart.write (reception.unsent.take size)
          unsent := reception.unsent.drop size }
  | leave {reception : Reception} (sent : reception.unsent = [])
      (stays : reception.counterpart.hasLeft = false) :
      Move reception { reception with counterpart := reception.counterpart.leave }
  | receive {reception : Reception} {frame : Frame} {client : Client} {counterpart : Counterpart}
      (running : reception.failure = none)
      (received : reception.client.receive Counterpart.link reception.counterpart =
        (some (.ok frame), client, counterpart)) :
      Move reception
        { reception with
          client := client
          counterpart := counterpart
          frames := reception.frames ++ [frame] }
  | fail {reception : Reception} {error : ProtocolError} {client : Client}
      {counterpart : Counterpart} (running : reception.failure = none)
      (received : reception.client.receive Counterpart.link reception.counterpart =
        (some (.error error), client, counterpart)) :
      Move reception
        { reception with
          client := client
          counterpart := counterpart
          failure := some error }
  /-- The client takes in what has arrived and needs more. -/
  | wait {reception : Reception} {client : Client} {counterpart : Counterpart}
      (running : reception.failure = none) (present : reception.counterpart.unread ≠ [])
      (received : reception.client.receive Counterpart.link reception.counterpart =
        (none, client, counterpart)) :
      Move reception { reception with client := client, counterpart := counterpart }

section Receive

variable {client after : Client} {counterpart behind : Counterpart}

theorem keeps_receive {answer : Option (Except ProtocolError Frame)}
    (received : client.receive Counterpart.link counterpart = (answer, after, behind)) :
    after.limit = client.limit ∧ behind.hasLeft = counterpart.hasLeft := by
  simp only [Client.receive, Counterpart.link, Counterpart.supply] at received
  split at received
  · cases received
    exact ⟨rfl, rfl⟩
  · cases received
    exact ⟨rfl, rfl⟩

/-- What a request for a frame comes to on a link to a far end. -/
theorem receives_receive (ready : client.receiver.IsReady client.limit)
    (counterpart : Counterpart) :
    ∃ answer receiver rest,
      client.receive Counterpart.link counterpart =
        (answer.map Client.received, { client with receiver := receiver },
          { counterpart with unread := rest }) ∧
      Frame.Receiver.Receives client.limit (client.receiver.buffer ++ counterpart.unread)
        counterpart.hasLeft (answer.map fun answer => (answer, rest)) receiver ∧
      (answer = none → rest = []) := by
  have receives := Frame.Receiver.receives_receive ready counterpart.unread counterpart.hasLeft
  simp only [Client.receive, Counterpart.link, Counterpart.supply]
  split
  · rename_i answer rest receiver received
    rw [received] at receives
    exact ⟨some answer, receiver, rest, rfl, receives, by simp⟩
  · rename_i receiver received
    rw [received] at receives
    exact ⟨none, receiver, [], rfl, receives, fun _ => rfl⟩

/-- A frame that is received stands in front of the bytes at hand. -/
theorem of_receive_ok {frame : Frame} (ready : client.receiver.IsReady client.limit)
    (received : client.receive Counterpart.link counterpart = (some (.ok frame), after, behind)) :
    after.receiver.IsReady client.limit ∧ frame.IsAcceptable client.limit ∧
      client.receiver.buffer ++ counterpart.unread =
        frame.bytes ++ (after.receiver.buffer ++ behind.unread) := by
  rcases receives_receive ready counterpart with
    ⟨answer, receiver, rest, received_eq, receives, _⟩
  rw [received_eq] at received
  rcases answer with _ | answer
  · cases received
  · cases answer with
    | frame found =>
        cases received
        cases receives with
        | frame ready acceptable available_eq =>
            exact ⟨ready, acceptable, available_eq⟩
    | failed error => cases received
    | ended => cases received

/-- An error that is received is the one that belongs to the bytes at hand and those behind them. -/
theorem of_receive_error {error : ProtocolError} (ready : client.receiver.IsReady client.limit)
    (received : client.receive Counterpart.link counterpart = (some (.error error), after, behind))
    {unsent : Bytes} (left : counterpart.hasLeft = true → unsent = []) :
    Frame.Stream.Stops client.limit
      (client.receiver.buffer ++ counterpart.unread ++ unsent) error := by
  rcases receives_receive ready counterpart with
    ⟨answer, receiver, rest, received_eq, receives, _⟩
  rw [received_eq] at received
  rcases answer with _ | answer
  · cases received
  · cases answer with
    | frame found => cases received
    | failed found =>
        cases received
        cases receives with
        | bad available_eq failed =>
            apply Frame.Stream.stops_of_next_error
            rw [available_eq, List.append_assoc]
            exact Frame.Stream.next_append_of_error failed _
        | cut finished present missing =>
            apply Frame.Stream.stops_of_next_none
            rwa [left finished, List.append_nil]
    | ended =>
        cases received
        cases receives with
        | ended finished empty =>
            apply Frame.Stream.stops_of_next_none
            rw [left finished, empty]
            exact Frame.Stream.next_of_short (by simp [Header.size])

theorem of_receive_none (ready : client.receiver.IsReady client.limit)
    (received : client.receive Counterpart.link counterpart = (none, after, behind)) :
    after.receiver.IsReady client.limit ∧ counterpart.hasLeft = false ∧
      after.receiver.buffer = client.receiver.buffer ++ counterpart.unread ∧
      behind.unread = [] := by
  rcases receives_receive ready counterpart with
    ⟨answer, receiver, rest, received_eq, receives, emptied⟩
  rw [received_eq] at received
  rcases answer with _ | answer
  · cases received
    cases receives with
    | waits ready unfinished buffer_eq missing =>
        exact ⟨ready, unfinished, buffer_eq, emptied rfl⟩
  · cases received

end Receive

/-- What has been received and what is to come, or that nothing more could be received. -/
structure HasReceived (limit : Nat) (stream : Bytes) (reception : Reception) : Prop where
  limit_eq : reception.client.limit = limit
  left : reception.counterpart.hasLeft = true → reception.unsent = []
  ready : reception.failure = none → reception.client.receiver.IsReady limit
  part : reception.failure = none → Frame.Part limit stream reception.frames
    (reception.client.receiver.buffer ++ reception.counterpart.unread ++ reception.unsent)
  split : ∀ error, reception.failure = some error → ∃ leftover,
    Frame.Split limit stream reception.frames leftover ∧
      error = Frame.Stream.fault limit leftover

namespace HasReceived

variable {limit : Nat} {stream : Bytes} {reception next : Reception}

theorem of_start (limit : Nat) (stream : Bytes) :
    HasReceived limit stream (start limit stream) where
  limit_eq := rfl
  left := by simp [start]
  ready _ := Frame.Receiver.isReady_fresh limit
  part _ := .whole limit stream
  split := by simp [start]

theorem move (has : HasReceived limit stream reception) (move : Move reception next) :
    HasReceived limit stream next := by
  have ready (running : reception.failure = none) :
      reception.client.receiver.IsReady reception.client.limit := by
    rw [has.limit_eq]
    exact has.ready running
  cases move with
  | @send size present atMost =>
      refine { has with left := ?_, part := ?_ }
      · intro hasLeft
        rw [has.left hasLeft]
        exact List.drop_nil
      · intro running
        have part := has.part running
        simpa [Counterpart.write] using part
  | leave sent stays =>
      refine { has with left := ?_ }
      intro _
      exact sent
  | receive running received =>
      rcases keeps_receive received with ⟨limit_eq, hasLeft_eq⟩
      rcases of_receive_ok (ready running) received with ⟨ready, acceptable, available_eq⟩
      rw [has.limit_eq] at limit_eq ready acceptable
      refine ⟨limit_eq, ?_, fun _ => ready, ?_, ?_⟩
      · rw [hasLeft_eq]
        exact has.left
      · intro _
        have part := has.part running
        rw [available_eq, List.append_assoc] at part
        exact part.snoc acceptable
      · intro error failed
        simp [running] at failed
  | fail running received =>
      rcases keeps_receive received with ⟨limit_eq, hasLeft_eq⟩
      have stops := of_receive_error (ready running) received has.left
      rw [has.limit_eq] at limit_eq stops
      refine ⟨limit_eq, ?_, by simp, by simp, ?_⟩
      · rw [hasLeft_eq]
        exact has.left
      · intro found failed
        cases failed
        exact (has.part running).split_of_stops stops
  | wait running present received =>
      rcases keeps_receive received with ⟨limit_eq, hasLeft_eq⟩
      rcases of_receive_none (ready running) received with ⟨ready, _, buffer_eq, unread_eq⟩
      rw [has.limit_eq] at limit_eq ready
      refine ⟨limit_eq, ?_, fun _ => ready, ?_, has.split⟩
      · rw [hasLeft_eq]
        exact has.left
      · intro _
        rw [buffer_eq, unread_eq, List.append_nil]
        exact has.part running

theorem of_run (has : HasReceived limit stream reception)
    (run : Relation.ReflTransGen Move reception next) : HasReceived limit stream next := by
  induction run with
  | refl => exact has
  | tail _ move ih => exact ih.move move

/-- A client that has met no error can receive on, or its far end can do something. -/
theorem failure_of_stuck (has : HasReceived limit stream reception)
    (stuck : ∀ next, ¬Move reception next) : reception.failure ≠ none := by
  intro running
  have ready := has.ready running
  rw [← has.limit_eq] at ready
  have sent : reception.unsent = [] := by
    apply Classical.byContradiction
    intro present
    exact stuck _ (.send (List.length_pos_iff.2 present) (Nat.le_refl _))
  have left : reception.counterpart.hasLeft = true := by
    apply Classical.byContradiction
    intro stays
    exact stuck _ (.leave sent (Bool.eq_false_iff.2 stays))
  rcases received : reception.client.receive Counterpart.link reception.counterpart with
    ⟨answer, client, counterpart⟩
  rcases answer with _ | error | frame
  · rcases of_receive_none ready received with ⟨_, stays, _⟩
    rw [left] at stays
    cases stays
  · exact stuck _ (.fail running received)
  · exact stuck _ (.receive running received)

end HasReceived

/-- What is left to happen: first what anyone does once, then what is at hand. -/
def remaining (reception : Reception) : Nat × Nat × Nat :=
  (reception.unsent.length + (if reception.counterpart.hasLeft then 0 else 1) +
      (if reception.failure = none then 1 else 0),
    reception.client.receiver.buffer.length + reception.counterpart.unread.length,
    reception.counterpart.unread.length)

theorem remaining_move {limit : Nat} {stream : Bytes} {reception next : Reception}
    (has : HasReceived limit stream reception) (move : Move reception next) :
    Connection.Before next.remaining reception.remaining := by
  apply Connection.before_of
  have ready (running : reception.failure = none) :
      reception.client.receiver.IsReady reception.client.limit := by
    rw [has.limit_eq]
    exact has.ready running
  cases move with
  | @send size present atMost =>
      left
      have kept : (reception.counterpart.write (reception.unsent.take size)).hasLeft =
          reception.counterpart.hasLeft := rfl
      simp only [remaining, kept, List.length_drop]
      omega
  | leave sent stays =>
      left
      simp [remaining, Counterpart.leave, stays]
  | receive running received =>
      right
      rcases of_receive_ok (ready running) received with ⟨_, _, available_eq⟩
      have lengths := congrArg List.length available_eq
      simp only [List.length_append, Frame.length_bytes, Frame.size, Header.size] at lengths
      refine ⟨by simp [remaining, (keeps_receive received).2], .inl ?_⟩
      simp only [remaining]
      omega
  | fail running received =>
      left
      simp [remaining, (keeps_receive received).2, running]
  | wait running present received =>
      right
      rcases of_receive_none (ready running) received with ⟨_, _, buffer_eq, unread_eq⟩
      refine ⟨by simp [remaining, (keeps_receive received).2], .inr ⟨?_, ?_⟩⟩
      · simp [remaining, buffer_eq, unread_eq]
      · simpa [remaining, unread_eq] using List.length_pos_iff.2 present

/-- No client receives for ever. -/
theorem HasReceived.acc {limit : Nat} {stream : Bytes} {reception : Reception}
    (has : HasReceived limit stream reception) :
    Acc (fun after before => Move before after) reception := by
  have lex : WellFounded Connection.Before :=
    (Prod.lex Nat.lt_wfRel (Prod.lex Nat.lt_wfRel Nat.lt_wfRel)).wf
  induction rest_eq : reception.remaining using lex.induction generalizing reception with
  | _ rest ih =>
      constructor
      intro next move
      apply ih _ _ (has.move move) rfl
      rw [← rest_eq]
      exact remaining_move has move

end Reception

/--
Whether a reader that has read some frames, and may have come to an end, does what a stream of some
frames and an error asks for.
-/
structure Frame.Follows (frames : List Frame) (error : ProtocolError) (read : List Frame)
    (outcome : Option (Except ProtocolError Unit)) : Prop where
  isPrefix : read <+: frames
  of_ended : ∀ ended, outcome = some ended → read = frames ∧ ended = .error error

theorem Exchange.HasRead.follows {limit : Nat} {stream leftover : Bytes} {exchange : Exchange}
    {frames read : List Frame} (hasRead : HasRead limit stream exchange read)
    (split : Frame.Split limit stream frames leftover) :
    Frame.Follows frames (Frame.Stream.fault limit leftover) read
      exchange.connection.phase.outcome? := by
  have of_closed (outcome : Except ProtocolError Unit)
      (closed : exchange.connection.phase = .closed outcome) :
      read = frames ∧ outcome = .error (Frame.Stream.fault limit leftover) := by
    rcases hasRead.split outcome closed with ⟨behind, reached, rfl⟩
    rcases split.unique reached with ⟨rfl, rfl⟩
    exact ⟨rfl, rfl⟩
  constructor
  · by_cases closed : exchange.connection.IsClosed
    · rcases closed with ⟨outcome, closed⟩
      rw [(of_closed outcome closed).1]
    · exact (hasRead.part closed).isPrefix split
  · intro outcome ended
    exact of_closed outcome (Phase.outcome?_eq_some_iff.1 ended)

theorem Reception.HasReceived.follows {limit : Nat} {stream leftover : Bytes}
    {reception : Reception} {frames : List Frame} (has : HasReceived limit stream reception)
    (split : Frame.Split limit stream frames leftover) :
    Frame.Follows frames (Frame.Stream.fault limit leftover) reception.frames
      (reception.failure.map .error) := by
  have of_failed (error : ProtocolError) (failed : reception.failure = some error) :
      reception.frames = frames ∧ error = Frame.Stream.fault limit leftover := by
    rcases has.split error failed with ⟨behind, reached, rfl⟩
    rcases split.unique reached with ⟨rfl, rfl⟩
    exact ⟨rfl, rfl⟩
  constructor
  · cases failed : reception.failure with
    | none => exact (has.part failed).isPrefix split
    | some error => rw [(of_failed error failed).1]
  · intro outcome ended
    rcases Option.map_eq_some_iff.1 ended with ⟨error, failed, rfl⟩
    rcases of_failed error failed with ⟨frames_eq, rfl⟩
    exact ⟨frames_eq, rfl⟩

/--
However a stream arrives, a connection and a client with the limit of the connection read the same
frames and end with the same error behind the last of them. Neither reads for ever, and where one of
them can go no further it has come to its end. What a connection does with its service is such a
reading, up to a message over which it ends.
-/
theorem readers_agree (service : Service Backend) (shared : SharedState Backend) (stream : Bytes)
    (capacity : Nat) (positive : 0 < capacity) :
    ∃ frames leftover,
      Frame.Split service.maxMessageSize stream frames leftover ∧
      (∀ state, Relation.ReflTransGen (Exchange.ReadMove service)
          ((Exchange.offering capacity stream, shared), []) state →
        Frame.Follows frames (Frame.Stream.fault service.maxMessageSize leftover) state.2
            state.1.1.connection.phase.outcome? ∧
          ((∀ next, ¬Exchange.ReadMove service state next) →
            state.1.1.connection.phase.outcome? ≠ none)) ∧
      Acc (fun after before => Exchange.ReadMove service before after)
        ((Exchange.offering capacity stream, shared), []) ∧
      (∀ state, Exchange.CalmlyReaches service (Exchange.offering capacity stream, shared) state →
        ∃ middle read, Relation.ReflTransGen (Exchange.ReadMove service)
            ((Exchange.offering capacity stream, shared), []) (middle, read) ∧
          (state = middle ∨ Exchange.EndsOver middle.1 state.1)) ∧
      (∀ reception, Relation.ReflTransGen Reception.Move
          (Reception.start service.maxMessageSize stream) reception →
        Frame.Follows frames (Frame.Stream.fault service.maxMessageSize leftover) reception.frames
            (reception.failure.map .error) ∧
          ((∀ next, ¬Reception.Move reception next) → reception.failure ≠ none)) ∧
      Acc (fun after before => Reception.Move before after)
        (Reception.start service.maxMessageSize stream) := by
  rcases Frame.exists_split service.maxMessageSize stream with ⟨frames, leftover, split⟩
  have offered := Exchange.HasRead.of_offering positive service.maxMessageSize stream
  have started := Reception.HasReceived.of_start service.maxMessageSize stream
  refine ⟨frames, leftover, split, ?_, (Exchange.wellFounded_readMove service).apply _,
    fun state run => run.reads, ?_, started.acc⟩
  · intro state run
    have hasRead := offered.of_run run
    refine ⟨hasRead.follows split, ?_⟩
    intro stuck running
    rcases hasRead.isClosed_of_stuck stuck with ⟨outcome, closed⟩
    simp [closed, Phase.outcome?] at running
  · intro reception run
    have has := started.of_run run
    exact ⟨has.follows split, has.failure_of_stuck⟩

/-- A message, and three bytes that are no header. -/
def truncated : Bytes := (Exchange.blank 7 0).bytes ++ [1, 2, 3]

theorem stops_truncated : Frame.Stream.Stops 100 [1, 2, 3] .connectionClosed :=
  Frame.Stream.stops_of_next_none (Frame.Stream.next_of_short (by decide))

theorem split_truncated : Frame.Split 100 truncated [Exchange.blank 7 0] [1, 2, 3] :=
  .cons ⟨by decide, by decide⟩ stops_truncated.split

theorem readers_agree_truncated :
    0 < 1 ∧
      (∀ state, Relation.ReflTransGen (Exchange.ReadMove Exchange.obliging)
          ((Exchange.offering 1 truncated, { backend := () }), []) state →
        (∀ next, ¬Exchange.ReadMove Exchange.obliging state next) →
          state.2 = [Exchange.blank 7 0] ∧
            state.1.1.connection.phase.outcome? = some (.error .connectionClosed)) ∧
      ∀ reception, Relation.ReflTransGen Reception.Move (Reception.start 100 truncated) reception →
        (∀ next, ¬Reception.Move reception next) →
          reception.frames = [Exchange.blank 7 0] ∧
            reception.failure = some .connectionClosed := by
  refine ⟨by decide, ?_⟩
  rcases readers_agree Exchange.obliging { backend := () } truncated 1 (by decide) with
    ⟨frames, leftover, split, connection, _, _, client, _⟩
  rcases split.unique split_truncated with ⟨rfl, rfl⟩
  constructor
  · intro state run stuck
    rcases connection state run with ⟨follows, ended⟩
    rcases Option.ne_none_iff_exists'.1 (ended stuck) with ⟨outcome, outcome_eq⟩
    rcases follows.of_ended outcome outcome_eq with ⟨read_eq, rfl⟩
    rw [stops_truncated.error_eq]
    exact ⟨read_eq, outcome_eq⟩
  · intro reception run stuck
    rcases client reception run with ⟨follows, ended⟩
    rcases Option.ne_none_iff_exists'.1 (ended stuck) with ⟨error, error_eq⟩
    rcases follows.of_ended (.error error) (by rw [error_eq]; rfl) with ⟨read_eq, same⟩
    cases same
    rw [stops_truncated.error_eq]
    exact ⟨read_eq, error_eq⟩

end DocumentProtocol
