import DocumentProtocol.Proofs.Session.Reading
import DocumentProtocol.Proofs.Session.Receipts
import DocumentProtocol.Session.Server

/-!
# The life of a connection

`Socket.Turn` says what can happen next on a connection that a server has accepted: it takes a step,
its client does something to one of the pipes, it is told to stop, or it is counted in or out. A
life is a chain of turns, with a log of what was done. What the connections of a server share may
be anything at each step, so that a life goes on in whatever way the other connections change it.

The second part follows a life along the stream that the client sends (`Socket.Follows`). The
messages that have been read are the frames at the front of the stream, in order, and what is ahead
of the connection is the rest; when the connection has ended, there is a cause for it.
-/

namespace DocumentProtocol

variable {Backend : Type}

open Deed

/-! ### Lives -/

theorem Server.of_sent {bytes : Bytes} {connection next : Connection}
    (sent : Server.sent bytes connection = some next) :
    connection.inbound.isAbandoned = false ∧
      next = { connection with
        inbound :=
          { connection.inbound with content := connection.inbound.content ++ bytes } } := by
  simp only [Server.sent, Pipe.isWritable, Bool.and_eq_true, Bool.not_eq_true'] at sent
  split at sent
  · rename_i writable
    cases sent
    refine ⟨writable.1.2, ?_⟩
    simp only [Pipe.offer, List.take_of_length_le writable.2]
  · cases sent

namespace Socket

/-- What can happen on a connection. -/
inductive Action where
  /-- The connection is accepted at some time; it happens once, before all turns. -/
  | arrive (now : Nat)
  | enter
  | advance (now : Nat)
  | send (bytes : Bytes)
  | receive (size : Nat)
  | finish
  | lose
  | failInbound (fault : StreamFault)
  | failOutbound (fault : StreamFault)
  | cancel
  | leave
  deriving DecidableEq, Repr

def start (id capacity now : Nat) : Socket := ⟨id, .admitted, Connection.start capacity now⟩

/-- What can happen next on a connection, what is done by it, and what the connection is then. -/
inductive Turn (service : Service Backend) (socket : Socket) :
    Action → List (Deed Backend) → Socket → Prop where
  | enter (stage_eq : socket.stage = .admitted) :
      Turn service socket .enter [] { socket with stage := .active }
  /-- What the connection finds shared may be anything. -/
  | advance {now : Nat} {connection : Connection} {shared after : SharedState Backend}
      (stage_eq : socket.stage = .active)
      (stepped : socket.connection.step service now shared = some (connection, after)) :
      Turn service socket (.advance now) (socket.connection.deeds service shared connection)
        { socket with connection := connection }
  | send {bytes : Bytes} {connection : Connection}
      (sent : Server.sent bytes socket.connection = some connection) :
      Turn service socket (.send bytes) [.sent bytes] { socket with connection := connection }
  | receive (size : Nat) :
      Turn service socket (.receive size) [.took (socket.connection.outbound.content.take size)]
        { socket with
          connection :=
            { socket.connection with outbound := socket.connection.outbound.skip size } }
  | finish :
      Turn service socket .finish [] { socket with connection := socket.connection.finishInbound }
  | lose :
      Turn service socket .lose [] { socket with connection := socket.connection.loseClient }
  | failInbound (fault : StreamFault) :
      Turn service socket (.failInbound fault) []
        { socket with connection := socket.connection.failInbound fault }
  | failOutbound (fault : StreamFault) :
      Turn service socket (.failOutbound fault) []
        { socket with connection := socket.connection.failOutbound fault }
  | cancel :
      Turn service socket .cancel [] { socket with connection := socket.connection.cancel }
  | leave (stage_eq : socket.stage = .active) :
      Turn service socket .leave []
        { socket with stage := .leaving, connection := socket.connection.abort }

/-- What can happen on a connection from some point on, and the log of what was done. -/
inductive Life (service : Service Backend) (socket : Socket) :
    List Action → List (Deed Backend) → Socket → Prop where
  | start : Life service socket [] [] socket
  | turn {actions : List Action} {log deeds : List (Deed Backend)} {middle next : Socket}
      {action : Action} (life : Life service socket actions log middle)
      (turn : middle.Turn service action deeds next) :
      Life service socket (actions ++ [action]) (log ++ deeds) next

variable {service : Service Backend} {socket middle next : Socket} {action : Action}
  {actions others : List Action} {log deeds more : List (Deed Backend)}

theorem Life.trans (life : socket.Life service actions log middle)
    (rest : middle.Life service others more next) :
    socket.Life service (actions ++ others) (log ++ more) next := by
  induction rest with
  | start =>
      rw [List.append_nil, List.append_nil]
      exact life
  | turn _ turn ih =>
      rw [← List.append_assoc, ← List.append_assoc]
      exact ih.turn turn

theorem Turn.id_eq (turn : socket.Turn service action deeds next) : next.id = socket.id := by
  cases turn <;> rfl

/-- A connection that has been told to stop is never told otherwise. -/
theorem Turn.isCancelled (turn : socket.Turn service action deeds next)
    (cancelled : socket.connection.isCancelled = true) : next.connection.isCancelled = true := by
  cases turn with
  | advance _ stepped =>
      exact (Connection.transition_of_step stepped).keeps.isCancelled_eq.trans cancelled
  | send sent =>
      simp only [Server.sent] at sent
      split at sent
      · cases sent
        exact cancelled
      · cases sent
  | cancel => rfl
  | _ => exact cancelled

/-- Whether a connection does nothing more: it has ended or was aborted. -/
def IsStopped (socket : Socket) : Prop :=
  socket.connection.IsClosed ∨ socket.stage = .leaving

/-- Nothing is read or written on a connection that has stopped. -/
theorem Turn.of_isStopped (turn : socket.Turn service action deeds next)
    (stopped : socket.IsStopped) :
    next.IsStopped ∧ frames deeds = [] ∧ receipts deeds = [] ∧ written deeds = [] ∧
      sizes deeds = [] := by
  cases turn with
  | enter stage_eq =>
      rcases stopped with ended | leaving
      · exact ⟨.inl ended, rfl, rfl, rfl, rfl⟩
      · exact absurd (stage_eq.symm.trans leaving) (by simp)
  | advance stage_eq stepped =>
      rcases stopped with ended | leaving
      · exact absurd ended (Connection.transition_of_step stepped).not_isClosed
      · exact absurd (stage_eq.symm.trans leaving) (by simp)
  | send sent =>
      rcases Server.of_sent sent with ⟨_, rfl⟩
      exact ⟨stopped, rfl, rfl, rfl, rfl⟩
  | leave _ => exact ⟨.inr rfl, rfl, rfl, rfl, rfl⟩
  | _ => exact ⟨stopped, rfl, rfl, rfl, rfl⟩

theorem Life.of_isStopped (life : socket.Life service actions log next)
    (stopped : socket.IsStopped) :
    next.IsStopped ∧ frames log = [] ∧ receipts log = [] ∧ written log = [] ∧
      sizes log = [] := by
  induction life with
  | start => exact ⟨stopped, rfl, rfl, rfl, rfl⟩
  | turn _ turn ih =>
      rcases ih with ⟨stopped, unread, unanswered, unwritten, unsized⟩
      rcases turn.of_isStopped stopped with
        ⟨stopped, unread_now, unanswered_now, unwritten_now, unsized_now⟩
      simp [stopped, unread, unanswered, unwritten, unsized, unread_now, unanswered_now,
        unwritten_now, unsized_now]

/-! ### What is read -/

end Socket

namespace Connection

variable {service : Service Backend} {now : Nat} {connection next : Connection}
  {shared after : SharedState Backend} {deeds : List (Deed Backend)}

theorem Does.issues (does : Does service now connection shared deeds next after) :
    ∀ receipt ∈ receipts deeds, service.Issues receipt := by
  cases does with
  | refuses _ answer => simpa using Service.issues_of_answer answer
  | passes _ answer => simpa using Service.issues_of_answer answer
  | answers _ answer => simpa using Service.issues_of_answer answer
  | _ => simp

end Connection

namespace Socket

variable {service : Service Backend} {socket next : Socket} {actions : List Action}
  {log : List (Deed Backend)}

/-- What is logged about a message is what the service makes of it. -/
theorem Life.issues (life : socket.Life service actions log next) :
    ∀ receipt ∈ receipts log, service.Issues receipt := by
  induction life with
  | start => simp
  | turn _ turn ih =>
      intro receipt mem
      rw [receipts_append, List.mem_append] at mem
      rcases mem with earlier | now
      · exact ih receipt earlier
      · cases turn with
        | advance _ stepped => exact (Connection.does_of_step stepped).issues receipt now
        | _ => simp at now

end Socket

namespace Connection

/-- Why a connection has ended with what is left of a stream ahead of it. -/
inductive Cause (limit : Nat) (connection : Connection) (log : List (Deed Backend))
    (rest : Bytes) : Except ProtocolError Unit → Prop where
  | told (cancelled : connection.isCancelled = true) : Cause limit connection log rest (.ok ())
  | late : Cause limit connection log rest (.error .timeout)
  /-- Reading or writing has met a fault of its pipe. -/
  | broken {fault : StreamFault} (fault_eq : connection.inbound.fault? = some fault) :
      Cause limit connection log rest (.error fault.toError)
  | severed {fault : StreamFault} (suffers : connection.outbound.Suffers fault) :
      Cause limit connection log rest (.error fault.toError)
  /-- The last message that was answered is refused. -/
  | refused {receipt : Receipt Backend} {error : ProtocolError}
      (last : (receipts log).getLast? = some receipt) (answer : receipt.answer = .error error) :
      Cause limit connection log rest (outcomeOf error)
  /-- No message begins what is left. -/
  | exhausted {error : ProtocolError} (stops : Frame.Stream.Stops limit rest error) :
      Cause limit connection log rest (.error error)

variable {service : Service Backend} {now limit : Nat} {connection next : Connection}
  {log : List (Deed Backend)} {rest : Bytes} {outcome : Except ProtocolError Unit}

/-- A cause stays one while nothing is answered and the connection is no less cut off. -/
theorem Cause.mono {deeds : List (Deed Backend)} (cause : Cause limit connection log rest outcome)
    (unanswered : receipts deeds = [])
    (told : connection.isCancelled = true → next.isCancelled = true)
    (broken : ∀ fault, connection.inbound.fault? = some fault → next.inbound.fault? = some fault)
    (severed : ∀ fault, connection.outbound.Suffers fault → next.outbound.Suffers fault) :
    Cause limit next (log ++ deeds) rest outcome := by
  cases cause with
  | told cancelled => exact .told (told cancelled)
  | late => exact .late
  | broken fault_eq => exact .broken (broken _ fault_eq)
  | severed suffers => exact .severed (severed _ suffers)
  | refused last answer =>
      refine .refused ?_ answer
      rwa [receipts_append, unanswered, List.append_nil]
  | exhausted stops => exact .exhausted stops

theorem outcomeOf_toError (fault : StreamFault) :
    outcomeOf fault.toError = .error fault.toError := by
  cases fault <;> rfl

theorem Fault.cause {error : ProtocolError} (fault : connection.Fault service now error)
    (sound : connection.phase.IsSound service.maxMessageSize) (log : List (Deed Backend)) :
    Cause service.maxMessageSize (connection.ended error) log connection.ahead
      (outcomeOf error) := by
  cases fault with
  | cancelled _ cancelled => exact .told cancelled
  | @badHeader _ _ error phase_eq running enough bad =>
      have other : outcomeOf error = .error error := by
        rcases Header.bodyLength_error bad with rfl | rfl <;> rfl
      rw [other]
      apply Cause.exhausted
      apply Frame.Stream.stops_of_next_error
      rw [ahead, phase_eq]
      exact Frame.Stream.next_eq_error_iff.2 ⟨enough, bad⟩
  | broken _ _ _ fault_eq =>
      rw [outcomeOf_toError]
      exact .broken fault_eq
  | hungUp reads _ short empty _ =>
      apply Cause.exhausted
      apply Frame.Stream.stops_of_next_none
      exact reads.next_eq_none sound short empty
  | idle _ _ _ _ _ => exact .late
  | severed _ suffers =>
      rw [outcomeOf_toError]
      exact .severed suffers
  | stalled _ _ _ _ _ => exact .late

/-- Whether nothing has happened to a connection but from outside. -/
structure Rests (connection next : Connection) : Prop where
  phase_eq : next.phase = connection.phase
  content_eq : next.inbound.content = connection.inbound.content
  deaf : connection.inbound.isAbandoned = true → next.inbound.isAbandoned = true
  told : connection.isCancelled = true → next.isCancelled = true
  broken : ∀ fault, connection.inbound.fault? = some fault → next.inbound.fault? = some fault
  severed : ∀ fault, connection.outbound.Suffers fault → next.outbound.Suffers fault

theorem rests_refl (connection : Connection) : connection.Rests connection :=
  ⟨rfl, rfl, id, id, fun _ => id, fun _ => id⟩

theorem rests_outbound (connection : Connection) (size : Nat) :
    connection.Rests { connection with outbound := connection.outbound.skip size } :=
  ⟨rfl, rfl, id, id, fun _ => id, fun _ => id⟩

theorem rests_finishInbound (connection : Connection) :
    connection.Rests connection.finishInbound :=
  ⟨rfl, rfl, id, id, fun _ => id, fun _ => id⟩

theorem rests_loseClient (connection : Connection) : connection.Rests connection.loseClient :=
  ⟨rfl, rfl, id, id, fun _ => id, fun _ suffers => suffers.imp_left fun left => ⟨rfl, left.2⟩⟩

/-- The first fault of a pipe is the one that counts. -/
theorem rests_failInbound (connection : Connection) (fault : StreamFault) :
    connection.Rests (connection.failInbound fault) where
  phase_eq := rfl
  content_eq := rfl
  deaf := id
  told := id
  broken first fault_eq := by simp [failInbound, Pipe.fail, fault_eq]
  severed _ := id

theorem rests_failOutbound (connection : Connection) (fault : StreamFault) :
    connection.Rests (connection.failOutbound fault) where
  phase_eq := rfl
  content_eq := rfl
  deaf := id
  told := id
  broken _ := id
  severed first suffers := by
    refine suffers.imp_right fun fault_eq => ?_
    simp [failOutbound, Pipe.fail, fault_eq]

theorem rests_cancel (connection : Connection) : connection.Rests connection.cancel :=
  ⟨rfl, rfl, id, fun _ => rfl, fun _ => id, fun _ => id⟩

end Connection

namespace Socket

/-- Whether a connection has read the front of its client's stream, and what is ahead of it. -/
inductive Follows (limit : Nat) (socket : Socket) (log : List (Deed Backend)) : Prop where
  | running (stage_ne : socket.stage ≠ .leaving) (unended : ¬socket.connection.IsClosed)
      (sound : socket.connection.phase.IsSound limit)
      (part : Frame.Part limit (stream log) (frames log) socket.connection.ahead) :
      Follows limit socket log
  | ended {outcome : Except ProtocolError Unit} {rest : Bytes}
      (phase_eq : socket.connection.phase = .closed outcome)
      (deaf : socket.connection.inbound.isAbandoned = true)
      (part : Frame.Part limit (stream log) (frames log) rest)
      (cause : socket.connection.Cause limit log rest outcome) : Follows limit socket log
  | aborted {rest : Bytes} (stage_eq : socket.stage = .leaving)
      (unended : ¬socket.connection.IsClosed)
      (deaf : socket.connection.inbound.isAbandoned = true)
      (part : Frame.Part limit (stream log) (frames log) rest) : Follows limit socket log

end Socket

namespace Connection

variable {service : Service Backend} {now limit : Nat} {connection next : Connection}
  {shared after : SharedState Backend} {deeds : List (Deed Backend)} {stream : Bytes}
  {frames : List Frame}

/-- A step reads on along the stream, and if it ends the connection there is a cause for it. -/
theorem Does.part (does : Does service now connection shared deeds next after)
    (sound : connection.phase.IsSound service.maxMessageSize)
    (part : Frame.Part service.maxMessageSize stream frames connection.ahead)
    (log : List (Deed Backend)) :
    (¬next.IsClosed ∧
        Frame.Part service.maxMessageSize stream (frames ++ Deed.frames deeds) next.ahead) ∨
      ∃ outcome rest, next.phase = .closed outcome ∧ next.inbound.isAbandoned = true ∧
        Frame.Part service.maxMessageSize stream (frames ++ Deed.frames deeds) rest ∧
        next.Cause service.maxMessageSize (log ++ deeds) rest outcome := by
  cases does with
  | ends fault =>
      right
      refine ⟨_, connection.ahead, rfl, rfl, by simpa using part, ?_⟩
      exact (fault.cause sound log).mono (by simp) id (fun _ => id) (fun _ => id)
  | takesIn _ _ goesOn ahead_eq =>
      left
      rcases goesOn with ⟨_, _, reads⟩
      refine ⟨reads.not_isClosed, ?_⟩
      rw [ahead_eq sound]
      simpa using part
  | reads completes =>
      left
      rcases completes.ahead_eq sound with ⟨acceptable, ahead_eq⟩
      rw [ahead_eq] at part
      refine ⟨not_isClosed_of_outcome rfl, ?_⟩
      simpa [ahead, goOn, Phase.begun, Pipe.skip] using part.snoc acceptable
  | @refuses header body error _ phase_eq answer =>
      right
      refine ⟨_, _, rfl, rfl, by simpa using part, ?_⟩
      have last : (receipts (log ++
          [.answered ⟨⟨header, body⟩, shared.backend, .error error⟩,
            .ended (outcomeOf error)])).getLast? =
          some ⟨⟨header, body⟩, shared.backend, .error error⟩ := by
        simp
      exact .refused last rfl
  | passes phase_eq _ =>
      left
      refine ⟨not_isClosed_of_outcome rfl, ?_⟩
      simpa [ahead, phase_eq, turnTo, Phase.begun] using part
  | answers phase_eq _ =>
      left
      refine ⟨not_isClosed_of_outcome rfl, ?_⟩
      simpa [ahead, phase_eq, turnTo, Phase.begun] using part
  | writes phase_eq _ _ _ =>
      left
      refine ⟨not_isClosed_of_outcome rfl, ?_⟩
      simpa [ahead, phase_eq, Phase.begun, written] using part
  | finishes phase_eq _ _ =>
      left
      refine ⟨not_isClosed_of_outcome rfl, ?_⟩
      simpa [ahead, phase_eq, Phase.begun, written] using part

end Connection

namespace Socket

variable {service : Service Backend} {socket next : Socket} {action : Action}
  {actions : List Action} {log deeds : List (Deed Backend)} {identifier capacity since limit : Nat}

theorem Follows.of_start (limit id capacity since : Nat) :
    (Socket.start id capacity since).Follows limit ([] : List (Deed Backend)) := by
  refine .running (by simp [Socket.start]) ?_ ?_ ?_
  · exact Connection.not_isClosed_of_outcome rfl
  · exact .awaitingHeader (by simp [Header.size])
  · exact .whole limit []

/-- A connection that does nothing itself loses no track of the stream. -/
theorem Follows.rest (follows : socket.Follows limit log)
    (rests : socket.connection.Rests next.connection)
    (stage : next.stage = .leaving ↔ socket.stage = .leaving)
    (unsent : stream deeds = []) (unread : frames deeds = [])
    (unanswered : receipts deeds = []) : next.Follows limit (log ++ deeds) := by
  have stream_eq : stream (log ++ deeds) = stream log := by
    rw [stream_append, unsent, List.append_nil]
  have frames_eq : frames (log ++ deeds) = frames log := by
    rw [frames_append, unread, List.append_nil]
  rcases rests with ⟨phase_eq, content_eq, still_deaf, told, broken, severed⟩
  cases follows with
  | running stage_ne unended sound part =>
      refine .running (mt stage.1 stage_ne) ?_ ?_ ?_
      · rwa [Connection.IsClosed, phase_eq]
      · rwa [phase_eq]
      · rwa [stream_eq, frames_eq, Connection.ahead, phase_eq, content_eq]
  | ended closed deaf part cause =>
      refine .ended (phase_eq.trans closed) (still_deaf deaf) ?_
        (cause.mono unanswered told broken severed)
      rwa [stream_eq, frames_eq]
  | @aborted rest leaving unended deaf part =>
      rw [← stream_eq, ← frames_eq] at part
      rw [Connection.IsClosed, ← phase_eq] at unended
      exact .aborted (stage.2 leaving) unended (still_deaf deaf) part

/-- Whatever happens on a connection, it keeps track of the stream. -/
theorem Follows.turn (follows : socket.Follows service.maxMessageSize log)
    (turn : socket.Turn service action deeds next) :
    next.Follows service.maxMessageSize (log ++ deeds) := by
  cases turn with
  | enter stage_eq => exact follows.rest (Connection.rests_refl _) (by simp [stage_eq]) rfl rfl rfl
  | @advance now connection shared after stage_eq stepped =>
      have transition := Connection.transition_of_step stepped
      have does := Connection.does_of_step stepped
      cases follows with
      | running stage_ne _ sound part =>
          rcases does.part sound part log with
            ⟨unended, part⟩ | ⟨outcome, rest, ended, deaf, part, cause⟩
          · refine .running stage_ne unended (transition.isSound sound) ?_
            simpa [does.stream_eq] using part
          · refine .ended ended deaf ?_ cause
            simpa [does.stream_eq] using part
      | ended phase_eq _ _ _ => exact absurd ⟨_, phase_eq⟩ transition.not_isClosed
      | aborted leaving _ _ _ => exact absurd (stage_eq.symm.trans leaving) (by simp)
  | @send bytes connection sent =>
      rcases Server.of_sent sent with ⟨listens, rfl⟩
      cases follows with
      | running stage_ne unended sound part =>
          refine .running stage_ne unended sound ?_
          refine ⟨?_, by simpa using part.acceptable⟩
          simp [Connection.ahead, part.bytes_eq]
      | ended _ deaf _ _ => exact absurd (listens.symm.trans deaf) (by simp)
      | aborted _ _ deaf _ => exact absurd (listens.symm.trans deaf) (by simp)
  | receive size => exact follows.rest (Connection.rests_outbound _ size) Iff.rfl rfl rfl rfl
  | finish => exact follows.rest (Connection.rests_finishInbound _) Iff.rfl rfl rfl rfl
  | lose => exact follows.rest (Connection.rests_loseClient _) Iff.rfl rfl rfl rfl
  | failInbound fault =>
      exact follows.rest (Connection.rests_failInbound _ fault) Iff.rfl rfl rfl rfl
  | failOutbound fault =>
      exact follows.rest (Connection.rests_failOutbound _ fault) Iff.rfl rfl rfl rfl
  | cancel => exact follows.rest (Connection.rests_cancel _) Iff.rfl rfl rfl rfl
  | leave stage_eq =>
      cases follows with
      | running _ unended _ part => exact .aborted rfl unended rfl (by simpa using part)
      | ended phase_eq deaf part cause =>
          refine .ended phase_eq rfl (by simpa using part) ?_
          exact cause.mono rfl (fun told => told) (fun _ broken => broken) (fun _ lost => lost)
      | aborted leaving _ _ _ => exact absurd (stage_eq.symm.trans leaving) (by simp)

theorem Follows.exists_part (follows : socket.Follows limit log) :
    ∃ rest, Frame.Part limit (stream log) (frames log) rest := by
  cases follows with
  | running _ _ _ part => exact ⟨_, part⟩
  | ended _ _ part _ => exact ⟨_, part⟩
  | aborted _ _ _ part => exact ⟨_, part⟩

/-- The messages that a connection has read are the front of its client's stream. -/
theorem Life.follows
    (life : (Socket.start identifier capacity since).Life service actions log socket) :
    socket.Follows service.maxMessageSize log := by
  induction life with
  | start => exact Follows.of_start _ _ _ _
  | turn _ turn ih => exact ih.turn turn

end Socket

end DocumentProtocol
