import DocumentProtocol.Proofs.Session.Wire

/-!
# Connections that are told to stop

A connection that has been told to stop takes one of a few steps (`Connection.Retires`): it answers
the message at hand if it has read one to its last byte, it writes on at the reply that is due,
unless its client or its pipe is gone or the time is over, and it notices when it would read. No
message is read in any of them, however many have arrived.

It may be told at any moment, in the middle of a header, a body, an answer or a reply.
`Connection.WindsUp` says how far the connection has come since, and the main statement that it
comes to an end of its own: with the reply written whole and without an error, or for one of the
reasons that are listed.
-/

namespace DocumentProtocol

variable {Backend : Type}

open Deed

namespace Connection

/-! ### The steps that are left -/

/-- The steps of a connection that has been told to stop. -/
inductive Retires (service : Service Backend) (now : Nat) (connection : Connection)
    (shared : SharedState Backend) :
    List (Deed Backend) → Connection → SharedState Backend → Prop where
  | notices {received : Bytes} {size : Nat} (reads : connection.Reads received size) :
      Retires service now connection shared [.ended (.ok ())] (connection.ended .cancelled) shared
  | refuses {header : Header} {body : Bytes} {error : ProtocolError}
      {after : SharedState Backend} (phase_eq : connection.phase = .dispatching header body)
      (answer : service.answer header body shared = (.error error, after)) :
      Retires service now connection shared
        [.answered ⟨⟨header, body⟩, shared.backend, .error error⟩, .ended (outcomeOf error)]
        (connection.ended error) (after.conclude error)
  | passes {header : Header} {body : Bytes} {after : SharedState Backend}
      (phase_eq : connection.phase = .dispatching header body) :
      Retires service now connection shared [.answered ⟨⟨header, body⟩, shared.backend, .ok none⟩]
        (connection.turnTo (.awaitingHeader [] now)) after
  | answers {header : Header} {body : Bytes} {reply : Frame} {after : SharedState Backend}
      (phase_eq : connection.phase = .dispatching header body) :
      Retires service now connection shared
        [.answered ⟨⟨header, body⟩, shared.backend, .ok (some reply)⟩]
        (connection.turnTo (.replying reply.bytes reply.size now)) after
  | severed {pending : Bytes} {size since : Nat} {fault : StreamFault}
      (phase_eq : connection.phase = .replying pending size since)
      (suffers : connection.outbound.Suffers fault) :
      Retires service now connection shared [.ended (.error fault.toError)]
        (connection.ended fault.toError) (shared.conclude fault.toError)
  | stalls {pending : Bytes} {size since : Nat}
      (phase_eq : connection.phase = .replying pending size since)
      (passed : since + service.writeTimeout ≤ now) :
      Retires service now connection shared [.ended (.error .timeout)] (connection.ended .timeout)
        shared
  | writes {pending : Bytes} {size since : Nat}
      (phase_eq : connection.phase = .replying pending size since)
      (room : 0 < connection.outbound.room) (long : connection.outbound.room < pending.length) :
      Retires service now connection shared [.wrote (pending.take connection.outbound.room)]
        (connection.written pending (.replying (pending.drop connection.outbound.room) size since))
        shared
  | finishes {pending : Bytes} {size since : Nat}
      (phase_eq : connection.phase = .replying pending size since) :
      Retires service now connection shared [.wrote pending, .replied size]
        (connection.written pending (.awaitingHeader [] now)) (shared.count (.replySent size))

variable {service : Service Backend} {now : Nat} {connection next : Connection}
  {shared after : SharedState Backend} {log deeds : List (Deed Backend)}

theorem Does.retires (does : Does service now connection shared deeds next after)
    (cancelled : connection.isCancelled = true) :
    Retires service now connection shared deeds next after := by
  have not_running : connection.isCancelled ≠ false := by simp [cancelled]
  cases does with
  | ends fault =>
      cases fault with
      | cancelled reads _ => exact .notices reads
      | badHeader _ running _ _ => exact absurd running not_running
      | broken _ running _ _ => exact absurd running not_running
      | hungUp _ running _ _ _ => exact absurd running not_running
      | idle _ running _ _ _ => exact absurd running not_running
      | severed phase_eq suffers =>
          rw [outcomeOf_toError]
          exact .severed phase_eq suffers
      | stalled phase_eq _ _ _ passed => exact .stalls phase_eq passed
  | takesIn running _ _ _ => exact absurd running not_running
  | reads completes =>
      cases completes with
      | mk _ running _ _ _ => exact absurd running not_running
  | refuses phase_eq answer => exact .refuses phase_eq answer
  | passes phase_eq _ => exact .passes phase_eq
  | answers phase_eq _ => exact .answers phase_eq
  | writes phase_eq _ room long => exact .writes phase_eq room long
  | finishes phase_eq _ _ => exact .finishes phase_eq

theorem Retires.frames_eq (retires : Retires service now connection shared deeds next after) :
    frames deeds = [] := by
  cases retires <;> rfl

/-- How many steps a connection that has been told to stop can take, those of a new reply apart. -/
def stepsLeft (connection : Connection) : Nat :=
  match connection.phase with
  | .dispatching _ _ => 2
  | .replying pending _ _ => pending.length + 1
  | .closed _ => 0
  | _ => 1

/-- A step leaves fewer steps, or as many as there are bytes in the reply that has come due. -/
theorem Retires.stepsLeft_lt (retires : Retires service now connection shared deeds next after)
    (account : connection.Account log) :
    next.stepsLeft < connection.stepsLeft + (Frame.allBytes (due deeds)).length := by
  cases retires with
  | notices reads =>
      cases reads with
      | header phase_eq => simp [stepsLeft, phase_eq, Connection.ended]
      | body phase_eq => simp [stepsLeft, phase_eq, Connection.ended]
  | refuses phase_eq _ => simp [stepsLeft, phase_eq, Connection.ended]
  | passes phase_eq =>
      simp only [stepsLeft, phase_eq, turnTo]
      omega
  | answers phase_eq =>
      simp only [stepsLeft, phase_eq, turnTo, due, receipts_cons, receipt?, Option.toList_some,
        receipts_nil, List.append_nil, List.filterMap_cons, Receipt.reply?, List.filterMap_nil,
        Frame.allBytes, List.flatMap_cons, List.flatMap_nil]
      omega
  | severed phase_eq _ => simp [stepsLeft, phase_eq, Connection.ended]
  | stalls phase_eq _ => simp [stepsLeft, phase_eq, Connection.ended]
  | writes phase_eq room long =>
      simp only [stepsLeft, phase_eq, Connection.written, List.length_drop]
      omega
  | finishes phase_eq =>
      rcases account.of_replying phase_eq with ⟨_, _, _, _, _, _, _, _, present⟩
      simp only [stepsLeft, phase_eq, Connection.written]
      have some_pending := List.length_pos_iff.2 present
      omega

/-- What a connection that has been told to stop can do next at some time. -/
inductive Proceeds (service : Service Backend) (now : Nat) (connection : Connection)
    (shared : SharedState Backend) : Prop where
  | ended (closed : connection.IsClosed) : Proceeds service now connection shared
  /-- It takes a step, and counts no error of the protocol unless it ends with one. -/
  | steps {next : Connection} {after : SharedState Backend}
      (stepped : connection.step service now shared = some (next, after))
      (uncounted : (∀ outcome, next.phase = .closed outcome → ¬IsFault outcome) →
        after.metrics.protocolErrors = shared.metrics.protocolErrors) :
      Proceeds service now connection shared
  /-- It waits for its client to take bytes, which it does not do for ever. -/
  | blocked {pending : Bytes} {size since : Nat}
      (phase_eq : connection.phase = .replying pending size since)
      (full : connection.outbound.room = 0) (early : now < since + service.writeTimeout) :
      Proceeds service now connection shared

theorem proceeds (service : Service Backend) (now : Nat) (shared : SharedState Backend)
    (cancelled : connection.isCancelled = true) : connection.Proceeds service now shared := by
  cases stepped : connection.step service now shared with
  | some result =>
      rcases result with ⟨next, after⟩
      exact .steps stepped fun harmless => (does_of_step stepped).protocolErrors_eq harmless
  | none =>
      cases phase_eq : connection.phase with
      | closed outcome => exact .ended ⟨outcome, phase_eq⟩
      | awaitingHeader received since => simp [step, phase_eq, cancelled] at stepped
      | awaitingBody header received => simp [step, phase_eq, cancelled] at stepped
      | dispatching header body => simp [step, phase_eq] at stepped
      | replying pending size since =>
          simp only [step, phase_eq] at stepped
          rcases Deadline.within_eq_none_iff.1 stepped with ⟨stuck, early⟩
          exact .blocked phase_eq (full_of_put_eq_none stuck).2.1 early

/-! ### Winding up -/

/-- Whether the time for writing a reply of some size runs from some moment. -/
inductive Runs (told : Phase) (actions : List Socket.Action) : Nat → Nat → Prop where
  /-- The reply was due when the connection was told to stop. -/
  | due {pending : Bytes} {size since : Nat} (told_eq : told = .replying pending size since) :
      Runs told actions size since
  /-- The message was at hand then, and was answered since. -/
  | answered {frame : Frame} {size since : Nat} (told_eq : told.current? = some frame)
      (advanced : .advance since ∈ actions) : Runs told actions size since

theorem Runs.mono {told : Phase} {actions : List Socket.Action} {size since : Nat}
    (runs : Runs told actions size since) (more : List Socket.Action) :
    Runs told (actions ++ more) size since := by
  cases runs with
  | due told_eq => exact .due told_eq
  | answered told_eq advanced => exact .answered told_eq (List.mem_append_left _ advanced)

/--
How far a connection has come after it was told to stop in some phase. The first log is that of its
life until then, and the second one tells what it has done since.
-/
inductive WindsUp (service : Service Backend) (told : Phase) (actions : List Socket.Action)
    (log more : List (Deed Backend)) (connection : Connection) : Prop where
  /-- All that has come due is written but for what is pending, and the time is running. -/
  | underWay (running : ¬connection.IsClosed)
      (runs : ∀ pending size since, connection.phase = .replying pending size since →
        Runs told actions size since)
      (written_eq : Deed.written (log ++ more) ++ connection.phase.pending =
        Frame.allBytes (due (log ++ more))) :
      WindsUp service told actions log more connection
  | stopped (phase_eq : connection.phase = .closed (.ok ()))
      (written_eq : Deed.written (log ++ more) = Frame.allBytes (due (log ++ more))) :
      WindsUp service told actions log more connection
  | timedOut {rest : Bytes} {size since now : Nat}
      (phase_eq : connection.phase = .closed (.error .timeout))
      (runs : Runs told actions size since)
      (advanced : .advance now ∈ actions) (passed : since + service.writeTimeout ≤ now)
      (written_eq : Deed.written (log ++ more) ++ rest = Frame.allBytes (due (log ++ more)))
      (present : rest ≠ []) : WindsUp service told actions log more connection
  | severed {rest : Bytes} {fault : StreamFault}
      (phase_eq : connection.phase = .closed (.error fault.toError))
      (suffers : connection.outbound.Suffers fault)
      (written_eq : Deed.written (log ++ more) ++ rest = Frame.allBytes (due (log ++ more)))
      (present : rest ≠ []) : WindsUp service told actions log more connection
  /-- The message that was at hand is refused. -/
  | refused {receipt : Receipt Backend} {error : ProtocolError}
      (phase_eq : connection.phase = .closed (.error error)) (answered : receipts more = [receipt])
      (answer_eq : receipt.answer = .error error)
      (written_eq : Deed.written (log ++ more) = Frame.allBytes (due (log ++ more))) :
      WindsUp service told actions log more connection

section WindsUp

variable {service : Service Backend} {now : Nat} {told : Phase} {connection next : Connection}
  {shared after : SharedState Backend} {actions others : List Socket.Action}
  {log more onward : List (Deed Backend)}

/-- A connection does not get further by what others do to it. -/
theorem WindsUp.keep (windsUp : WindsUp service told actions log more connection)
    (phase_eq : next.phase = connection.phase)
    (severed : ∀ fault, connection.outbound.Suffers fault → next.outbound.Suffers fault)
    (unanswered : receipts onward = []) (unwritten : Deed.written onward = []) :
    WindsUp service told (actions ++ others) log (more ++ onward) next := by
  have written_same : Deed.written (log ++ (more ++ onward)) = Deed.written (log ++ more) := by
    rw [← List.append_assoc, written_append, unwritten, List.append_nil]
  have due_same : due (log ++ (more ++ onward)) = due (log ++ more) := by
    rw [← List.append_assoc, due, due, receipts_append, unanswered, List.append_nil]
  have answered_same : receipts (more ++ onward) = receipts more := by
    rw [receipts_append, unanswered, List.append_nil]
  cases windsUp with
  | underWay running runs written_eq =>
      refine .underWay ?_ ?_ ?_
      · rwa [IsClosed, phase_eq]
      · rw [phase_eq]
        intro pending size since replying
        exact (runs pending size since replying).mono others
      · rwa [phase_eq, written_same, due_same]
  | stopped closed written_eq =>
      refine .stopped (phase_eq.trans closed) ?_
      rwa [written_same, due_same]
  | timedOut closed runs advanced passed written_eq present =>
      rw [← written_same, ← due_same] at written_eq
      exact .timedOut (phase_eq.trans closed) (runs.mono others) (List.mem_append_left _ advanced)
        passed written_eq present
  | severed closed suffers written_eq present =>
      rw [← written_same, ← due_same] at written_eq
      exact .severed (phase_eq.trans closed) (severed _ suffers) written_eq present
  | refused closed answered answer_eq written_eq =>
      refine .refused (phase_eq.trans closed) (answered_same.trans answered) answer_eq ?_
      rwa [written_same, due_same]

/-- By a step of its own a connection gets further, in one of the ways that are left to it. -/
theorem WindsUp.retire (windsUp : WindsUp service told actions log more connection)
    (account : connection.Account (log ++ more)) (running : ¬connection.IsClosed)
    (account_next : next.Account (log ++ more ++ onward))
    (atHand : (receipts more).map Receipt.frame ++ connection.phase.current?.toList =
      told.current?.toList)
    (retires : Retires service now connection shared onward next after) :
    WindsUp service told (actions ++ [.advance now]) log (more ++ onward) next := by
  rw [List.append_assoc] at account_next
  -- While a message is at hand, it is the one that was when the connection was told to stop.
  have of_dispatching {header : Header} {body : Bytes}
      (phase_eq : connection.phase = .dispatching header body) :
      told.current? = some ⟨header, body⟩ ∧ receipts more = [] := by
    rw [phase_eq, Phase.current?] at atHand
    cases told_eq : told.current? with
    | none => simp [told_eq] at atHand
    | some other =>
        rw [told_eq] at atHand
        rcases List.append_eq_singleton_iff.1 atHand with ⟨none, same⟩ | ⟨_, none⟩
        · cases same
          exact ⟨rfl, List.map_eq_nil_iff.1 none⟩
        · cases none
  cases windsUp with
  | stopped closed _ => exact absurd ⟨_, closed⟩ running
  | timedOut closed _ _ _ _ _ => exact absurd ⟨_, closed⟩ running
  | severed closed _ _ _ => exact absurd ⟨_, closed⟩ running
  | refused closed _ _ _ => exact absurd ⟨_, closed⟩ running
  | underWay _ runs written_eq =>
      cases retires with
      | notices reads =>
          rcases account.of_reads reads with ⟨answered, stands⟩
          refine .stopped rfl ?_
          rw [← List.append_assoc]
          exact (stands.keep rfl rfl rfl).written_eq_due
      | @refuses header body error _ phase_eq answer =>
          rcases account.of_dispatching phase_eq with ⟨answered, stands⟩
          rcases of_dispatching phase_eq with ⟨_, unanswered⟩
          have other := outcomeOf_of_not_isInterruption
            ((Service.issues_of_answer answer).not_isInterruption rfl)
          have answered_eq : receipts (more ++ [.answered ⟨⟨header, body⟩, shared.backend,
              .error error⟩, .ended (outcomeOf error)]) =
                [⟨⟨header, body⟩, shared.backend, .error error⟩] := by
            simp [unanswered]
          refine .refused (congrArg Phase.closed other) answered_eq rfl ?_
          rw [← List.append_assoc]
          exact (stands.answer rfl rfl rfl).written_eq_due_of_error rfl
      | passes phase_eq =>
          refine .underWay (not_isClosed_of_outcome rfl) ?_
            (account_next.written_pending (not_isClosed_of_outcome rfl))
          rintro _ _ _ ⟨⟩
      | answers phase_eq =>
          rcases of_dispatching phase_eq with ⟨told_eq, _⟩
          refine .underWay (not_isClosed_of_outcome rfl) ?_
            (account_next.written_pending (not_isClosed_of_outcome rfl))
          rintro _ _ _ ⟨⟩
          exact .answered told_eq (by simp)
      | severed phase_eq suffers =>
          rcases account.of_replying phase_eq with
            ⟨_, _, _, _, stands, answer, bytes_eq, _, present⟩
          refine .severed (congrArg Phase.closed (outcomeOf_toError _)) suffers ?_ present
          rw [← List.append_assoc]
          exact (stands.keep rfl rfl rfl).written_append_eq_due answer bytes_eq
      | stalls phase_eq passed =>
          rcases account.of_replying phase_eq with
            ⟨_, _, _, _, stands, answer, bytes_eq, _, present⟩
          refine .timedOut rfl ((runs _ _ _ phase_eq).mono _) (by simp) passed ?_ present
          rw [← List.append_assoc]
          exact (stands.keep rfl rfl rfl).written_append_eq_due answer bytes_eq
      | writes phase_eq _ _ =>
          refine .underWay (not_isClosed_of_outcome rfl) ?_
            (account_next.written_pending (not_isClosed_of_outcome rfl))
          rintro _ _ _ ⟨⟩
          exact (runs _ _ _ phase_eq).mono _
      | finishes phase_eq =>
          refine .underWay (not_isClosed_of_outcome rfl) ?_
            (account_next.written_pending (not_isClosed_of_outcome rfl))
          rintro _ _ _ ⟨⟩

end WindsUp

end Connection

namespace Socket

/-- Whether an action is a step of the connection. -/
def Action.isAdvance : Action → Bool
  | .advance _ => true
  | _ => false

variable {service : Service Backend} {socket stopped next final : Socket} {action : Action}
  {past actions : List Action} {log deeds more onward : List (Deed Backend)}
  {identifier capacity since : Nat}

/-- What has become of a connection since it was told to stop. -/
structure HasWoundUp (service : Service Backend) (told : Connection) (actions : List Action)
    (log more : List (Deed Backend)) (socket : Socket) : Prop where
  cancelled : socket.connection.isCancelled = true
  unread : frames more = []
  atHand : (receipts more).map Receipt.frame ++ socket.connection.phase.current?.toList =
    told.phase.current?.toList
  windsUp : socket.connection.WindsUp service told.phase actions log more
  stepsLeft_le : actions.countP Action.isAdvance + socket.connection.stepsLeft ≤
    told.stepsLeft + (Frame.allBytes (due more)).length

theorem HasWoundUp.keep {told : Connection}
    (woundUp : socket.HasWoundUp service told actions log more)
    (cancelled : next.connection.isCancelled = true)
    (phase_eq : next.connection.phase = socket.connection.phase)
    (severed : ∀ fault, socket.connection.outbound.Suffers fault →
      next.connection.outbound.Suffers fault)
    (unread : frames onward = []) (unanswered : receipts onward = [])
    (unwritten : written onward = []) (outer : action.isAdvance = false) :
    next.HasWoundUp service told (actions ++ [action]) log (more ++ onward) where
  cancelled := cancelled
  unread := by rw [frames_append, woundUp.unread, unread, List.append_nil]
  atHand := by
    rw [receipts_append, unanswered, List.append_nil, phase_eq]
    exact woundUp.atHand
  windsUp := woundUp.windsUp.keep phase_eq severed unanswered unwritten
  stepsLeft_le := by
    have stepsLeft_le := woundUp.stepsLeft_le
    rw [Connection.stepsLeft] at stepsLeft_le
    have due_same : due (more ++ onward) = due more := by
      rw [due, receipts_append, unanswered, List.append_nil]
      rfl
    rw [Connection.stepsLeft, phase_eq, due_same]
    simpa [outer] using stepsLeft_le

theorem HasWoundUp.turn {told : Connection}
    (woundUp : socket.HasWoundUp service told actions log more)
    (account : socket.connection.Account (log ++ more))
    (turn : socket.Turn service action onward next) :
    next.HasWoundUp service told (actions ++ [action]) log (more ++ onward) := by
  have account_next := turn.account account
  have cancelled := turn.isCancelled woundUp.cancelled
  cases turn with
  | advance _ stepped =>
      have does := Connection.does_of_step stepped
      have retires := does.retires woundUp.cancelled
      have running := (Connection.transition_of_step stepped).not_isClosed
      have less := retires.stepsLeft_lt account
      have stepsLeft_le := woundUp.stepsLeft_le
      have frames_eq := does.frames_eq
      rw [retires.frames_eq, List.append_nil] at frames_eq
      refine ⟨cancelled, ?_, ?_, ?_, ?_⟩
      · rw [frames_append, woundUp.unread, retires.frames_eq, List.append_nil]
      · rw [receipts_append, List.map_append, List.append_assoc, ← frames_eq]
        exact woundUp.atHand
      · exact woundUp.windsUp.retire account running account_next woundUp.atHand retires
      · simp only [List.countP_append, List.countP_singleton, Action.isAdvance, if_true, due_append,
          Frame.allBytes_append, List.length_append]
        omega
  | send sent =>
      rcases Server.of_sent sent with ⟨_, rfl⟩
      exact woundUp.keep cancelled rfl (fun _ suffers => suffers) rfl rfl rfl rfl
  | lose =>
      exact woundUp.keep cancelled rfl (Connection.rests_loseClient _).severed rfl rfl rfl rfl
  | failOutbound fault =>
      exact woundUp.keep cancelled rfl (Connection.rests_failOutbound _ fault).severed rfl rfl rfl
        rfl
  | _ => exact woundUp.keep cancelled rfl (fun _ suffers => suffers) rfl rfl rfl rfl

theorem Life.hasWoundUp (rest : stopped.Life service actions more next)
    (life : (Socket.start identifier capacity since).Life service past log stopped)
    (cancelled : stopped.connection.isCancelled = true)
    (running : ¬stopped.connection.IsClosed) :
    next.HasWoundUp service stopped.connection actions log more := by
  induction rest with
  | start =>
      refine ⟨cancelled, rfl, rfl, .underWay running ?_ ?_, by simp⟩
      · intro pending size since phase_eq
        exact .due phase_eq
      · rw [List.append_nil]
        exact life.account.written_pending running
  | turn rest turn ih => exact ih.turn (life.trans rest).account turn

/--
A connection that is told to stop, at whatever moment, reads no message after that: the only one
that it may yet answer is one whose last byte it has read by then, whatever else has arrived. It
then writes what is left of the reply that is due and ends without an error, unless the writing
fails or takes too long, or the message at hand is refused. It counts no error of the protocol
unless it ends with one, and it never gets stuck on the way.
-/
theorem Life.stops_when_told
    (life : (Socket.start identifier capacity since).Life service past log socket)
    (running : ¬socket.connection.IsClosed)
    (rest : Life service { socket with connection := socket.connection.cancel } actions more
      final) :
    frames more = [] ∧
      (receipts more = [] ∨ ∃ receipt, receipts more = [receipt] ∧
        socket.connection.phase.current? = some receipt.frame ∧
        (frames log).getLast? = some receipt.frame) ∧
      final.connection.WindsUp service socket.connection.phase actions log more ∧
      actions.countP Action.isAdvance ≤
        socket.connection.stepsLeft + (Frame.allBytes (due more)).length ∧
      ∀ now shared, final.connection.Proceeds service now shared := by
  have told : (Socket.start identifier capacity since).Life service (past ++ [.cancel]) log
      { socket with connection := socket.connection.cancel } := by
    simpa using life.turn .cancel
  have woundUp := rest.hasWoundUp told rfl running
  refine ⟨woundUp.unread, ?_, woundUp.windsUp, ?_, ?_⟩
  · have atHand : (receipts more).map Receipt.frame ++ final.connection.phase.current?.toList =
        socket.connection.phase.current?.toList := woundUp.atHand
    cases current : socket.connection.phase.current? with
    | none =>
        rw [current] at atHand
        exact .inl (List.map_eq_nil_iff.1 (List.append_eq_nil_iff.1 atHand).1)
    | some frame =>
        rw [current] at atHand
        rcases List.append_eq_singleton_iff.1 atHand with ⟨none, _⟩ | ⟨answered, _⟩
        · exact .inl (List.map_eq_nil_iff.1 none)
        · rcases List.map_eq_singleton_iff.1 answered with ⟨receipt, receipts_eq, rfl⟩
          refine .inr ⟨receipt, receipts_eq, rfl, ?_⟩
          rw [life.frames_eq, current]
          simp
  · have stepsLeft_le : actions.countP Action.isAdvance + final.connection.stepsLeft ≤
        socket.connection.stepsLeft + (Frame.allBytes (due more)).length := woundUp.stepsLeft_le
    omega
  · intro now shared
    exact Connection.proceeds service now shared woundUp.cancelled

/-- A service that answers every request with the empty document. -/
def willing : Service Unit :=
  .ofConfig {} ⟨[⟨"any", Predicate.any, Registry.always []⟩]⟩

/-- A connection to which two messages have been sent. -/
def filled : Connection where
  phase := .awaitingHeader [] 0
  inbound := { capacity := 64, content := (Exchange.blank 7 0).bytes ++ (Exchange.blank 8 0).bytes }
  outbound := { capacity := 64 }

/-- The connection after the header of the first message. -/
def halfway : Connection where
  phase := .awaitingBody (Exchange.blank 7 0).header []
  inbound := { capacity := 64, content := (Exchange.blank 7 0).body ++ (Exchange.blank 8 0).bytes }
  outbound := { capacity := 64 }

/-- The connection after the last byte of the first message. -/
def burdened : Connection where
  phase := .dispatching (Exchange.blank 7 0).header (Exchange.blank 7 0).body
  inbound := { capacity := 64, content := (Exchange.blank 8 0).bytes }
  outbound := { capacity := 64 }

def obliged : Connection where
  phase := .replying (Exchange.blank 1 7).bytes 26 0
  inbound := { capacity := 64, content := (Exchange.blank 8 0).bytes }
  outbound := { capacity := 64 }

/-- The connection after the reply, which it was told to stop before. -/
def relieved : Connection where
  phase := .awaitingHeader [] 0
  inbound := { capacity := 64, content := (Exchange.blank 8 0).bytes }
  outbound := { capacity := 64, content := (Exchange.blank 1 7).bytes }
  isCancelled := true

/-- Of the two messages the second is not read, and the reply to the first is written. -/
theorem stops_when_told_burdened :
    ∃ past log actions more final,
      (Socket.start 0 64 0).Life willing past log ⟨0, .active, burdened⟩ ∧
        ¬burdened.IsClosed ∧ Life willing ⟨0, .active, burdened.cancel⟩ actions more final ∧
        frames more = [] ∧ (due more).map Frame.bytes = [(Exchange.blank 1 7).bytes] ∧
        final.connection.WindsUp willing burdened.phase actions log more ∧
        final.connection.phase = .closed (.ok ()) := by
  let shared : SharedState Unit := { backend := () }
  let between : SharedState Unit :=
    { backend := (), metrics := { requestsReceived := 1, bytesReceived := 26 } }
  have sent : Server.sent ((Exchange.blank 7 0).bytes ++ (Exchange.blank 8 0).bytes)
      (Connection.start 64 0) = some filled := rfl
  have began : filled.step willing 0 shared = some (halfway, shared) := by cbv
  have ready : halfway.step willing 0 shared = some (burdened, between) := by cbv
  have entered : (Socket.start 0 64 0).Turn willing .enter [] ⟨0, .active, .start 64 0⟩ :=
    .enter rfl
  have filling : Turn willing ⟨0, .active, .start 64 0⟩ _ _ ⟨0, .active, filled⟩ := .send sent
  have beginning : Turn willing ⟨0, .active, filled⟩ _ _ ⟨0, .active, halfway⟩ :=
    .advance rfl began
  have reading : Turn willing ⟨0, .active, halfway⟩ _ _ ⟨0, .active, burdened⟩ :=
    .advance rfl ready
  have life := (((Life.start.turn entered).turn filling).turn beginning).turn reading
  have running : ¬burdened.IsClosed := Connection.not_isClosed_of_outcome rfl
  have answered : burdened.cancel.step willing 0 between =
      some (obliged.cancel, { between with nextReplyId := 2 }) := by cbv
  have wrote : obliged.cancel.step willing 0 between =
      some (relieved, between.count (.replySent 26)) := by cbv
  have noticed : relieved.step willing 0 between = some (relieved.ended .cancelled, between) := rfl
  have answering : Turn willing ⟨0, .active, burdened.cancel⟩ _ _ ⟨0, .active, obliged.cancel⟩ :=
    .advance rfl answered
  have writing : Turn willing ⟨0, .active, obliged.cancel⟩ _ _ ⟨0, .active, relieved⟩ :=
    .advance rfl wrote
  have noticing : Turn willing ⟨0, .active, relieved⟩ _ _ ⟨0, .active, relieved.ended .cancelled⟩ :=
    .advance rfl noticed
  have rest := ((Life.start.turn answering).turn writing).turn noticing
  rcases life.stops_when_told running rest with ⟨unread, _, windsUp, _, _⟩
  exact ⟨_, _, _, _, _, life, running, rest, unread, by cbv, windsUp, rfl⟩

end Socket

end DocumentProtocol
