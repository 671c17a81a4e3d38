import DocumentProtocol.Proofs.Frame.Split
import DocumentProtocol.Session.Connection

/-!
# What one step of a connection can do

`Connection.Transition` lists everything that a step can do, each with the conditions under which it
happens, in terms of the bytes that have arrived for the message that is being read. Seven of the
ways in which a connection ends leave what is shared alone but for the count; they are the cases of
`Connection.Fault`. The other proofs about connections go by cases on the two and never look into
`Connection.step`.

`Connection.IsWaiting` says when there is no step.
-/

namespace DocumentProtocol

variable {Backend : Type}

def SharedState.conclude (shared : SharedState Backend) (error : ProtocolError) :
    SharedState Backend :=
  match Connection.endingEvent? error with
  | some event => shared.count event
  | none => shared

@[simp]
theorem SharedState.conclude_backend (shared : SharedState Backend) (error : ProtocolError) :
    (shared.conclude error).backend = shared.backend := by
  rw [conclude]
  split <;> rfl

namespace Connection

def ended (connection : Connection) (error : ProtocolError) : Connection :=
  { connection with
    phase := .closed (outcomeOf error)
    inbound := connection.inbound.abandon
    outbound := connection.outbound.finish }

def goOn (connection : Connection) (size : Nat) (phase : Phase) : Connection :=
  { connection with phase := phase, inbound := connection.inbound.skip size }

def turnTo (connection : Connection) (phase : Phase) : Connection :=
  { connection with phase := phase }

def written (connection : Connection) (bytes : Bytes) (phase : Phase) : Connection :=
  { connection with phase := phase, outbound := (connection.outbound.offer bytes).1 }

/-- Whether a connection waits for bytes, of which it has some, until there are so many. -/
inductive Reads (connection : Connection) : Bytes → Nat → Prop where
  | header {received : Bytes} {since : Nat}
      (phase_eq : connection.phase = .awaitingHeader received since) :
      Reads connection received Header.size
  | body {header : Header} {received : Bytes}
      (phase_eq : connection.phase = .awaitingBody header received) :
      Reads connection received (header.length.toInt.toNat - Header.size)

/-- Why a connection ends at some time without looking at a message. -/
inductive Fault (service : Service Backend) (now : Nat) (connection : Connection) :
    ProtocolError → Prop where
  | cancelled {received : Bytes} {size : Nat} (reads : connection.Reads received size)
      (cancelled : connection.isCancelled = true) : Fault service now connection .cancelled
  | badHeader {received : Bytes} {since : Nat} {error : ProtocolError}
      (phase_eq : connection.phase = .awaitingHeader received since)
      (running : connection.isCancelled = false)
      (enough : Header.size ≤ (received ++ connection.inbound.content).length)
      (bad : (Header.ofBytes (received ++ connection.inbound.content)).bodyLength
        service.maxMessageSize = .error error) :
      Fault service now connection error
  | broken {received : Bytes} {size : Nat} {fault : StreamFault}
      (reads : connection.Reads received size) (running : connection.isCancelled = false)
      (short : received.length < size) (fault_eq : connection.inbound.fault? = some fault) :
      Fault service now connection fault.toError
  | hungUp {received : Bytes} {size : Nat} (reads : connection.Reads received size)
      (running : connection.isCancelled = false) (short : received.length < size)
      (empty : connection.inbound.content = [])
      (finished : connection.inbound.isFinished = true) :
      Fault service now connection .connectionClosed
  | idle {received : Bytes} {since : Nat}
      (phase_eq : connection.phase = .awaitingHeader received since)
      (running : connection.isCancelled = false) (empty : connection.inbound.content = [])
      (unfinished : connection.inbound.isFinished = false)
      (passed : Deadline.hasPassed service.idleTimeout since now = true) :
      Fault service now connection .timeout
  | severed {pending : Bytes} {size since : Nat} {fault : StreamFault}
      (phase_eq : connection.phase = .replying pending size since)
      (suffers : connection.outbound.Suffers fault) : Fault service now connection fault.toError
  | stalled {pending : Bytes} {size since : Nat}
      (phase_eq : connection.phase = .replying pending size since)
      (kept : connection.outbound.isAbandoned = false) (present : pending ≠ [])
      (full : connection.outbound.room = 0)
      (passed : since + service.writeTimeout ≤ now) :
      Fault service now connection .timeout

/-- Whether the last bytes of a message have arrived: its header, its body and how many they are. -/
inductive Completes (connection : Connection) : Header → Bytes → Nat → Prop where
  | mk {header : Header} {received : Bytes} {missing : Nat}
      (phase_eq : connection.phase = .awaitingBody header received)
      (running : connection.isCancelled = false)
      (missing_eq : missing = header.length.toInt.toNat - Header.size - received.length)
      (sound : missing = 0 ∨ connection.inbound.fault? = none)
      (enough : missing ≤ connection.inbound.content.length) :
      Completes connection header (received ++ connection.inbound.content.take missing) missing

/-- Everything that a step of a connection at some time can do. -/
inductive Transition (service : Service Backend) (now : Nat) (connection : Connection)
    (shared : SharedState Backend) : Connection → SharedState Backend → Prop where
  | fault {error : ProtocolError} (fault : connection.Fault service now error) :
      Transition service now connection shared (connection.ended error) (shared.conclude error)
  | header {received : Bytes} {since length : Nat}
      (phase_eq : connection.phase = .awaitingHeader received since)
      (running : connection.isCancelled = false)
      (enough : Header.size ≤ (received ++ connection.inbound.content).length)
      (announced : (Header.ofBytes (received ++ connection.inbound.content)).bodyLength
        service.maxMessageSize = .ok length) :
      Transition service now connection shared
        (connection.goOn (Header.size - received.length)
          (.awaitingBody (Header.ofBytes (received ++ connection.inbound.content)) []))
        shared
  | headerPart {received : Bytes} {since : Nat}
      (phase_eq : connection.phase = .awaitingHeader received since)
      (running : connection.isCancelled = false)
      (short : (received ++ connection.inbound.content).length < Header.size)
      (present : connection.inbound.content ≠ []) :
      Transition service now connection shared
        (connection.goOn connection.inbound.content.length
          (.awaitingHeader (received ++ connection.inbound.content) since))
        shared
  | bodyPart {header : Header} {received : Bytes}
      (phase_eq : connection.phase = .awaitingBody header received)
      (running : connection.isCancelled = false)
      (short : (received ++ connection.inbound.content).length <
        header.length.toInt.toNat - Header.size)
      (present : connection.inbound.content ≠ []) :
      Transition service now connection shared
        (connection.goOn connection.inbound.content.length
          (.awaitingBody header (received ++ connection.inbound.content)))
        shared
  | body {header : Header} {body : Bytes} {missing : Nat}
      (completes : connection.Completes header body missing) :
      Transition service now connection shared
        (connection.goOn missing (.dispatching header body))
        (shared.count (.requestReceived header.length.toInt.toNat))
  | refused {header : Header} {body : Bytes} {error : ProtocolError} {after : SharedState Backend}
      (phase_eq : connection.phase = .dispatching header body)
      (answer : service.answer header body shared = (.error error, after)) :
      Transition service now connection shared (connection.ended error) (after.conclude error)
  | silent {header : Header} {body : Bytes} {after : SharedState Backend}
      (phase_eq : connection.phase = .dispatching header body)
      (answer : service.answer header body shared = (.ok none, after)) :
      Transition service now connection shared
        (connection.turnTo (.awaitingHeader [] now)) after
  | answered {header : Header} {body : Bytes} {reply : Frame} {after : SharedState Backend}
      (phase_eq : connection.phase = .dispatching header body)
      (answer : service.answer header body shared = (.ok (some reply), after)) :
      Transition service now connection shared
        (connection.turnTo (.replying reply.bytes reply.size now)) after
  | sentPart {pending : Bytes} {size since : Nat}
      (phase_eq : connection.phase = .replying pending size since)
      (kept : connection.outbound.isAbandoned = false) (room : 0 < connection.outbound.room)
      (long : connection.outbound.room < pending.length) :
      Transition service now connection shared
        (connection.written pending (.replying (pending.drop connection.outbound.room) size since))
        shared
  | sent {pending : Bytes} {size since : Nat}
      (phase_eq : connection.phase = .replying pending size since)
      (kept : connection.outbound.isAbandoned = false)
      (fits : pending.length ≤ connection.outbound.room) :
      Transition service now connection shared
        (connection.written pending (.awaitingHeader [] now))
        (shared.count (.replySent size))

theorem ofBytes_append_take {received content : Bytes}
    (enough : Header.size ≤ (received ++ content).length) :
    Header.ofBytes (received ++ content.take (Header.size - received.length)) =
      Header.ofBytes (received ++ content) := by
  have split : received ++ content =
      received ++ content.take (Header.size - received.length) ++
        content.drop (Header.size - received.length) := by
    rw [List.append_assoc, List.take_append_drop]
  have taken : Header.size ≤
      (received ++ content.take (Header.size - received.length)).length := by
    simp only [List.length_append, List.length_take] at enough ⊢
    omega
  rw [split, Header.ofBytes_append_of_le taken]

section Step

variable {service : Service Backend} {now : Nat} {connection next : Connection}
  {shared after : SharedState Backend}

theorem transition_of_fault {error : ProtocolError} (fault : connection.Fault service now error)
    (closed : connection.close error shared = (next, after)) :
    Transition service now connection shared next after := by
  cases closed
  exact .fault fault

/-- Taking in bytes goes on with all of them or keeps some of them, unless reading fails. -/
theorem transition_of_take {received : Bytes} {size : Nat} {keep : Bytes → Phase}
    {accept : Connection → Bytes → SharedState Backend → Connection × SharedState Backend}
    (reads : connection.Reads received size) (running : connection.isCancelled = false)
    (complete : size ≤ received.length ∨ connection.inbound.fault? = none →
      size ≤ (received ++ connection.inbound.content).length →
      accept { connection with inbound := connection.inbound.skip (size - received.length) }
        (received ++ connection.inbound.content.take (size - received.length)) shared =
          (next, after) →
      Transition service now connection shared next after)
    (part : (received ++ connection.inbound.content).length < size →
      connection.inbound.content ≠ [] →
      Transition service now connection shared
        (connection.goOn connection.inbound.content.length
          (keep (received ++ connection.inbound.content))) shared)
    (taken : connection.take received size keep accept shared = some (next, after)) :
    Transition service now connection shared next after := by
  unfold take at taken
  split at taken
  · rename_i found
    cases Pipe.finds_of_read found with
    | complete sound enough => exact complete sound enough (Option.some.inj taken)
  · rename_i found
    cases Pipe.finds_of_read found with
    | part _ short present =>
        cases taken
        exact part short present
  · rename_i found
    cases Pipe.finds_of_read found with
    | broken short fault_eq =>
        exact transition_of_fault (.broken reads running short fault_eq) (Option.some.inj taken)
    | ended _ short empty finished =>
        exact transition_of_fault (.hungUp reads running short empty finished)
          (Option.some.inj taken)
  · cases taken

/-- Where nothing can be taken in, bytes are missing, and the client has yet to do something. -/
theorem pending_of_take_eq_none {received : Bytes} {size : Nat} {keep : Bytes → Phase}
    {accept : Connection → Bytes → SharedState Backend → Connection × SharedState Backend}
    (stuck : connection.take received size keep accept shared = none) :
    received.length < size ∧ connection.inbound.content = [] ∧
      connection.inbound.isFinished = false ∧ connection.inbound.fault? = none := by
  unfold take at stuck
  split at stuck
  · cases stuck
  · cases stuck
  · cases stuck
  · rename_i found
    cases Pipe.finds_of_read found with
    | pending sound short empty unfinished => exact ⟨short, empty, unfinished, sound⟩

theorem transition_of_readHeader {received : Bytes} {since : Nat}
    (phase_eq : connection.phase = .awaitingHeader received since)
    (running : connection.isCancelled = false)
    (stepped : connection.readHeader service now received since shared = some (next, after)) :
    Transition service now connection shared next after := by
  rcases Deadline.withinOptional_eq_some_iff.1 stepped with taken | ⟨stuck, passed, late⟩
  · refine transition_of_take (.header phase_eq) running ?_ ?_ taken
    · intro _ enough accepted
      simp only [acceptHeader, ofBytes_append_take enough] at accepted
      split at accepted
      · rename_i error bad
        exact transition_of_fault (.badHeader phase_eq running enough bad) accepted
      · rename_i length announced
        cases accepted
        exact .header phase_eq running enough announced
    · intro short present
      exact .headerPart phase_eq running short present
  · rcases pending_of_take_eq_none stuck with ⟨_, empty, unfinished, _⟩
    exact transition_of_fault (.idle phase_eq running empty unfinished passed) late

theorem transition_of_readBody {header : Header} {received : Bytes}
    (phase_eq : connection.phase = .awaitingBody header received)
    (running : connection.isCancelled = false)
    (stepped : connection.readBody header received shared = some (next, after)) :
    Transition service now connection shared next after := by
  refine transition_of_take (.body phase_eq) running ?_ ?_ stepped
  · intro sound enough accepted
    rw [List.length_append] at enough
    cases accepted
    exact .body (.mk phase_eq running rfl (sound.imp_left Nat.sub_eq_zero_of_le)
      (Nat.sub_le_iff_le_add'.2 enough))
  · intro short present
    exact .bodyPart phase_eq running short present

theorem transition_of_dispatch {header : Header} {body : Bytes}
    (phase_eq : connection.phase = .dispatching header body)
    (dispatched : connection.dispatch service now header body shared = (next, after)) :
    Transition service now connection shared next after := by
  unfold dispatch at dispatched
  split at dispatched
  · rename_i error state answer
    cases dispatched
    exact .refused phase_eq answer
  · rename_i state answer
    cases dispatched
    exact .silent phase_eq answer
  · rename_i reply state answer
    cases dispatched
    exact .answered phase_eq answer

theorem transition_of_put {pending : Bytes} {size since : Nat}
    (phase_eq : connection.phase = .replying pending size since)
    (written : connection.put now pending size since shared = some (next, after)) :
    Transition service now connection shared next after := by
  unfold put at written
  split at written
  · rename_i fault met
    exact transition_of_fault (.severed phase_eq (Pipe.suffers_of_writeFault? met))
      (Option.some.inj written)
  · rename_i kept
    have kept := (Pipe.writeFault?_eq_none_iff.1 kept).1
    simp only [Pipe.offer, List.drop_eq_nil_iff, List.length_drop] at written
    split at written
    · rename_i fits
      cases written
      exact .sent phase_eq kept fits
    · rename_i long
      split at written
      · rename_i less
        cases written
        exact .sentPart phase_eq kept (by omega) (Nat.not_le.1 long)
      · cases written

/-- Where nothing can be written, the pipe is full. -/
theorem full_of_put_eq_none {pending : Bytes} {size since : Nat}
    (stuck : connection.put now pending size since shared = none) :
    pending ≠ [] ∧ connection.outbound.room = 0 ∧ connection.outbound.writeFault? = none := by
  unfold put at stuck
  split at stuck
  · cases stuck
  · rename_i kept
    simp only [Pipe.offer, List.drop_eq_nil_iff, List.length_drop] at stuck
    split at stuck
    · cases stuck
    · rename_i long
      split at stuck
      · cases stuck
      · refine ⟨?_, by omega, kept⟩
        intro none
        simp [none] at long

theorem transition_of_writeReply {pending : Bytes} {size since : Nat}
    (phase_eq : connection.phase = .replying pending size since)
    (stepped : connection.writeReply service now pending size since shared = some (next, after)) :
    Transition service now connection shared next after := by
  rcases Deadline.within_eq_some_iff.1 stepped with written | ⟨stuck, passed, late⟩
  · exact transition_of_put phase_eq written
  · rcases full_of_put_eq_none stuck with ⟨present, full, kept⟩
    have kept := (Pipe.writeFault?_eq_none_iff.1 kept).1
    exact transition_of_fault (.stalled phase_eq kept present full passed) late

theorem transition_of_step (stepped : connection.step service now shared = some (next, after)) :
    Transition service now connection shared next after := by
  simp only [step] at stepped
  split at stepped
  · rename_i received since phase_eq
    split at stepped
    · rename_i cancelled
      exact transition_of_fault (.cancelled (.header phase_eq) cancelled) (Option.some.inj stepped)
    · rename_i running
      exact transition_of_readHeader phase_eq (Bool.eq_false_iff.2 running) stepped
  · rename_i header received phase_eq
    split at stepped
    · rename_i cancelled
      exact transition_of_fault (.cancelled (.body phase_eq) cancelled) (Option.some.inj stepped)
    · rename_i running
      exact transition_of_readBody phase_eq (Bool.eq_false_iff.2 running) stepped
  · rename_i header body phase_eq
    exact transition_of_dispatch phase_eq (Option.some.inj stepped)
  · rename_i pending size since phase_eq
    exact transition_of_writeReply phase_eq stepped
  · cases stepped

/-- What no step changes. -/
structure Keeps (connection next : Connection) : Prop where
  isCancelled_eq : next.isCancelled = connection.isCancelled
  inbound_capacity : next.inbound.capacity = connection.inbound.capacity
  outbound_capacity : next.outbound.capacity = connection.outbound.capacity
  isFinished_eq : next.inbound.isFinished = connection.inbound.isFinished
  isAbandoned_eq : next.outbound.isAbandoned = connection.outbound.isAbandoned
  inbound_fault : next.inbound.fault? = connection.inbound.fault?
  outbound_fault : next.outbound.fault? = connection.outbound.fault?

theorem Transition.keeps (transition : Transition service now connection shared next after) :
    connection.Keeps next := by
  cases transition <;> exact ⟨rfl, rfl, rfl, rfl, rfl, rfl, rfl⟩

/-- Whether the pipes of a connection have not failed. -/
def IsFaultless (connection : Connection) : Prop :=
  connection.inbound.fault? = none ∧ connection.outbound.fault? = none

theorem Keeps.isFaultless (keeps : connection.Keeps next) (faultless : connection.IsFaultless) :
    next.IsFaultless :=
  ⟨keeps.inbound_fault.trans faultless.1, keeps.outbound_fault.trans faultless.2⟩

/-- Nothing severs a connection whose client stays and whose pipes have not failed. -/
theorem IsFaultless.not_suffers (faultless : connection.IsFaultless)
    (kept : connection.outbound.isAbandoned = false) (fault : StreamFault) :
    ¬connection.outbound.Suffers fault := by
  rintro (⟨abandoned, _⟩ | failed)
  · simp [kept] at abandoned
  · simp [faultless.2] at failed

def IsClosed (connection : Connection) : Prop :=
  ∃ outcome, connection.phase = .closed outcome

theorem ended_isClosed (connection : Connection) (error : ProtocolError) :
    (connection.ended error).IsClosed := ⟨_, rfl⟩

theorem not_isClosed_of_outcome {connection : Connection}
    (running : connection.phase.outcome? = none) : ¬connection.IsClosed := by
  rintro ⟨outcome, closed⟩
  rw [closed] at running
  cases running

theorem Transition.not_isClosed (transition : Transition service now connection shared next after) :
    ¬connection.IsClosed := by
  rintro ⟨outcome, closed⟩
  cases transition with
  | fault fault =>
      cases fault with
      | cancelled reads _ => cases reads <;> simp_all
      | broken reads _ _ _ => cases reads <;> simp_all
      | hungUp reads _ _ _ _ => cases reads <;> simp_all
      | _ => simp_all
  | body completes => cases completes; simp_all
  | _ => simp_all

/-- A connection that has not ended listens as it did before. -/
theorem Transition.isAbandoned_eq (transition : Transition service now connection shared next after)
    (running : ¬next.IsClosed) : next.inbound.isAbandoned = connection.inbound.isAbandoned := by
  cases transition with
  | fault _ => exact absurd (ended_isClosed _ _) running
  | refused _ _ => exact absurd (ended_isClosed _ _) running
  | _ => rfl

/-- When a connection has no step: it has ended, or its client must do something first. -/
inductive IsWaiting (connection : Connection) : Prop where
  | closed {outcome : Except ProtocolError Unit} (phase_eq : connection.phase = .closed outcome) :
      IsWaiting connection
  | reading {received : Bytes} {size : Nat} (reads : connection.Reads received size)
      (short : received.length < size) (empty : connection.inbound.content = [])
      (unfinished : connection.inbound.isFinished = false) : IsWaiting connection
  | writing {pending : Bytes} {size since : Nat}
      (phase_eq : connection.phase = .replying pending size since) (present : pending ≠ [])
      (full : connection.outbound.room = 0) : IsWaiting connection

/-- Where a connection reads and has no step, bytes are missing that have not arrived. -/
theorem Reads.pending_of_step_eq_none {received : Bytes} {size : Nat}
    (reads : connection.Reads received size)
    (stuck : connection.step service now shared = none) :
    received.length < size ∧ connection.inbound.content = [] ∧
      connection.inbound.isFinished = false ∧ connection.inbound.fault? = none ∧
      connection.isCancelled = false := by
  cases reads with
  | header phase_eq =>
      simp only [step, phase_eq] at stuck
      split at stuck
      · cases stuck
      · rename_i running
        have taken := (Deadline.withinOptional_eq_none_iff.1 stuck).1
        rcases pending_of_take_eq_none taken with ⟨short, empty, unfinished, sound⟩
        exact ⟨short, empty, unfinished, sound, Bool.eq_false_iff.2 running⟩
  | body phase_eq =>
      simp only [step, phase_eq] at stuck
      split at stuck
      · cases stuck
      · rename_i running
        rcases pending_of_take_eq_none stuck with ⟨short, empty, unfinished, sound⟩
        exact ⟨short, empty, unfinished, sound, Bool.eq_false_iff.2 running⟩

theorem isWaiting_of_step (stuck : connection.step service now shared = none) :
    connection.IsWaiting := by
  cases phase_eq : connection.phase with
  | awaitingHeader received since =>
      rcases Reads.pending_of_step_eq_none (.header phase_eq) stuck with
        ⟨short, empty, unfinished, _⟩
      exact .reading (.header phase_eq) short empty unfinished
  | awaitingBody header received =>
      rcases Reads.pending_of_step_eq_none (.body phase_eq) stuck with
        ⟨short, empty, unfinished, _⟩
      exact .reading (.body phase_eq) short empty unfinished
  | dispatching header body =>
      simp only [step, phase_eq] at stuck
      cases stuck
  | replying pending size since =>
      simp only [step, phase_eq] at stuck
      rcases full_of_put_eq_none (Deadline.within_eq_none_iff.1 stuck).1 with ⟨present, full, _⟩
      exact .writing phase_eq present full
  | closed outcome => exact .closed phase_eq

end Step

end Connection

end DocumentProtocol
