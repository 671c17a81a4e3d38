import DocumentProtocol.Proofs.Session.Transcript

/-!
# The bytes ahead of a connection

A connection has ahead of it what has arrived and what it has taken in of a message that is not
complete. So a message counts as unread until its last byte has been taken in, and a step leaves the
bytes ahead as they are unless it completes a message: then it takes this message off their front,
and the connection has the message at hand.

A connection that ends while it reads, with pipes that have not failed, ends as the bytes ahead say:
they do not begin with a message that could be read, and the error is the one that belongs to them.
-/

namespace DocumentProtocol

variable {Backend : Type}

namespace Phase

/-- What has been taken in of a message that is not complete. -/
def begun : Phase → Bytes
  | awaitingHeader received _ => received
  | awaitingBody header received => header.bytes ++ received
  | _ => []

/-- The message at hand: it has been read and not been answered. -/
def current? : Phase → Option Frame
  | dispatching header body => some ⟨header, body⟩
  | _ => none

theorem current?_eq_some_iff {phase : Phase} {frame : Frame} :
    phase.current? = some frame ↔ phase = .dispatching frame.header frame.body := by
  rcases frame with ⟨header, body⟩
  cases phase <;> simp [current?]

/-- Whether no more has been taken in than the message that is being read. -/
inductive IsSound (limit : Nat) : Phase → Prop where
  | awaitingHeader {received : Bytes} {since : Nat} (short : received.length < Header.size) :
      IsSound limit (.awaitingHeader received since)
  | awaitingBody {header : Header} {received : Bytes} {length : Nat}
      (announced : header.bodyLength limit = .ok length) (atMost : received.length ≤ length) :
      IsSound limit (.awaitingBody header received)
  | dispatching {header : Header} {body : Bytes}
      (acceptable : Frame.IsAcceptable limit ⟨header, body⟩) :
      IsSound limit (.dispatching header body)
  | replying {pending : Bytes} {size since : Nat} : IsSound limit (.replying pending size since)
  | closed {outcome : Except ProtocolError Unit} : IsSound limit (.closed outcome)

variable {limit : Nat} {phase : Phase} {received : Bytes}

theorem IsSound.short {since : Nat} (sound : phase.IsSound limit)
    (phase_eq : phase = .awaitingHeader received since) : received.length < Header.size := by
  subst phase_eq
  cases sound with
  | awaitingHeader short => exact short

theorem IsSound.announced {header : Header} (sound : phase.IsSound limit)
    (phase_eq : phase = .awaitingBody header received) :
    ∃ length, header.bodyLength limit = .ok length ∧ received.length ≤ length := by
  subst phase_eq
  cases sound with
  | awaitingBody announced atMost => exact ⟨_, announced, atMost⟩

theorem IsSound.acceptable {header : Header} {body : Bytes} (sound : phase.IsSound limit)
    (phase_eq : phase = .dispatching header body) : Frame.IsAcceptable limit ⟨header, body⟩ := by
  subst phase_eq
  cases sound with
  | dispatching acceptable => exact acceptable

end Phase

namespace Connection

/-- The bytes that have been sent to a connection and belong to no message that it has read. -/
def ahead (connection : Connection) : Bytes :=
  connection.phase.begun ++ connection.inbound.content

variable {service : Service Backend} {now : Nat} {connection next : Connection}
  {shared after : SharedState Backend}

theorem Reads.current?_eq {received : Bytes} {size : Nat} (reads : connection.Reads received size) :
    connection.phase.current? = none := by
  cases reads with
  | header phase_eq => simp only [phase_eq, Phase.current?]
  | body phase_eq => simp only [phase_eq, Phase.current?]

/-- A connection that has a message at hand does not end before it has looked at it. -/
theorem Fault.current?_eq {error : ProtocolError} (fault : connection.Fault service now error) :
    connection.phase.current? = none := by
  cases fault with
  | cancelled reads _ => exact reads.current?_eq
  | badHeader phase_eq _ _ _ => exact Reads.current?_eq (.header phase_eq)
  | broken reads _ _ _ => exact reads.current?_eq
  | hungUp reads _ _ _ _ => exact reads.current?_eq
  | idle phase_eq _ _ _ _ => exact Reads.current?_eq (.header phase_eq)
  | severed phase_eq _ => rw [phase_eq]; rfl
  | stalled phase_eq _ _ _ _ => rw [phase_eq]; rfl

/-- A message that is complete stands in front of the bytes ahead. -/
theorem Completes.ahead_eq {header : Header} {body : Bytes} {missing : Nat}
    (completes : connection.Completes header body missing)
    (sound : connection.phase.IsSound service.maxMessageSize) :
    Frame.IsAcceptable service.maxMessageSize ⟨header, body⟩ ∧
      connection.ahead =
        (⟨header, body⟩ : Frame).bytes ++ connection.inbound.content.drop missing := by
  cases completes with
  | mk phase_eq running missing_eq unbroken enough =>
      rename_i received
      rcases sound.announced phase_eq with ⟨length, announced, atMost⟩
      have length_eq := (Header.bodyLength_eq_ok_iff.1 announced).1
      have body_length :
          (received ++ connection.inbound.content.take missing).length = length := by
        simp only [List.length_append, List.length_take]
        omega
      constructor
      · apply Frame.isAcceptable_iff.2
        rw [body_length]
        exact announced
      · rw [ahead, phase_eq, Phase.begun, Frame.bytes, List.append_assoc, List.append_assoc,
          List.append_assoc, List.take_append_drop]

theorem Completes.exists_reads {header : Header} {body : Bytes} {missing : Nat}
    (completes : connection.Completes header body missing) :
    ∃ received size, connection.Reads received size := by
  cases completes with
  | mk phase_eq _ _ _ _ => exact ⟨_, _, .body phase_eq⟩

/-- Bytes that are taken in for the same message stay ahead. -/
theorem ahead_goOn_part {phase : Phase}
    (begun_eq : phase.begun = connection.phase.begun ++ connection.inbound.content) :
    (connection.goOn connection.inbound.content.length phase).ahead = connection.ahead := by
  simp [ahead, goOn, begun_eq, Pipe.skip]

/-- A header that is complete stays ahead, together with what follows it. -/
theorem ahead_goOn_header {received : Bytes} {since : Nat}
    (phase_eq : connection.phase = .awaitingHeader received since)
    (short : received.length < Header.size)
    (enough : Header.size ≤ (received ++ connection.inbound.content).length) :
    (connection.goOn (Header.size - received.length)
      (.awaitingBody (Header.ofBytes (received ++ connection.inbound.content)) [])).ahead =
        connection.ahead := by
  have bytes_eq : (Header.ofBytes (received ++ connection.inbound.content)).bytes =
      received ++ connection.inbound.content.take (Header.size - received.length) := by
    rw [Header.bytes_ofBytes enough, List.take_append, List.take_of_length_le (by omega)]
  simp only [ahead, goOn, phase_eq, Phase.begun, Pipe.skip]
  rw [bytes_eq, List.append_nil, List.append_assoc, List.take_append_drop]

theorem Completes.not_isClosed {header : Header} {body : Bytes} {missing : Nat}
    (completes : connection.Completes header body missing) : ¬connection.IsClosed := by
  rintro ⟨outcome, closed⟩
  cases completes with
  | mk phase_eq _ _ _ _ =>
      rw [phase_eq] at closed
      cases closed

theorem Completes.unique {header other : Header} {body otherBody : Bytes}
    {missing otherMissing : Nat} (first : connection.Completes header body missing)
    (second : connection.Completes other otherBody otherMissing) :
    header = other ∧ body = otherBody ∧ missing = otherMissing := by
  cases first with
  | mk phase_eq _ missing_eq _ _ =>
      cases second with
      | mk other_phase _ other_missing _ _ =>
          rw [phase_eq] at other_phase
          cases other_phase
          subst missing_eq other_missing
          exact ⟨rfl, rfl, rfl⟩

/-- A connection that can take in the last byte of a message does not end instead. -/
theorem Fault.incomplete {error : ProtocolError} (fault : connection.Fault service now error)
    (header : Header) (body : Bytes) (missing : Nat) :
    ¬connection.Completes header body missing := by
  intro completes
  cases completes with
  | mk phase_eq running missing_eq sound enough =>
      cases fault with
      | cancelled _ cancelled =>
          rw [running] at cancelled
          cases cancelled
      | broken reads _ short fault_eq =>
          cases reads with
          | header other => simp [phase_eq] at other
          | body other =>
              rw [phase_eq] at other
              cases other
              rcases sound with none | none
              · omega
              · simp [fault_eq] at none
      | hungUp reads _ short empty _ =>
          cases reads with
          | header other => simp [phase_eq] at other
          | body other =>
              rw [phase_eq] at other
              cases other
              rw [empty, List.length_nil] at enough
              omega
      | _ => simp_all

namespace Transition

/-- When a message is complete, the connection has it at hand. -/
theorem of_completes (transition : Transition service now connection shared next after)
    {header : Header} {body : Bytes} {missing : Nat}
    (completes : connection.Completes header body missing) :
    next = connection.goOn missing (.dispatching header body) ∧
      after = shared.count (.requestReceived header.length.toInt.toNat) := by
  cases transition with
  | fault fault => exact absurd completes (fault.incomplete _ _ _)
  | body other =>
      rcases completes.unique other with ⟨rfl, rfl, rfl⟩
      exact ⟨rfl, rfl⟩
  | bodyPart other_phase _ short present =>
      cases completes with
      | mk phase_eq _ missing_eq _ enough =>
          rw [phase_eq] at other_phase
          cases other_phase
          rw [List.length_append] at short
          omega
  | _ =>
      cases completes
      simp_all

theorem phase_ne_of_completes (transition : Transition service now connection shared next after)
    {header : Header} {body : Bytes} {missing : Nat}
    (completes : connection.Completes header body missing) :
    next.phase ≠ connection.phase := by
  rcases transition.of_completes completes with ⟨rfl, _⟩
  cases completes with
  | mk phase_eq _ _ _ _ => simp [goOn, phase_eq]

theorem phase_ne_of_current? (transition : Transition service now connection shared next after)
    (message : connection.phase.current? ≠ none) : next.phase ≠ connection.phase := by
  rcases Option.ne_none_iff_exists'.1 message with ⟨frame, current⟩
  have phase_eq := Phase.current?_eq_some_iff.1 current
  cases transition with
  | body completes =>
      cases completes
      simp_all
  | _ => simp_all [ended, turnTo]

theorem isSound (transition : Transition service now connection shared next after)
    (sound : connection.phase.IsSound service.maxMessageSize) :
    next.phase.IsSound service.maxMessageSize := by
  cases transition with
  | fault fault => exact .closed
  | header phase_eq running enough announced => exact .awaitingBody announced (Nat.zero_le _)
  | headerPart phase_eq running short present => exact .awaitingHeader short
  | bodyPart phase_eq running short present =>
      rcases sound.announced phase_eq with ⟨length, announced, atMost⟩
      have length_eq := (Header.bodyLength_eq_ok_iff.1 announced).1
      exact .awaitingBody announced (by omega)
  | body completes => exact .dispatching (completes.ahead_eq sound).1
  | refused phase_eq answer => exact .closed
  | silent phase_eq answer => exact .awaitingHeader (by simp [Header.size])
  | answered phase_eq answer => exact .replying
  | sentPart phase_eq kept room long => exact .replying
  | sent phase_eq kept fits => exact .awaitingHeader (by simp [Header.size])

/-- A step that completes and answers no message is a fault or keeps the bytes ahead as they are. -/
theorem fault_or_ahead_eq (transition : Transition service now connection shared next after)
    (sound : connection.phase.IsSound service.maxMessageSize)
    (incomplete : ∀ header body missing, ¬connection.Completes header body missing)
    (idle : connection.phase.current? = none) :
    (∃ error, connection.Fault service now error ∧ next = connection.ended error) ∨
      ¬next.IsClosed ∧ next.ahead = connection.ahead := by
  cases transition with
  | fault fault =>
      left
      exact ⟨_, fault, rfl⟩
  | header phase_eq _ enough announced =>
      right
      exact ⟨not_isClosed_of_outcome rfl, ahead_goOn_header phase_eq (sound.short phase_eq) enough⟩
  | headerPart phase_eq _ short present =>
      right
      refine ⟨not_isClosed_of_outcome rfl, ahead_goOn_part ?_⟩
      simp [phase_eq, Phase.begun]
  | bodyPart phase_eq _ short present =>
      right
      refine ⟨not_isClosed_of_outcome rfl, ahead_goOn_part ?_⟩
      simp [phase_eq, Phase.begun]
  | body completes => exact absurd completes (incomplete _ _ _)
  | refused phase_eq answer => simp [phase_eq, Phase.current?] at idle
  | silent phase_eq answer => simp [phase_eq, Phase.current?] at idle
  | answered phase_eq answer => simp [phase_eq, Phase.current?] at idle
  | sentPart phase_eq kept room long =>
      right
      refine ⟨not_isClosed_of_outcome rfl, ?_⟩
      simp [ahead, written, phase_eq, Phase.begun]
  | sent phase_eq kept fits =>
      right
      refine ⟨not_isClosed_of_outcome rfl, ?_⟩
      simp [ahead, written, phase_eq, Phase.begun]

end Transition

/-- A connection that its client has finished with, in the middle of a message or before one. -/
theorem Reads.next_eq_none {received : Bytes} {size : Nat} (reads : connection.Reads received size)
    (sound : connection.phase.IsSound service.maxMessageSize) (short : received.length < size)
    (empty : connection.inbound.content = []) :
    Frame.Stream.next service.maxMessageSize connection.ahead = .ok none := by
  rw [ahead, empty, List.append_nil]
  cases reads with
  | header phase_eq =>
      rw [phase_eq]
      exact Frame.Stream.next_of_short short
  | body phase_eq =>
      rcases sound.announced phase_eq with ⟨length, announced, atMost⟩
      have length_eq := (Header.bodyLength_eq_ok_iff.1 announced).1
      rw [phase_eq]
      apply Frame.Stream.next_eq_none_iff.2
      right
      simp only [Phase.begun, Header.ofBytes_append]
      refine ⟨length, announced, ?_⟩
      simp only [List.length_append, Header.length_bytes]
      omega

/-- A fault that does not come from outside is the one that belongs to the bytes ahead. -/
theorem Fault.stops {error : ProtocolError} {unsent : Bytes}
    (fault : connection.Fault service now error)
    (sound : connection.phase.IsSound service.maxMessageSize)
    (running : connection.isCancelled = false) (kept : connection.outbound.isAbandoned = false)
    (faultless : connection.IsFaultless)
    (finished : connection.inbound.isFinished = true → unsent = []) :
    (connection.IsWaiting ∧ error = .timeout) ∨
      (∃ received size, connection.Reads received size) ∧
        Frame.Stream.Stops service.maxMessageSize (connection.ahead ++ unsent) error := by
  cases fault with
  | cancelled _ cancelled => simp [running] at cancelled
  | badHeader phase_eq _ enough bad =>
      right
      refine ⟨⟨_, _, .header phase_eq⟩, ?_⟩
      apply Frame.Stream.stops_of_next_error
      apply Frame.Stream.next_append_of_error
      rw [ahead, phase_eq]
      exact Frame.Stream.next_eq_error_iff.2 ⟨enough, bad⟩
  | broken _ _ _ fault_eq => simp [faultless.1] at fault_eq
  | hungUp reads _ short empty ended =>
      right
      refine ⟨⟨_, _, reads⟩, ?_⟩
      rw [finished ended, List.append_nil]
      apply Frame.Stream.stops_of_next_none
      exact reads.next_eq_none sound short empty
  | idle phase_eq _ empty unfinished _ =>
      left
      exact ⟨.reading (.header phase_eq) (sound.short phase_eq) empty unfinished, rfl⟩
  | severed _ suffers => exact absurd suffers (faultless.not_suffers kept _)
  | stalled phase_eq _ present full _ =>
      left
      exact ⟨.writing phase_eq present full, rfl⟩

end Connection

end DocumentProtocol
