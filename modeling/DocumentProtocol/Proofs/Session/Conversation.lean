import DocumentProtocol.Proofs.Session.Ahead
import DocumentProtocol.Proofs.Session.Run
import Mathlib

/-!
# Calm conversations

The main statement is that a client gets what it is owed, in whatever order the connection and the
client move: what has been written is always a beginning of the replies, every calm run comes to an
end, and then the connection has ended with the error that was due and the client has received all
of the replies.

The invariant is `Owes`: what has been written, what is about to be written and the transcript of
the bytes that are still to be read together make up the transcript of the whole stream. A message
that is being read counts as unread until its last byte has been taken in. The invariant ties the
phases of a connection to `Service.transcript`, one case for each phase, and every transition keeps
it.
-/

namespace DocumentProtocol

variable {Backend : Type}

namespace Transcript

def bytes (transcript : Transcript Backend) : Bytes := Frame.allBytes transcript.replies

/-- Whether a transcript is what is left of a whole one when some bytes have been written. -/
structure Remains (rest : Transcript Backend) (written : Bytes) (whole : Transcript Backend) :
    Prop where
  bytes_eq : whole.bytes = written ++ rest.bytes
  error_eq : rest.error = whole.error
  shared_eq : rest.shared = whole.shared

theorem Remains.of_cons {rest whole : Transcript Backend} {reply : Frame} {written : Bytes}
    (remains : (rest.cons reply).Remains written whole) :
    rest.Remains (written ++ reply.bytes) whole where
  bytes_eq := by
    rw [remains.bytes_eq]
    simp [bytes, cons]
  error_eq := remains.error_eq
  shared_eq := remains.shared_eq

end Transcript

/--
What a connection still owes to its client when it is in some phase, some bytes are coming in and
some have been written.
-/
inductive Owes (service : Service Backend) (whole : Transcript Backend) :
    Phase → Bytes → Bytes → SharedState Backend → Prop where
  | header {received incoming written : Bytes} {since : Nat} {shared : SharedState Backend}
      (short : received.length < Header.size)
      (remains : (service.transcript (received ++ incoming) shared).Remains written whole) :
      Owes service whole (.awaitingHeader received since) incoming written shared
  | body {header : Header} {received incoming written : Bytes} {length : Nat}
      {shared : SharedState Backend}
      (announced : header.bodyLength service.maxMessageSize = .ok length)
      (atMost : received.length ≤ length)
      (remains : (service.transcript (header.bytes ++ (received ++ incoming)) shared).Remains
        written whole) :
      Owes service whole (.awaitingBody header received) incoming written shared
  | message {header : Header} {body incoming written : Bytes} {shared : SharedState Backend}
      (acceptable : Frame.IsAcceptable service.maxMessageSize ⟨header, body⟩)
      (remains : (service.transcriptAfter incoming (service.answer header body shared)).Remains
        written whole) :
      Owes service whole (.dispatching header body) incoming written shared
  /-- Once the reply is out, it counts as sent. -/
  | reply {pending incoming written : Bytes} {size since : Nat} {shared : SharedState Backend}
      (remains : (service.transcript incoming (shared.count (.replySent size))).Remains
        (written ++ pending) whole) :
      Owes service whole (.replying pending size since) incoming written shared
  | nothing {incoming written : Bytes} {shared : SharedState Backend}
      (bytes_eq : whole.bytes = written) (shared_eq : shared = whole.shared) :
      Owes service whole (.closed (.error whole.error)) incoming written shared

theorem Phase.outcome?_eq_some_iff {phase : Phase} {outcome : Except ProtocolError Unit} :
    phase.outcome? = some outcome ↔ phase = .closed outcome := by
  cases phase <;> simp [outcome?]

theorem Connection.outcomeOf_of_not_isInterruption {error : ProtocolError}
    (fatal : ¬error.IsInterruption) : outcomeOf error = .error error := by
  cases error with
  | cancelled => exact absurd .cancelled fatal
  | _ => rfl

namespace Owes

variable {service : Service Backend} {whole : Transcript Backend} {connection : Connection}
  {shared : SharedState Backend} {unsent sent : Bytes}

section Inversion

variable {phase : Phase} {pending incoming written : Bytes}

theorem of_dispatching {header : Header} {body : Bytes}
    (owes : Owes service whole phase incoming written shared)
    (phase_eq : phase = .dispatching header body) :
    (service.transcriptAfter incoming (service.answer header body shared)).Remains written
      whole := by
  subst phase_eq
  cases owes with
  | message _ remains => exact remains

theorem of_replying {size since : Nat} (owes : Owes service whole phase incoming written shared)
    (phase_eq : phase = .replying pending size since) :
    (service.transcript incoming (shared.count (.replySent size))).Remains (written ++ pending)
      whole := by
  subst phase_eq
  cases owes with
  | reply remains => exact remains

theorem of_closed {outcome : Except ProtocolError Unit}
    (owes : Owes service whole phase incoming written shared)
    (phase_eq : phase = .closed outcome) :
    outcome = .error whole.error ∧ whole.bytes = written ∧ shared = whole.shared := by
  subst phase_eq
  cases owes with
  | nothing bytes_eq shared_eq => exact ⟨rfl, bytes_eq, shared_eq⟩

theorem isSound (owes : Owes service whole phase incoming written shared) :
    phase.IsSound service.maxMessageSize := by
  cases owes with
  | header short _ => exact .awaitingHeader short
  | body announced atMost _ => exact .awaitingBody announced atMost
  | message acceptable _ => exact .dispatching acceptable
  | reply _ => exact .replying
  | nothing _ _ => exact .closed

end Inversion

section Reading

variable {received written : Bytes} {size : Nat} (reads : connection.Reads received size)

include reads

/-- While a connection reads, what is owed is what comes of the bytes ahead. -/
theorem of_reads (owes : Owes service whole connection.phase (connection.inbound.content ++ unsent)
      written shared) :
    (service.transcript (connection.ahead ++ unsent) shared).Remains written whole := by
  rw [Connection.ahead, List.append_assoc]
  cases reads with
  | header phase_eq =>
      rw [phase_eq] at owes ⊢
      cases owes with
      | header _ remains => exact remains
  | body phase_eq =>
      rw [phase_eq] at owes ⊢
      cases owes with
      | body _ _ remains => rwa [Phase.begun, List.append_assoc]

theorem reading (sound : connection.phase.IsSound service.maxMessageSize)
    (remains : (service.transcript (connection.ahead ++ unsent) shared).Remains written whole) :
    Owes service whole connection.phase (connection.inbound.content ++ unsent) written shared := by
  rw [Connection.ahead, List.append_assoc] at remains
  cases reads with
  | header phase_eq =>
      have short := sound.short phase_eq
      rw [phase_eq] at remains ⊢
      exact .header short remains
  | body phase_eq =>
      rcases sound.announced phase_eq with ⟨length, announced, atMost⟩
      rw [phase_eq] at remains ⊢
      rw [Phase.begun, List.append_assoc] at remains
      exact .body announced atMost remains

end Reading

theorem ended {error : ProtocolError} {incoming written : Bytes}
    (fatal : ¬whole.error.IsInterruption)
    (remains : (Transcript.ofError error shared).Remains written whole) :
    Owes service whole (connection.ended error).phase incoming written (shared.conclude error) := by
  have error_eq : error = whole.error := remains.error_eq
  rw [Connection.ended, error_eq, Connection.outcomeOf_of_not_isInterruption fatal]
  refine .nothing ?_ ?_
  · simpa [Transcript.bytes, Transcript.ofError] using remains.bytes_eq
  · rw [← remains.shared_eq, ← error_eq]
    rfl

/-- A message that is complete comes off the front of what is owed. -/
theorem completes {header : Header} {body : Bytes} {missing : Nat} {written : Bytes}
    (owes : Owes service whole connection.phase (connection.inbound.content ++ unsent) written
      shared)
    (completes : connection.Completes header body missing) :
    Owes service whole (.dispatching header body)
      (connection.inbound.content.drop missing ++ unsent) written
      (shared.count (.requestReceived header.length.toInt.toNat)) := by
  rcases completes.exists_reads with ⟨received, size, reads⟩
  rcases completes.ahead_eq owes.isSound with ⟨acceptable, ahead_eq⟩
  have remains := owes.of_reads reads
  rw [ahead_eq, List.append_assoc, Service.transcript_of_acceptable acceptable] at remains
  exact .message acceptable remains

/-- A fault that does not come from outside is the one that was due. -/
theorem fault {now : Nat} {error : ProtocolError} {written : Bytes}
    (owes : Owes service whole connection.phase (connection.inbound.content ++ unsent) written
      shared)
    (fault : connection.Fault service now error)
    (running : connection.isCancelled = false) (kept : connection.outbound.isAbandoned = false)
    (faultless : connection.IsFaultless)
    (finished : connection.inbound.isFinished = true → unsent = []) :
    (connection.IsWaiting ∧ error = .timeout) ∨
      (Transcript.ofError error shared).Remains written whole := by
  rcases fault.stops owes.isSound running kept faultless finished with
    waiting | ⟨⟨received, size, reads⟩, stops⟩
  · left
    exact waiting
  · right
    have remains := owes.of_reads reads
    rwa [Service.transcript_of_split_nil stops.split, ← stops.error_eq] at remains

/-- Whatever a connection does but give up waiting, it owes what it should. -/
theorem transition {now : Nat} {next : Connection} {after : SharedState Backend}
    (owes : Owes service whole connection.phase (connection.inbound.content ++ unsent)
      (sent ++ connection.outbound.content) shared)
    (transition : connection.Transition service now shared next after)
    (fatal : ¬whole.error.IsInterruption)
    (running : connection.isCancelled = false) (kept : connection.outbound.isAbandoned = false)
    (faultless : connection.IsFaultless)
    (finished : connection.inbound.isFinished = true → unsent = []) :
    (connection.IsWaiting ∧ next.phase = .closed (.error .timeout)) ∨
      Owes service whole next.phase (next.inbound.content ++ unsent)
        (sent ++ next.outbound.content) after := by
  have sound := transition.isSound owes.isSound
  cases transition with
  | @fault error fault =>
      rcases owes.fault fault running kept faultless finished with ⟨waiting, rfl⟩ | remains
      · left
        exact ⟨waiting, rfl⟩
      · right
        exact .ended fatal remains
  | header phase_eq _ enough announced =>
      right
      have remains := owes.of_reads (.header phase_eq)
      apply reading (.body rfl) sound
      rw [Connection.ahead_goOn_header phase_eq (owes.isSound.short phase_eq) enough]
      exact remains
  | headerPart phase_eq _ short present =>
      right
      have remains := owes.of_reads (.header phase_eq)
      apply reading (.header rfl) sound
      rw [Connection.ahead_goOn_part (by simp [phase_eq, Phase.begun])]
      exact remains
  | bodyPart phase_eq _ short present =>
      right
      have remains := owes.of_reads (.body phase_eq)
      apply reading (.body rfl) sound
      rw [Connection.ahead_goOn_part (by simp [phase_eq, Phase.begun])]
      exact remains
  | body completes =>
      right
      exact owes.completes completes
  | refused phase_eq answer =>
      right
      have remains := owes.of_dispatching phase_eq
      rw [answer] at remains
      exact .ended fatal remains
  | silent phase_eq answer =>
      right
      have remains := owes.of_dispatching phase_eq
      rw [answer] at remains
      exact .header (by simp [Header.size]) remains
  | answered phase_eq answer =>
      right
      have remains := owes.of_dispatching phase_eq
      rw [answer] at remains
      exact .reply remains.of_cons
  | @sentPart pending size since phase_eq _ room long =>
      right
      have remains := owes.of_replying phase_eq
      apply reply
      simpa [Connection.written, Pipe.offer, List.append_assoc] using remains
  | @sent pending size since phase_eq _ fits =>
      right
      have remains := owes.of_replying phase_eq
      apply header (by simp [Header.size])
      simpa [Connection.written, Pipe.offer, List.take_of_length_le fits] using remains

theorem written_prefix {phase : Phase} {incoming written : Bytes}
    (owes : Owes service whole phase incoming written shared) : written <+: whole.bytes := by
  cases owes with
  | header _ remains => exact ⟨_, remains.bytes_eq.symm⟩
  | body _ _ remains => exact ⟨_, remains.bytes_eq.symm⟩
  | message _ remains => exact ⟨_, remains.bytes_eq.symm⟩
  | reply remains => exact ⟨_, by rw [remains.bytes_eq, List.append_assoc]⟩
  | nothing bytes_eq _ => exact ⟨[], by rw [bytes_eq, List.append_nil]⟩

end Owes

namespace Exchange

def offering (capacity : Nat) (stream : Bytes) : Exchange :=
  { start capacity with outbox := stream }

def written (exchange : Exchange) : Bytes :=
  exchange.inbox ++ exchange.connection.outbound.content

theorem isSteady_offering {capacity : Nat} (positive : 0 < capacity) (stream : Bytes) :
    (offering capacity stream).IsSteady where
  calm := ⟨rfl, rfl, by simp [offering, start, Connection.start, Phase.outcome?]⟩
  kept := rfl
  faultless := ⟨rfl, rfl⟩
  inbound_pos := positive
  outbound_pos := positive
  listens _ := rfl
  finished := by simp [offering, start, Connection.start]

theorem written_collect (exchange : Exchange) (size : Nat) :
    (exchange.collect size).written = exchange.written := by
  simp only [written, collect, Pipe.skip]
  rw [List.append_assoc, List.take_append_drop]

theorem ahead_send {exchange : Exchange} {size : Nat}
    (fits : size ≤ exchange.connection.inbound.room) :
    (exchange.send size).connection.ahead ++ (exchange.send size).outbox =
      exchange.connection.ahead ++ exchange.outbox := by
  rw [Connection.ahead, Connection.ahead, List.append_assoc, List.append_assoc, incoming_send fits]
  rfl

/-- What holds throughout a calm run. -/
structure OnCourse (service : Service Backend) (whole : Transcript Backend)
    (state : Exchange × SharedState Backend) : Prop where
  calm : state.1.IsCalm
  kept : state.1.connection.outbound.isAbandoned = false
  faultless : state.1.connection.IsFaultless
  inbound_pos : 0 < state.1.connection.inbound.capacity
  outbound_pos : 0 < state.1.connection.outbound.capacity
  listens : ¬state.1.connection.IsClosed → state.1.connection.inbound.isAbandoned = false
  finished : state.1.connection.inbound.isFinished = true → state.1.outbox = []
  owes : Owes service whole state.1.connection.phase
    (state.1.connection.inbound.content ++ state.1.outbox) state.1.written state.2

variable {service : Service Backend} {whole : Transcript Backend}

theorem onCourse_offering {capacity : Nat} (positive : 0 < capacity) (stream : Bytes)
    (shared : SharedState Backend) :
    OnCourse service (service.transcript stream shared) (offering capacity stream, shared) := by
  have steady := isSteady_offering positive stream
  exact
    { calm := steady.calm
      kept := steady.kept
      faultless := steady.faultless
      inbound_pos := steady.inbound_pos
      outbound_pos := steady.outbound_pos
      listens := steady.listens
      finished := steady.finished
      owes := .header (by simp [Header.size]) ⟨rfl, rfl, rfl⟩ }

namespace OnCourse

theorem isSteady {state : Exchange × SharedState Backend}
    (course : OnCourse service whole state) : state.1.IsSteady where
  calm := course.calm
  kept := course.kept
  faultless := course.faultless
  inbound_pos := course.inbound_pos
  outbound_pos := course.outbound_pos
  listens := course.listens
  finished := course.finished

/-- Whatever a calm move does, it owes what it should. -/
theorem owes_calmMove {before after : Exchange × SharedState Backend}
    (course : OnCourse service whole before) (fatal : ¬whole.error.IsInterruption)
    (move : CalmMove service before after) :
    Owes service whole after.1.connection.phase
      (after.1.connection.inbound.content ++ after.1.outbox) after.1.written after.2 := by
  rcases move with ⟨move, calm⟩
  cases move with
  | serve duration stepped =>
      rcases course.owes.transition (Connection.transition_of_step stepped) fatal
        course.calm.running course.kept course.faultless course.finished with ⟨_, timeout⟩ | owes
      · exact absurd (congrArg Phase.outcome? timeout) calm.patient
      · exact owes
  | send _ _ _ _ fits =>
      rw [incoming_send fits]
      exact course.owes
  | collect _ _ _ =>
      rw [written_collect]
      exact course.owes
  | finish _ _ _ => exact course.owes
  | leave _ => exact absurd calm.stays (by simp [perform])
  | cancel _ => exact absurd calm.running (by simp [perform, Connection.cancel])

theorem calmMove {before after : Exchange × SharedState Backend}
    (course : OnCourse service whole before) (fatal : ¬whole.error.IsInterruption)
    (move : CalmMove service before after) : OnCourse service whole after := by
  have steady := course.isSteady.calmMove move
  exact
    { calm := steady.calm
      kept := steady.kept
      faultless := steady.faultless
      inbound_pos := steady.inbound_pos
      outbound_pos := steady.outbound_pos
      listens := steady.listens
      finished := steady.finished
      owes := course.owes_calmMove fatal move }

theorem calmlyReaches {before after : Exchange × SharedState Backend}
    (course : OnCourse service whole before) (fatal : ¬whole.error.IsInterruption)
    (run : CalmlyReaches service before after) : OnCourse service whole after := by
  induction run with
  | refl => exact course
  | tail _ move ih => exact ih.calmMove fatal move

/-- Where a calm run can go no further, nothing is owed. -/
theorem eq_of_stuck {exchange : Exchange} {shared : SharedState Backend}
    (course : OnCourse service whole (exchange, shared)) (fatal : ¬whole.error.IsInterruption)
    (stuck : ∀ state, ¬CalmMove service (exchange, shared) state) :
    exchange.connection.phase = .closed (.error whole.error) ∧ exchange.inbox = whole.bytes ∧
      shared = whole.shared := by
  rcases course.calm with ⟨stays, notCancelled, patient⟩
  have closed : exchange.connection.IsClosed := by
    apply Classical.byContradiction
    intro running
    have notWaiting : ¬exchange.connection.IsWaiting := by
      intro waiting
      rcases course.isSteady.exists_calmMove waiting running shared with ⟨next, move, _⟩
      exact stuck _ move
    cases stepped : exchange.connection.step service (exchange.now + 0) shared with
    | none => exact notWaiting (Connection.isWaiting_of_step stepped)
    | some result =>
        rcases result with ⟨next, after⟩
        have transition := Connection.transition_of_step stepped
        rcases course.owes.transition transition fatal notCancelled course.kept course.faultless
          course.finished with ⟨waiting, _⟩ | owes
        · exact notWaiting waiting
        · refine stuck _ ⟨.serve 0 stepped, stays,
            transition.keeps.isCancelled_eq.trans notCancelled, ?_⟩
          intro timeout
          have phase_eq : next.phase = .closed (.error .timeout) :=
            Phase.outcome?_eq_some_iff.1 timeout
          have same : ProtocolError.timeout = whole.error := by
            simpa using (owes.of_closed phase_eq).1
          rw [← same] at fatal
          exact fatal .timeout
  rcases closed with ⟨outcome, phase_eq⟩
  rcases course.owes.of_closed phase_eq with ⟨rfl, bytes_eq, shared_eq⟩
  have drained : exchange.connection.outbound.content = [] := by
    apply Classical.byContradiction
    intro waits
    exact stuck _ ⟨.collect stays (List.length_pos_iff.2 waits) (Nat.le_refl _), stays,
      notCancelled, patient⟩
  refine ⟨phase_eq, ?_, shared_eq⟩
  rw [bytes_eq, written, drained, List.append_nil]

end OnCourse

/-- What a state of a calm run has to do with the replies and the error that are due. -/
structure Honours (service : Service Backend) (replies : List Frame) (error : ProtocolError)
    (backend : Backend) (state : Exchange × SharedState Backend) : Prop where
  /-- Nothing but the replies is ever written, in order and once. -/
  written_prefix : state.1.written <+: Frame.allBytes replies
  of_closed : ∀ outcome, state.1.connection.phase = .closed outcome →
    outcome = .error error ∧ state.1.written = Frame.allBytes replies
  /-- Where the run can go no further, the connection has ended and the client has everything. -/
  of_stuck : (∀ next, ¬CalmMove service state next) →
    state.1.connection.phase = .closed (.error error) ∧
      state.1.inbox = Frame.allBytes replies ∧ state.2.backend = backend

/--
A client that sends a stream and finishes gets what it is owed, however the sending, the serving
and the receiving are interleaved, and no run goes on for ever.
-/
theorem calm_runs_serve (service : Service Backend) (shared : SharedState Backend) (stream : Bytes)
    (capacity : Nat) (positive : 0 < capacity) :
    ∃ frames leftover replies error backend,
      Frame.Split service.maxMessageSize stream frames leftover ∧
      service.Serves (Frame.Stream.fault service.maxMessageSize leftover) frames shared.backend
        shared.nextReplyId replies error backend ∧
      Acc (fun after before => CalmMove service before after) (offering capacity stream, shared) ∧
      ∀ state, CalmlyReaches service (offering capacity stream, shared) state →
        Honours service replies error backend state := by
  rcases Frame.exists_split service.maxMessageSize stream with ⟨frames, leftover, split⟩
  rcases service.exists_serves (Frame.Stream.fault service.maxMessageSize leftover) frames
    shared.backend shared.nextReplyId with ⟨replies, error, backend, serves⟩
  refine ⟨frames, leftover, replies, error, backend, split, serves,
    (wellFounded_calmMove service).apply _, ?_⟩
  intro state run
  rcases serves.eq_transcript split rfl rfl with ⟨rfl, rfl, rfl⟩
  have fatal : ¬(service.transcript stream shared).error.IsInterruption :=
    serves.not_isInterruption (Frame.Stream.not_isInterruption_fault _ _)
  have course := (onCourse_offering positive stream shared).calmlyReaches fatal run
  refine ⟨course.owes.written_prefix, ?_, ?_⟩
  · intro outcome phase_eq
    rcases course.owes.of_closed phase_eq with ⟨outcome_eq, bytes_eq, _⟩
    exact ⟨outcome_eq, bytes_eq.symm⟩
  · intro stuck
    rcases course.eq_of_stuck fatal stuck with ⟨phase_eq, inbox_eq, shared_eq⟩
    exact ⟨phase_eq, inbox_eq, by rw [shared_eq]⟩

def obliging : Service Unit where
  registry := ⟨[⟨"any", Predicate.any, Registry.always []⟩]⟩
  maxMessageSize := 100
  maxDocumentSize := 100
  idleTimeout := 0
  writeTimeout := 0

/-- A sectioned message with the empty document. -/
def blank (requestId responseTo : Int32) : Frame where
  header := ⟨26, requestId, responseTo, 2013⟩
  body := [0, 0, 0, 0, 0, 5, 0, 0, 0, 0]

theorem split_blank : Frame.Split 100 (blank 7 0).bytes [blank 7 0] [] where
  bytes_eq := by simp
  acceptable := by
    simp only [List.mem_singleton, forall_eq]
    exact ⟨by decide, by decide⟩
  maximal frame rest bytes_eq := by
    have length_eq := congrArg List.length bytes_eq
    simp only [List.length_nil, List.length_append, Frame.length_bytes, Frame.size,
      Header.size] at length_eq
    omega

theorem serves_blank :
    obliging.Serves (Frame.Stream.fault 100 []) [blank 7 0] () 1 [blank 1 7] .connectionClosed
      () := by
  have carries : (blank 7 0).Carries
      ⟨.msg, [], { requestId := 7, flags := 0, largestDocument := 5 }⟩ :=
    ⟨.msg, by decide, by cbv⟩
  refine .answered carries (.handled (by decide) ⟨rfl, [], [], rfl, by simp⟩ rfl) (.inr ⟨rfl, rfl⟩)
    ?_ .ended
  exact
    { length_eq := by decide
      requestId_eq := rfl
      responseTo_eq := rfl
      opcode_eq := by decide
      body_eq := ⟨[5, 0, 0, 0, 0], by cbv, by decide⟩ }

/-- Through pipes of a single byte, a message is answered by one reply of as many bytes. -/
theorem calm_runs_serve_blank :
    0 < 1 ∧ ∀ state,
      CalmlyReaches obliging (offering 1 (blank 7 0).bytes, { backend := () }) state →
        (∀ next, ¬CalmMove obliging state next) →
          state.1.connection.phase = .closed (.error .connectionClosed) ∧
            state.1.inbox = (blank 1 7).bytes := by
  refine ⟨by decide, ?_⟩
  intro state run stuck
  rcases calm_runs_serve obliging { backend := () } (blank 7 0).bytes 1 (by decide) with
    ⟨frames, leftover, replies, error, backend, split, serves, _, honours⟩
  rcases (honours state run).of_stuck stuck with ⟨phase_eq, inbox_eq, _⟩
  rcases split.unique split_blank with ⟨rfl, rfl⟩
  have start : ({ backend := () } : SharedState Unit).backend = () := rfl
  rcases serves.eq_transcript split start rfl with ⟨replies_eq, error_eq, _⟩
  rcases serves_blank.eq_transcript split_blank start rfl with ⟨blank_replies, blank_error, _⟩
  rw [← error_eq, blank_error] at phase_eq
  rw [← replies_eq, blank_replies] at inbox_eq
  exact ⟨phase_eq, by simpa using inbox_eq⟩

end Exchange

end DocumentProtocol
