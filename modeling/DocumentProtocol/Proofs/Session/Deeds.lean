import DocumentProtocol.Proofs.Session.Ahead

/-!
# What happens on a connection

A log tells what has happened on a connection, as far as its two pipes show it: the bytes that the
client puts into one and takes out of the other, the messages that the connection reads to their
last byte, and the bytes of replies that it writes. A message is logged when it has been read, and
once more when it has been answered, together with the backend that it found and with what came of
it.

`Connection.deeds` is what a step adds to the log, seen from the connection before the step and
after it. `Connection.Does` lists the steps with their deeds, so that the proofs about logs go by
cases on it and never look into `Connection.deeds`.
-/

namespace DocumentProtocol

variable {Backend : Type}

/-- A message that has been answered, the backend that it found, and what came of it. -/
structure Receipt (Backend : Type) where
  frame : Frame
  backend : Backend
  answer : Except ProtocolError (Option Frame)

/-- The reply that came due for a message. -/
def Receipt.reply? (receipt : Receipt Backend) : Option Frame :=
  match receipt.answer with
  | .ok reply => reply
  | .error _ => none

/-- What happens on a connection. -/
inductive Deed (Backend : Type) where
  /-- The client puts bytes into its pipe. -/
  | sent (bytes : Bytes)
  /-- The connection takes in the last byte of a message. -/
  | read (frame : Frame)
  /-- The connection answers the message that it has read. -/
  | answered (receipt : Receipt Backend)
  /-- The connection puts bytes of a reply into the other pipe. -/
  | wrote (bytes : Bytes)
  /-- These were the last bytes of a reply of some size. -/
  | replied (size : Nat)
  /-- The client takes bytes out of the other pipe. -/
  | took (bytes : Bytes)
  | ended (outcome : Except ProtocolError Unit)

namespace Deed

@[simp]
def sentBytes : Deed Backend → Bytes
  | sent bytes => bytes
  | _ => []

@[simp]
def frame? : Deed Backend → Option Frame
  | read frame => some frame
  | _ => none

@[simp]
def receipt? : Deed Backend → Option (Receipt Backend)
  | answered receipt => some receipt
  | _ => none

@[simp]
def wroteBytes : Deed Backend → Bytes
  | wrote bytes => bytes
  | _ => []

@[simp]
def replySize? : Deed Backend → Option Nat
  | replied size => some size
  | _ => none

@[simp]
def tookBytes : Deed Backend → Bytes
  | took bytes => bytes
  | _ => []

@[simp]
def outcome? : Deed Backend → Option (Except ProtocolError Unit)
  | ended outcome => some outcome
  | _ => none

/-- The bytes that the client has sent. -/
def stream (log : List (Deed Backend)) : Bytes := log.flatMap sentBytes

/-- The messages that have been read, in the order of reading. -/
def frames (log : List (Deed Backend)) : List Frame := log.filterMap frame?

/-- The messages that have been answered, in the same order. -/
def receipts (log : List (Deed Backend)) : List (Receipt Backend) := log.filterMap receipt?

/-- The replies that have come due, in the order of their messages. -/
def due (log : List (Deed Backend)) : List Frame := (receipts log).filterMap Receipt.reply?

/-- The bytes that the connection has written. -/
def written (log : List (Deed Backend)) : Bytes := log.flatMap wroteBytes

/-- The sizes of the replies that have been written to their last byte. -/
def sizes (log : List (Deed Backend)) : List Nat := log.filterMap replySize?

/-- The bytes that the client has received. -/
def received (log : List (Deed Backend)) : Bytes := log.flatMap tookBytes

def outcomes (log : List (Deed Backend)) : List (Except ProtocolError Unit) :=
  log.filterMap outcome?

section Append

variable (deed : Deed Backend) (log more : List (Deed Backend))

@[simp]
theorem stream_nil : stream ([] : List (Deed Backend)) = [] := rfl

@[simp]
theorem stream_cons : stream (deed :: log) = deed.sentBytes ++ stream log := by
  simp [stream]

@[simp]
theorem stream_append : stream (log ++ more) = stream log ++ stream more := by
  simp [stream]

@[simp]
theorem receipts_nil : receipts ([] : List (Deed Backend)) = [] := rfl

@[simp]
theorem receipts_cons : receipts (deed :: log) = deed.receipt?.toList ++ receipts log := by
  cases deed <;> rfl

@[simp]
theorem receipts_append : receipts (log ++ more) = receipts log ++ receipts more := by
  simp [receipts]

@[simp]
theorem frames_nil : frames ([] : List (Deed Backend)) = [] := rfl

@[simp]
theorem frames_cons : frames (deed :: log) = deed.frame?.toList ++ frames log := by
  cases deed <;> rfl

@[simp]
theorem frames_append : frames (log ++ more) = frames log ++ frames more := by
  simp [frames]

@[simp]
theorem due_append : due (log ++ more) = due log ++ due more := by
  simp [due]

@[simp]
theorem written_nil : written ([] : List (Deed Backend)) = [] := rfl

@[simp]
theorem written_cons : written (deed :: log) = deed.wroteBytes ++ written log := by
  simp [written]

@[simp]
theorem written_append : written (log ++ more) = written log ++ written more := by
  simp [written]

@[simp]
theorem sizes_nil : sizes ([] : List (Deed Backend)) = [] := rfl

@[simp]
theorem sizes_cons : sizes (deed :: log) = deed.replySize?.toList ++ sizes log := by
  cases deed <;> rfl

@[simp]
theorem sizes_append : sizes (log ++ more) = sizes log ++ sizes more := by
  simp [sizes]

@[simp]
theorem received_nil : received ([] : List (Deed Backend)) = [] := rfl

@[simp]
theorem received_cons : received (deed :: log) = deed.tookBytes ++ received log := by
  simp [received]

@[simp]
theorem received_append : received (log ++ more) = received log ++ received more := by
  simp [received]

@[simp]
theorem outcomes_nil : outcomes ([] : List (Deed Backend)) = [] := rfl

@[simp]
theorem outcomes_cons : outcomes (deed :: log) = deed.outcome?.toList ++ outcomes log := by
  cases deed <;> rfl

@[simp]
theorem outcomes_append : outcomes (log ++ more) = outcomes log ++ outcomes more := by
  simp [outcomes]

end Append

end Deed

namespace Connection

open Deed

/-- The message whose last byte a connection can take in. -/
def completed? (connection : Connection) : Option Frame :=
  match connection.phase with
  | .awaitingBody header received =>
      match connection.inbound.read received (header.length.toInt.toNat - Header.size) with
      | (.complete body, _) => if connection.isCancelled then none else some ⟨header, body⟩
      | _ => none
  | _ => none

/-- What comes of a message, and the backend that it finds. -/
def receipt (service : Service Backend) (shared : SharedState Backend) (frame : Frame) :
    Receipt Backend :=
  ⟨frame, shared.backend, (service.answer frame.header frame.body shared).1⟩

/-- What a step has written if it leads from one connection to the next. -/
def writeDeeds (connection next : Connection) : List (Deed Backend) :=
  let bytes := next.outbound.content.drop connection.outbound.content.length
  match connection.phase, next.phase with
  | .replying _ _ _, .replying _ _ _ => [.wrote bytes]
  | .replying _ size _, .awaitingHeader _ _ => [.wrote bytes, .replied size]
  | _, _ => []

/-- What a step has done if it leads from one connection to the next. -/
def deeds (service : Service Backend) (shared : SharedState Backend)
    (connection next : Connection) : List (Deed Backend) :=
  connection.completed?.toList.map .read ++
    connection.phase.current?.toList.map (fun frame => .answered (receipt service shared frame)) ++
    connection.writeDeeds next ++ next.phase.outcome?.toList.map .ended

/-- The steps of a connection at some time, with what they do. -/
inductive Does (service : Service Backend) (now : Nat) (connection : Connection)
    (shared : SharedState Backend) :
    List (Deed Backend) → Connection → SharedState Backend → Prop where
  /-- The connection ends without looking at a message. -/
  | ends {error : ProtocolError} (fault : connection.Fault service now error) :
      Does service now connection shared [.ended (outcomeOf error)] (connection.ended error)
        (shared.conclude error)
  /-- The connection takes in bytes of a message that is not complete. -/
  | takesIn {phase : Phase} {size : Nat} (running : connection.isCancelled = false)
      (reads : ∃ received wanted, connection.Reads received wanted)
      (goesOn : ∃ received wanted, (connection.goOn size phase).Reads received wanted)
      (ahead_eq : connection.phase.IsSound service.maxMessageSize →
        (connection.goOn size phase).ahead = connection.ahead) :
      Does service now connection shared [] (connection.goOn size phase) shared
  | reads {header : Header} {body : Bytes} {missing : Nat}
      (completes : connection.Completes header body missing) :
      Does service now connection shared [.read ⟨header, body⟩]
        (connection.goOn missing (.dispatching header body))
        (shared.count (.requestReceived header.length.toInt.toNat))
  | refuses {header : Header} {body : Bytes} {error : ProtocolError}
      {after : SharedState Backend} (phase_eq : connection.phase = .dispatching header body)
      (answer : service.answer header body shared = (.error error, after)) :
      Does service now connection shared
        [.answered ⟨⟨header, body⟩, shared.backend, .error error⟩, .ended (outcomeOf error)]
        (connection.ended error) (after.conclude error)
  | passes {header : Header} {body : Bytes} {after : SharedState Backend}
      (phase_eq : connection.phase = .dispatching header body)
      (answer : service.answer header body shared = (.ok none, after)) :
      Does service now connection shared [.answered ⟨⟨header, body⟩, shared.backend, .ok none⟩]
        (connection.turnTo (.awaitingHeader [] now)) after
  | answers {header : Header} {body : Bytes} {reply : Frame} {after : SharedState Backend}
      (phase_eq : connection.phase = .dispatching header body)
      (answer : service.answer header body shared = (.ok (some reply), after)) :
      Does service now connection shared
        [.answered ⟨⟨header, body⟩, shared.backend, .ok (some reply)⟩]
        (connection.turnTo (.replying reply.bytes reply.size now)) after
  | writes {pending : Bytes} {size since : Nat}
      (phase_eq : connection.phase = .replying pending size since)
      (kept : connection.outbound.isAbandoned = false) (room : 0 < connection.outbound.room)
      (long : connection.outbound.room < pending.length) :
      Does service now connection shared [.wrote (pending.take connection.outbound.room)]
        (connection.written pending (.replying (pending.drop connection.outbound.room) size since))
        shared
  | finishes {pending : Bytes} {size since : Nat}
      (phase_eq : connection.phase = .replying pending size since)
      (kept : connection.outbound.isAbandoned = false)
      (fits : pending.length ≤ connection.outbound.room) :
      Does service now connection shared [.wrote pending, .replied size]
        (connection.written pending (.awaitingHeader [] now))
        (shared.count (.replySent size))

theorem Reads.not_isClosed {connection : Connection} {received : Bytes} {size : Nat}
    (reads : connection.Reads received size) : ¬connection.IsClosed := by
  apply not_isClosed_of_outcome
  cases reads with
  | header phase_eq => simp only [phase_eq, Phase.outcome?]
  | body phase_eq => simp only [phase_eq, Phase.outcome?]

theorem Transition.outcome?_eq_none {service : Service Backend} {now : Nat}
    {connection next : Connection} {shared after : SharedState Backend}
    (transition : Transition service now connection shared next after) :
    connection.phase.outcome? = none := by
  cases phase_eq : connection.phase with
  | closed outcome => exact absurd ⟨outcome, phase_eq⟩ transition.not_isClosed
  | _ => rfl

section Deeds

variable {service : Service Backend} {now : Nat} {connection next : Connection}
  {shared after : SharedState Backend}

theorem completed?_of_completes {header : Header} {body : Bytes} {missing : Nat}
    (completes : connection.Completes header body missing) :
    connection.completed? = some ⟨header, body⟩ := by
  cases completes with
  | mk phase_eq running missing_eq sound enough =>
      rename_i received
      subst missing_eq
      have present : header.length.toInt.toNat - Header.size ≤
          (received ++ connection.inbound.content).length := by
        rw [List.length_append]
        exact Nat.sub_le_iff_le_add'.1 enough
      have complete := Pipe.read_eq_complete (sound.imp_left Nat.le_of_sub_eq_zero) present
      simp only [completed?, phase_eq, complete, running, Bool.false_eq_true, ↓reduceIte]

theorem completes_of_completed? {frame : Frame} (found : connection.completed? = some frame) :
    ∃ missing, connection.Completes frame.header frame.body missing := by
  simp only [completed?] at found
  split at found
  · rename_i header received phase_eq
    split at found
    · rename_i complete
      split at found
      · cases found
      · rename_i running
        cases found
        cases Pipe.finds_of_read complete with
        | complete sound enough =>
            rw [List.length_append] at enough
            exact ⟨_, .mk phase_eq (Bool.eq_false_iff.2 running) rfl
              (sound.imp_left Nat.sub_eq_zero_of_le) (Nat.sub_le_iff_le_add'.2 enough)⟩
    · cases found
  · cases found

theorem completed?_of_incomplete
    (incomplete : ∀ header body missing, ¬connection.Completes header body missing) :
    connection.completed? = none := by
  cases found : connection.completed? with
  | none => rfl
  | some frame =>
      rcases completes_of_completed? found with ⟨missing, completes⟩
      exact absurd completes (incomplete _ _ _)

theorem completed?_of_phase
    (other : ∀ header received, connection.phase ≠ .awaitingBody header received) :
    connection.completed? = none := by
  apply completed?_of_incomplete
  intro header body missing completes
  cases completes with
  | mk phase_eq _ _ _ _ => exact other _ _ phase_eq

theorem writeDeeds_of_reads {received : Bytes} {size : Nat}
    (reads : connection.Reads received size) :
    connection.writeDeeds next = ([] : List (Deed Backend)) := by
  cases reads with
  | header phase_eq => simp only [writeDeeds, phase_eq]
  | body phase_eq => simp only [writeDeeds, phase_eq]

/-- A connection that reads and does not complete a message does nothing that is logged. -/
theorem deeds_of_reads {received : Bytes} {size : Nat} (reads : connection.Reads received size)
    (incomplete : connection.completed? = none) :
    connection.deeds service shared next = next.phase.outcome?.toList.map .ended := by
  simp [deeds, incomplete, reads.current?_eq, writeDeeds_of_reads reads]

theorem deeds_of_dispatching {header : Header} {body : Bytes}
    (phase_eq : connection.phase = .dispatching header body) :
    connection.deeds service shared next =
      .answered (receipt service shared ⟨header, body⟩) ::
        next.phase.outcome?.toList.map .ended := by
  simp [deeds, completed?, Phase.current?, writeDeeds, phase_eq]

theorem deeds_of_replying {pending : Bytes} {size since : Nat}
    (phase_eq : connection.phase = .replying pending size since) :
    connection.deeds service shared next =
      connection.writeDeeds next ++ next.phase.outcome?.toList.map .ended := by
  simp [deeds, completed?, Phase.current?, phase_eq]

/-- A fault ends a connection and does nothing else. -/
theorem Fault.deeds_eq {error : ProtocolError} (fault : connection.Fault service now error) :
    connection.deeds service shared (connection.ended error) = [.ended (outcomeOf error)] := by
  have unread := completed?_of_incomplete fault.incomplete
  have of_reads {received : Bytes} {size : Nat} (reads : connection.Reads received size) :
      connection.deeds service shared (connection.ended error) = [.ended (outcomeOf error)] :=
    deeds_of_reads reads unread
  have of_replying {pending : Bytes} {size since : Nat}
      (phase_eq : connection.phase = .replying pending size since) :
      connection.deeds service shared (connection.ended error) = [.ended (outcomeOf error)] := by
    simp [deeds_of_replying phase_eq, writeDeeds, Connection.ended, Phase.outcome?]
  cases fault with
  | cancelled reads _ => exact of_reads reads
  | badHeader phase_eq _ _ _ => exact of_reads (.header phase_eq)
  | broken reads _ _ _ => exact of_reads reads
  | hungUp reads _ _ _ _ => exact of_reads reads
  | idle phase_eq _ _ _ _ => exact of_reads (.header phase_eq)
  | severed phase_eq _ => exact of_replying phase_eq
  | stalled phase_eq _ _ _ _ => exact of_replying phase_eq

theorem drop_content_written (pending : Bytes) (phase : Phase) :
    (connection.written pending phase).outbound.content.drop connection.outbound.content.length =
      pending.take connection.outbound.room := by
  simp [written, Pipe.offer]

/-- A step does what is listed. -/
theorem Transition.does (transition : Transition service now connection shared next after) :
    Does service now connection shared (connection.deeds service shared next) next after := by
  cases transition with
  | fault fault =>
      rw [fault.deeds_eq]
      exact .ends fault
  | header phase_eq running enough _ =>
      rw [deeds_of_reads (.header phase_eq) (completed?_of_phase (by simp [phase_eq]))]
      refine .takesIn running ⟨_, _, .header phase_eq⟩ ⟨_, _, .body rfl⟩ ?_
      intro sound
      exact ahead_goOn_header phase_eq (sound.short phase_eq) enough
  | headerPart phase_eq running _ _ =>
      rw [deeds_of_reads (.header phase_eq) (completed?_of_phase (by simp [phase_eq]))]
      refine .takesIn running ⟨_, _, .header phase_eq⟩ ⟨_, _, .header rfl⟩ ?_
      intro _
      apply ahead_goOn_part
      simp [phase_eq, Phase.begun]
  | @bodyPart header received phase_eq running short _ =>
      have incomplete : connection.completed? = none := by
        apply completed?_of_incomplete
        intro _ _ _ completes
        cases completes with
        | mk other _ missing_eq _ enough =>
            rw [phase_eq] at other
            cases other
            rw [List.length_append] at short
            omega
      rw [deeds_of_reads (.body phase_eq) incomplete]
      refine .takesIn running ⟨_, _, .body phase_eq⟩ ⟨_, _, .body rfl⟩ ?_
      intro _
      apply ahead_goOn_part
      simp [phase_eq, Phase.begun]
  | @body header body missing completes =>
      rcases completes.exists_reads with ⟨_, _, reads⟩
      have deeds_eq : connection.deeds service shared
          (connection.goOn missing (.dispatching header body)) = [.read ⟨header, body⟩] := by
        simp [deeds, completed?_of_completes completes, reads.current?_eq,
          writeDeeds_of_reads reads, goOn, Phase.outcome?]
      rw [deeds_eq]
      exact .reads completes
  | refused phase_eq answer =>
      rw [deeds_of_dispatching phase_eq, receipt, answer]
      exact .refuses phase_eq answer
  | silent phase_eq answer =>
      rw [deeds_of_dispatching phase_eq, receipt, answer]
      exact .passes phase_eq answer
  | answered phase_eq answer =>
      rw [deeds_of_dispatching phase_eq, receipt, answer]
      exact .answers phase_eq answer
  | @sentPart pending size since phase_eq kept room long =>
      have deeds_eq : connection.deeds service shared (connection.written pending
          (.replying (pending.drop connection.outbound.room) size since)) =
            [.wrote (pending.take connection.outbound.room)] := by
        simp only [deeds_of_replying phase_eq, writeDeeds, drop_content_written, phase_eq]
        rfl
      rw [deeds_eq]
      exact .writes phase_eq kept room long
  | @sent pending size since phase_eq kept fits =>
      have deeds_eq : connection.deeds service shared (connection.written pending
          (.awaitingHeader [] now)) = [.wrote pending, .replied size] := by
        simp only [deeds_of_replying phase_eq, writeDeeds, drop_content_written, phase_eq,
          List.take_of_length_le fits]
        rfl
      rw [deeds_eq]
      exact .finishes phase_eq kept fits

theorem does_of_step (stepped : connection.step service now shared = some (next, after)) :
    Does service now connection shared (connection.deeds service shared next) next after :=
  (transition_of_step stepped).does

section Does

variable {deeds : List (Deed Backend)}
  (does : Does service now connection shared deeds next after)

include does

/-- The bytes that a client sends are none of the connection's doing. -/
theorem Does.stream_eq : stream deeds = [] := by
  cases does <;> simp

theorem Does.received_eq : received deeds = [] := by
  cases does <;> simp

theorem Does.outcomes_eq : outcomes deeds = next.phase.outcome?.toList := by
  cases does with
  | takesIn _ _ goesOn _ =>
      rcases goesOn with ⟨_, _, reads⟩
      cases reads with
      | header phase_eq => simp [phase_eq, Phase.outcome?]
      | body phase_eq => simp [phase_eq, Phase.outcome?]
  | ends _ => simp [Connection.ended, Phase.outcome?]
  | reads _ => simp [goOn, Phase.outcome?]
  | refuses _ _ => simp [Connection.ended, Phase.outcome?]
  | passes _ _ => simp [turnTo, Phase.outcome?]
  | answers _ _ => simp [turnTo, Phase.outcome?]
  | writes _ _ _ _ => simp [Connection.written, Phase.outcome?]
  | finishes _ _ _ => simp [Connection.written, Phase.outcome?]

/-- A step answers the message at hand, and a message that it reads is at hand after it. -/
theorem Does.frames_eq : connection.phase.current?.toList ++ frames deeds =
    (receipts deeds).map Receipt.frame ++ next.phase.current?.toList := by
  cases does with
  | ends fault =>
      rw [fault.current?_eq]
      rfl
  | takesIn _ reads goesOn _ =>
      rcases reads with ⟨_, _, reads⟩
      rcases goesOn with ⟨_, _, goesOn⟩
      simp [reads.current?_eq, goesOn.current?_eq]
  | reads completes =>
      rcases completes.exists_reads with ⟨_, _, reads⟩
      rw [reads.current?_eq]
      rfl
  | refuses phase_eq _ => simp [phase_eq, Connection.ended, Phase.current?]
  | passes phase_eq _ => simp [phase_eq, turnTo, Phase.current?]
  | answers phase_eq _ => simp [phase_eq, turnTo, Phase.current?]
  | writes phase_eq _ _ _ => simp [phase_eq, Connection.written, Phase.current?]
  | finishes phase_eq _ _ => simp [phase_eq, Connection.written, Phase.current?]

/-- What is written joins what the client has not taken out. -/
theorem Does.content_eq :
    next.outbound.content = connection.outbound.content ++ Deed.written deeds := by
  cases does with
  | writes _ _ _ _ => simp [Connection.written, Pipe.offer]
  | finishes _ _ fits => simp [Connection.written, Pipe.offer, List.take_of_length_le fits]
  | _ => simp [Connection.ended, goOn, turnTo, Pipe.finish]

/-- Nothing is written for a client that is gone. -/
theorem Does.written_eq_nil (lost : connection.outbound.isAbandoned = true) :
    Deed.written deeds = [] := by
  cases does with
  | writes _ kept _ _ => exact absurd (kept.symm.trans lost) (by simp)
  | finishes _ kept _ => exact absurd (kept.symm.trans lost) (by simp)
  | _ => simp

end Does

end Deeds

end Connection

end DocumentProtocol
