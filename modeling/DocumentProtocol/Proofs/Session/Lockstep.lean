import DocumentProtocol.Proofs.Session.Numbering

/-!
# Connections in lockstep

Two connections are alike if they differ in no more than the bytes of their replies, not in how
many these are, and in the times from which they count. If both can take a step, they are alike
after it (`Connection.Alike.step`): which step a connection takes is a matter of what its client
has done, and time decides only whether a connection that waits goes on waiting. And if one of them
can take a step, then so can the other, if not now then later (`Connection.Alike.isSome_step`).

So two lives with the same actions go side by side, whatever else happens on the servers, and the
clients get the same replies but for the numbers.
-/

namespace DocumentProtocol

variable {Backend : Type}

open Deed

/-! ### Likeness -/

/-- Whether two pipes differ in what bytes are in them at most, not in how many. -/
structure Pipe.Alike (pipe other : Pipe) : Prop where
  capacity_eq : pipe.capacity = other.capacity
  length_eq : pipe.content.length = other.content.length
  isFinished_eq : pipe.isFinished = other.isFinished
  isAbandoned_eq : pipe.isAbandoned = other.isAbandoned
  fault_eq : pipe.fault? = other.fault?

namespace Pipe.Alike

variable {pipe other : Pipe} {bytes others : Bytes}

theorem room_eq (alike : pipe.Alike other) : pipe.room = other.room := by
  rw [room, room, alike.capacity_eq, alike.length_eq]

theorem writeFault?_eq (alike : pipe.Alike other) : pipe.writeFault? = other.writeFault? := by
  rw [writeFault?, writeFault?, alike.isAbandoned_eq, alike.fault_eq]

theorem offer (alike : pipe.Alike other) (length_eq : bytes.length = others.length) :
    (pipe.offer bytes).1.Alike (other.offer others).1 where
  capacity_eq := alike.capacity_eq
  length_eq := by simp [Pipe.offer, alike.length_eq, alike.room_eq, length_eq]
  isFinished_eq := alike.isFinished_eq
  isAbandoned_eq := alike.isAbandoned_eq
  fault_eq := alike.fault_eq

theorem skip (alike : pipe.Alike other) (size : Nat) :
    (pipe.skip size).Alike (other.skip size) where
  capacity_eq := alike.capacity_eq
  length_eq := by simp [Pipe.skip, alike.length_eq]
  isFinished_eq := alike.isFinished_eq
  isAbandoned_eq := alike.isAbandoned_eq
  fault_eq := alike.fault_eq

theorem finish (alike : pipe.Alike other) : pipe.finish.Alike other.finish :=
  ⟨alike.capacity_eq, alike.length_eq, rfl, alike.isAbandoned_eq, alike.fault_eq⟩

theorem abandon (alike : pipe.Alike other) : pipe.abandon.Alike other.abandon :=
  ⟨alike.capacity_eq, rfl, alike.isFinished_eq, rfl, alike.fault_eq⟩

theorem fail (alike : pipe.Alike other) (fault : StreamFault) :
    (pipe.fail fault).Alike (other.fail fault) where
  capacity_eq := alike.capacity_eq
  length_eq := alike.length_eq
  isFinished_eq := alike.isFinished_eq
  isAbandoned_eq := alike.isAbandoned_eq
  fault_eq := by rw [Pipe.fail, Pipe.fail, alike.fault_eq]

end Pipe.Alike

/-- Whether two connections do the same but for the bytes of a reply and the time they began. -/
inductive Phase.Alike : Phase → Phase → Prop where
  | awaitingHeader {received : Bytes} {since otherSince : Nat} :
      Alike (.awaitingHeader received since) (.awaitingHeader received otherSince)
  | awaitingBody {header : Header} {received : Bytes} :
      Alike (.awaitingBody header received) (.awaitingBody header received)
  | dispatching {header : Header} {body : Bytes} :
      Alike (.dispatching header body) (.dispatching header body)
  | replying {pending otherPending : Bytes} {size since otherSince : Nat}
      (length_eq : pending.length = otherPending.length) :
      Alike (.replying pending size since) (.replying otherPending size otherSince)
  | closed {outcome : Except ProtocolError Unit} : Alike (.closed outcome) (.closed outcome)

theorem Phase.Alike.current?_eq {phase other : Phase} (alike : phase.Alike other) :
    phase.current? = other.current? := by
  cases alike <;> rfl

namespace Connection

/-- Whether two connections differ in the bytes of their replies and in times at most. -/
structure Alike (connection other : Connection) : Prop where
  phase : connection.phase.Alike other.phase
  inbound_eq : connection.inbound = other.inbound
  outbound : connection.outbound.Alike other.outbound
  isCancelled_eq : connection.isCancelled = other.isCancelled

namespace Alike

variable {service : Service Backend} {connection other next otherNext : Connection}
  {shared after otherShared otherAfter : SharedState Backend} {now later : Nat}

theorem ended (alike : connection.Alike other) (error : ProtocolError) :
    (connection.ended error).Alike (other.ended error) where
  phase := .closed
  inbound_eq := by simp [Connection.ended, alike.inbound_eq]
  outbound := alike.outbound.finish
  isCancelled_eq := alike.isCancelled_eq

end Alike

/-! ### Steps -/

/-- Whether of two connections both wait or both take steps after which they are alike. -/
inductive GoAlike : Option (Connection × SharedState Backend) →
    Option (Connection × SharedState Backend) → Prop where
  | wait : GoAlike none none
  | step {next otherNext : Connection} {after otherAfter : SharedState Backend}
      (alike : next.Alike otherNext) : GoAlike (some (next, after)) (some (otherNext, otherAfter))

theorem GoAlike.alike {result otherResult : Connection × SharedState Backend}
    (goAlike : GoAlike (some result) (some otherResult)) : result.1.Alike otherResult.1 := by
  cases goAlike with
  | step alike => exact alike

theorem GoAlike.isSome_eq {result? otherResult? : Option (Connection × SharedState Backend)}
    (goAlike : GoAlike result? otherResult?) : result?.isSome = otherResult?.isSome := by
  cases goAlike <;> rfl

section Within

variable {limit since now otherSince later : Nat} {late result : Connection × SharedState Backend}
  {otherLate otherResult : Connection × SharedState Backend}
  {result? otherResult? : Option (Connection × SharedState Backend)}

/-- Connections that go alike within a limit are alike after a step, whenever they take it. -/
theorem GoAlike.within (goAlike : GoAlike result? otherResult?)
    (lateAlike : late.1.Alike otherLate.1)
    (stepped : Deadline.within limit since now late result? = some result)
    (other_stepped : Deadline.within limit otherSince later otherLate otherResult? =
      some otherResult) : result.1.Alike otherResult.1 := by
  rw [Deadline.within_eq_some_iff] at stepped other_stepped
  cases goAlike with
  | wait =>
      rcases stepped with none | ⟨_, _, rfl⟩
      · cases none
      · rcases other_stepped with none | ⟨_, _, rfl⟩
        · cases none
        · exact lateAlike
  | step alike =>
      rcases stepped with stepped | ⟨none, _⟩
      · rcases other_stepped with other_stepped | ⟨none, _⟩
        · cases stepped
          cases other_stepped
          exact alike
        · cases none
      · cases none

theorem GoAlike.withinOptional (goAlike : GoAlike result? otherResult?)
    (lateAlike : late.1.Alike otherLate.1)
    (stepped : Deadline.withinOptional limit since now late result? = some result)
    (other_stepped : Deadline.withinOptional limit otherSince later otherLate otherResult? =
      some otherResult) : result.1.Alike otherResult.1 := by
  unfold Deadline.withinOptional at stepped other_stepped
  split at stepped
  · rename_i unlimited
    rw [if_pos unlimited] at other_stepped
    cases goAlike with
    | wait => cases stepped
    | step alike =>
        cases stepped
        cases other_stepped
        exact alike
  · rename_i limited
    rw [if_neg limited] at other_stepped
    exact goAlike.within lateAlike stepped other_stepped

/-- Where one result has come in the end, so has the other when the limit is over. -/
theorem GoAlike.isSome_withinOptional (goAlike : GoAlike result? otherResult?)
    (expired : otherSince + limit ≤ later)
    (steps : (Deadline.withinOptional limit since now late result?).isSome = true) :
    (Deadline.withinOptional limit otherSince later otherLate otherResult?).isSome = true := by
  unfold Deadline.withinOptional at steps ⊢
  cases goAlike with
  | wait =>
      split
      · rename_i unlimited
        rw [if_pos unlimited] at steps
        cases steps
      · simp [Deadline.within, expired]
  | step _ => split <;> rfl

end Within

namespace Alike

variable {service : Service Backend} {connection other next otherNext : Connection}
  {shared after otherShared otherAfter : SharedState Backend} {now later : Nat}

theorem acceptHeader (alike : connection.Alike other) (bytes : Bytes) :
    (connection.acceptHeader service bytes shared).1.Alike
      (other.acceptHeader service bytes otherShared).1 := by
  simp only [Connection.acceptHeader]
  cases (Header.ofBytes bytes).bodyLength service.maxMessageSize with
  | error error => exact alike.ended error
  | ok length => exact ⟨.awaitingBody, alike.inbound_eq, alike.outbound, alike.isCancelled_eq⟩

theorem acceptBody (alike : connection.Alike other) (header : Header) (body : Bytes) :
    (connection.acceptBody header body shared).1.Alike
      (other.acceptBody header body otherShared).1 :=
  ⟨.dispatching, alike.inbound_eq, alike.outbound, alike.isCancelled_eq⟩

/-- Of two connections that are alike, both find the same in what their clients have sent. -/
theorem take {received : Bytes} {size : Nat} {keep otherKeep : Bytes → Phase}
    {accept otherAccept :
      Connection → Bytes → SharedState Backend → Connection × SharedState Backend}
    (alike : connection.Alike other) (kept : ∀ bytes, (keep bytes).Alike (otherKeep bytes))
    (accepted : ∀ (first second : Connection) (bytes : Bytes), first.Alike second →
      (accept first bytes shared).1.Alike (otherAccept second bytes otherShared).1) :
    GoAlike (connection.take received size keep accept shared)
      (other.take received size otherKeep otherAccept otherShared) := by
  simp only [Connection.take, ← alike.inbound_eq]
  rcases connection.inbound.read received size with ⟨arrival, inbound⟩
  cases arrival with
  | complete bytes =>
      exact .step (accepted _ _ _ ⟨alike.phase, rfl, alike.outbound, alike.isCancelled_eq⟩)
  | part bytes => exact .step ⟨kept bytes, rfl, alike.outbound, alike.isCancelled_eq⟩
  | failed fault => exact .step (alike.ended _)
  | pending => exact .wait

theorem takeHeader {received : Bytes} {since otherSince : Nat} (alike : connection.Alike other) :
    GoAlike
      (connection.take received Header.size (fun bytes => .awaitingHeader bytes since)
        (Connection.acceptHeader service) shared)
      (other.take received Header.size (fun bytes => .awaitingHeader bytes otherSince)
        (Connection.acceptHeader service) otherShared) :=
  alike.take (fun _ => .awaitingHeader) fun _ _ bytes alike => alike.acceptHeader bytes

theorem readBody {header : Header} {received : Bytes} (alike : connection.Alike other) :
    GoAlike (connection.readBody header received shared)
      (other.readBody header received otherShared) :=
  alike.take (fun _ => .awaitingBody) fun _ _ body alike => alike.acceptBody header body

theorem dispatch (ignores : service.registry.IgnoresBackend) (alike : connection.Alike other)
    (header : Header) (body : Bytes) :
    (connection.dispatch service now header body shared).1.Alike
      (other.dispatch service later header body otherShared).1 := by
  have same := Service.unnumbered_answer ignores header body shared otherShared
  simp only [Connection.dispatch]
  generalize service.answer header body shared = one at same ⊢
  generalize service.answer header body otherShared = another at same ⊢
  rcases one with ⟨error | reply?, after⟩
  · rcases another with ⟨other_error | _, otherAfter⟩
    · cases same
      exact alike.ended _
    · cases same
  · rcases another with ⟨_ | other_reply?, otherAfter⟩
    · cases same
    · simp only [Except.map, Except.ok.injEq] at same
      cases reply? with
      | none =>
          cases other_reply? with
          | none =>
              exact ⟨.awaitingHeader, alike.inbound_eq, alike.outbound, alike.isCancelled_eq⟩
          | some _ => cases same
      | some reply =>
          cases other_reply? with
          | none => cases same
          | some other_reply =>
              have size_eq := congrArg Frame.size (Option.some.inj same)
              simp only [Frame.size_unnumbered] at size_eq
              refine ⟨?_, alike.inbound_eq, alike.outbound, alike.isCancelled_eq⟩
              dsimp only
              rw [size_eq]
              exact .replying (by simpa using size_eq)

theorem put {pending otherPending : Bytes} {size since otherSince : Nat}
    (alike : connection.Alike other) (length_eq : pending.length = otherPending.length) :
    GoAlike (connection.put now pending size since shared)
      (other.put later otherPending size otherSince otherShared) := by
  have offered := alike.outbound.offer length_eq
  simp only [Connection.put, ← alike.outbound.writeFault?_eq]
  cases connection.outbound.writeFault? with
  | some fault => exact .step (alike.ended _)
  | none =>
      simp only [Pipe.offer, List.drop_eq_nil_iff, List.length_drop, ← alike.outbound.room_eq,
        ← length_eq] at offered ⊢
      split
      · exact .step ⟨.awaitingHeader, alike.inbound_eq, offered, alike.isCancelled_eq⟩
      · split
        · exact .step ⟨.replying (by simp [length_eq]), alike.inbound_eq, offered,
            alike.isCancelled_eq⟩
        · exact .wait

/-- Connections that are alike are so after a step of each, whenever they take it. -/
theorem step (ignores : service.registry.IgnoresBackend) (alike : connection.Alike other)
    (stepped : connection.step service now shared = some (next, after))
    (other_stepped : other.step service later otherShared = some (otherNext, otherAfter)) :
    next.Alike otherNext := by
  have phases := alike.phase
  simp only [Connection.step, ← alike.isCancelled_eq] at stepped other_stepped
  generalize connection.phase = phase at phases stepped
  generalize other.phase = otherPhase at phases other_stepped
  cases phases with
  | awaitingHeader =>
      dsimp only at stepped other_stepped
      split at stepped
      · rename_i cancelled
        rw [if_pos cancelled] at other_stepped
        cases stepped
        cases other_stepped
        exact alike.ended _
      · rename_i running
        rw [if_neg running] at other_stepped
        exact alike.takeHeader.withinOptional (alike.ended _) stepped other_stepped
  | awaitingBody =>
      dsimp only at stepped other_stepped
      split at stepped
      · rename_i cancelled
        rw [if_pos cancelled] at other_stepped
        cases stepped
        cases other_stepped
        exact alike.ended _
      · rename_i running
        rw [if_neg running] at other_stepped
        have goAlike : GoAlike (some (next, after)) (some (otherNext, otherAfter)) := by
          rw [← stepped, ← other_stepped]
          exact alike.readBody
        exact goAlike.alike
  | @dispatching header body =>
      have next_eq := congrArg Prod.fst (Option.some.inj stepped)
      have other_eq := congrArg Prod.fst (Option.some.inj other_stepped)
      dsimp only at next_eq other_eq
      rw [← next_eq, ← other_eq]
      exact alike.dispatch ignores header body
  | replying length_eq => exact (alike.put length_eq).within (alike.ended _) stepped other_stepped
  | closed => cases stepped

end Alike

/-- The time at which the wait of a connection is over, if it has a limit. -/
def deadline (service : Service Backend) (connection : Connection) : Nat :=
  match connection.phase with
  | .awaitingHeader _ since => since + service.idleTimeout
  | .replying _ _ since => since + service.writeTimeout
  | _ => 0

/-- Where a connection can take a step, one that is alike can do so in the end. -/
theorem Alike.isSome_step {service : Service Backend} {connection other : Connection}
    {shared otherShared : SharedState Backend} {now later : Nat} (alike : connection.Alike other)
    (late : other.deadline service ≤ later)
    (steps : (connection.step service now shared).isSome = true) :
    (other.step service later otherShared).isSome = true := by
  have phases := alike.phase
  simp only [Connection.step, deadline, ← alike.isCancelled_eq] at steps late ⊢
  generalize connection.phase = phase at phases steps
  generalize other.phase = otherPhase at phases late ⊢
  cases phases with
  | awaitingHeader =>
      dsimp only at steps late ⊢
      split
      · rfl
      · rename_i running
        rw [if_neg running] at steps
        exact alike.takeHeader.isSome_withinOptional late steps
  | awaitingBody =>
      dsimp only at steps ⊢
      split
      · rfl
      · rename_i running
        rw [if_neg running] at steps
        exact alike.readBody.isSome_eq.symm.trans steps
  | dispatching => rfl
  | replying _ =>
      simp only [Connection.writeReply, Deadline.within]
      split
      · rfl
      · rw [if_pos late]
        rfl
  | closed => cases steps

end Connection

/-! ### Logs -/

/-- Whether two logs tell the same but for the bytes of replies. -/
structure Deed.Alike (log other : List (Deed Backend)) : Prop where
  stream_eq : stream log = stream other
  frames_eq : frames log = frames other
  sizes_eq : sizes log = sizes other
  length_eq : (received log).length = (received other).length

namespace Deed.Alike

variable {log other more others : List (Deed Backend)}

theorem append (alike : Deed.Alike log other) (afterwards : Deed.Alike more others) :
    Deed.Alike (log ++ more) (other ++ others) where
  stream_eq := by rw [stream_append, stream_append, alike.stream_eq, afterwards.stream_eq]
  frames_eq := by rw [frames_append, frames_append, alike.frames_eq, afterwards.frames_eq]
  sizes_eq := by rw [sizes_append, sizes_append, alike.sizes_eq, afterwards.sizes_eq]
  length_eq := by
    rw [received_append, received_append, List.length_append, List.length_append,
      alike.length_eq, afterwards.length_eq]

theorem rfl : Deed.Alike log log := ⟨.refl _, .refl _, .refl _, .refl _⟩

end Deed.Alike

namespace Connection

variable {service : Service Backend} {connection other next otherNext : Connection}
  {shared after otherShared otherAfter : SharedState Backend} {now later : Nat}

theorem Alike.completed?_eq (alike : connection.Alike other) :
    connection.completed? = other.completed? := by
  have phases := alike.phase
  simp only [completed?, alike.inbound_eq, alike.isCancelled_eq]
  generalize connection.phase = phase at phases ⊢
  generalize other.phase = otherPhase at phases ⊢
  cases phases <;> rfl

theorem frames_deeds (service : Service Backend) (shared : SharedState Backend)
    (connection next : Connection) :
    frames (connection.deeds service shared next) = connection.completed?.toList := by
  have unread : frames (connection.writeDeeds next : List (Deed Backend)) = [] := by
    simp only [writeDeeds]
    split <;> simp
  simp only [Connection.deeds, frames_append, unread]
  cases connection.completed? <;> cases connection.phase.current? <;>
    cases next.phase.outcome? <;> simp

theorem sizes_deeds (service : Service Backend) (shared : SharedState Backend)
    (connection next : Connection) :
    sizes (connection.deeds service shared next) =
      match connection.phase, next.phase with
      | .replying _ size _, .awaitingHeader _ _ => [size]
      | _, _ => [] := by
  have unread : sizes (connection.completed?.toList.map .read : List (Deed Backend)) = [] := by
    cases connection.completed? <;> simp
  have unanswered : sizes (connection.phase.current?.toList.map fun frame =>
      (.answered (receipt service shared frame) : Deed Backend)) = [] := by
    cases connection.phase.current? <;> simp
  have unended : sizes (next.phase.outcome?.toList.map .ended : List (Deed Backend)) = [] := by
    cases next.phase.outcome? <;> simp
  rw [Connection.deeds, sizes_append, sizes_append, sizes_append, unread, unanswered, unended,
    writeDeeds]
  cases connection.phase <;> cases next.phase <;> simp

theorem Alike.deeds (alike : connection.Alike other) (afterwards : next.Alike otherNext)
    (stepped : connection.step service now shared = some (next, after))
    (other_stepped : other.step service later otherShared = some (otherNext, otherAfter)) :
    Deed.Alike (connection.deeds service shared next)
      (other.deeds service otherShared otherNext) where
  stream_eq := by rw [(does_of_step stepped).stream_eq, (does_of_step other_stepped).stream_eq]
  frames_eq := by rw [frames_deeds, frames_deeds, alike.completed?_eq]
  sizes_eq := by
    have phases := alike.phase
    have next_phases := afterwards.phase
    rw [sizes_deeds, sizes_deeds]
    generalize connection.phase = phase at phases ⊢
    generalize other.phase = otherPhase at phases ⊢
    generalize next.phase = nextPhase at next_phases ⊢
    generalize otherNext.phase = otherNextPhase at next_phases ⊢
    cases phases <;> cases next_phases <;> rfl
  length_eq := by
    rw [(does_of_step stepped).received_eq, (does_of_step other_stepped).received_eq]

end Connection

namespace Socket

/-- An action but for the time at which it happens. -/
def Action.untimed : Action → Action
  | .arrive _ => .arrive 0
  | .advance _ => .advance 0
  | action => action

structure Alike (socket other : Socket) : Prop where
  stage_eq : socket.stage = other.stage
  connection : socket.connection.Alike other.connection

variable {service : Service Backend} {socket other next otherNext : Socket}
  {action otherAction : Action} {actions otherActions : List Action}
  {log otherLog deeds otherDeeds : List (Deed Backend)}

theorem alike_start (identifier otherIdentifier capacity since otherSince : Nat) :
    (Socket.start identifier capacity since).Alike
      (Socket.start otherIdentifier capacity otherSince) where
  stage_eq := rfl
  connection := ⟨.awaitingHeader, rfl, ⟨rfl, rfl, rfl, rfl, rfl⟩, rfl⟩

theorem Turn.alike (ignores : service.registry.IgnoresBackend) (alike : socket.Alike other)
    (turn : socket.Turn service action deeds next)
    (other_turn : other.Turn service otherAction otherDeeds otherNext)
    (same : action.untimed = otherAction.untimed) :
    next.Alike otherNext ∧ Deed.Alike deeds otherDeeds := by
  rcases alike with ⟨stage_eq, alike⟩
  rcases alike with ⟨phase, inbound_eq, outbound, isCancelled_eq⟩
  cases turn with
  | enter _ =>
      cases other_turn with
      | enter _ => exact ⟨⟨.refl _, phase, inbound_eq, outbound, isCancelled_eq⟩, .rfl⟩
      | _ => cases same
  | advance _ stepped =>
      cases other_turn with
      | advance _ other_stepped =>
          have alike : socket.connection.Alike other.connection :=
            ⟨phase, inbound_eq, outbound, isCancelled_eq⟩
          have afterwards := alike.step ignores stepped other_stepped
          exact ⟨⟨stage_eq, afterwards⟩, alike.deeds afterwards stepped other_stepped⟩
      | _ => cases same
  | send sent =>
      cases other_turn with
      | send other_sent =>
          cases same
          rcases Server.of_sent sent with ⟨_, rfl⟩
          rcases Server.of_sent other_sent with ⟨_, rfl⟩
          refine ⟨⟨stage_eq, phase, ?_, outbound, isCancelled_eq⟩, .rfl⟩
          simp only [inbound_eq]
      | _ => cases same
  | receive size =>
      cases other_turn with
      | receive _ =>
          cases same
          refine ⟨⟨stage_eq, phase, inbound_eq, outbound.skip size, isCancelled_eq⟩, ?_⟩
          exact ⟨rfl, rfl, rfl, by simp [outbound.length_eq]⟩
      | _ => cases same
  | finish =>
      cases other_turn with
      | finish =>
          refine ⟨⟨stage_eq, phase, ?_, outbound, isCancelled_eq⟩, .rfl⟩
          exact congrArg Pipe.finish inbound_eq
      | _ => cases same
  | lose =>
      cases other_turn with
      | lose =>
          refine ⟨⟨stage_eq, phase, ?_, outbound.abandon, isCancelled_eq⟩, .rfl⟩
          exact congrArg Pipe.finish inbound_eq
      | _ => cases same
  | failInbound fault =>
      cases other_turn with
      | failInbound _ =>
          cases same
          refine ⟨⟨stage_eq, phase, ?_, outbound, isCancelled_eq⟩, .rfl⟩
          exact congrArg (Pipe.fail · fault) inbound_eq
      | _ => cases same
  | failOutbound fault =>
      cases other_turn with
      | failOutbound _ =>
          cases same
          exact ⟨⟨stage_eq, phase, inbound_eq, outbound.fail fault, isCancelled_eq⟩, .rfl⟩
      | _ => cases same
  | cancel =>
      cases other_turn with
      | cancel => exact ⟨⟨stage_eq, phase, inbound_eq, outbound, rfl⟩, .rfl⟩
      | _ => cases same
  | leave _ =>
      cases other_turn with
      | leave _ =>
          refine ⟨⟨.refl _, phase, ?_, outbound.finish, isCancelled_eq⟩, .rfl⟩
          exact congrArg Pipe.abandon inbound_eq
      | _ => cases same

/-- Two lives with the same actions but for their times go side by side. -/
theorem Life.alike (ignores : service.registry.IgnoresBackend) (alike : socket.Alike other)
    (life : socket.Life service actions log next)
    (other_life : other.Life service otherActions otherLog otherNext)
    (same : actions.map Action.untimed = otherActions.map Action.untimed) :
    next.Alike otherNext ∧ Deed.Alike log otherLog := by
  induction life generalizing otherActions otherLog otherNext with
  | start =>
      cases other_life with
      | start => exact ⟨alike, .rfl⟩
      | turn _ _ => simp at same
  | turn _ turn ih =>
      cases other_life with
      | start => simp at same
      | turn other_life other_turn =>
          simp only [List.map_append, List.map_cons, List.map_nil] at same
          rcases List.append_inj' same rfl with ⟨earlier, last⟩
          rcases ih other_life earlier with ⟨alike, alike_log⟩
          rcases turn.alike ignores alike other_turn (by simpa using last) with
            ⟨afterwards, alike_deeds⟩
          exact ⟨afterwards, alike_log.append alike_deeds⟩

end Socket

end DocumentProtocol
