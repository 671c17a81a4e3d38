import DocumentProtocol.Deadline
import DocumentProtocol.Session.Pipe
import DocumentProtocol.Session.Service

/-!
# Connections

A connection serves one client over two pipes, one request at a time: it waits for a header, then
for the body that the header announces, answers the message, and writes the reply before it waits
for the next header. `Connection.step` is a piece of this in which the connection does not wait:
taking in what has arrived, answering a message that has been read, or writing as much of a reply as
the pipe takes. It has no result when the connection can only wait or has ended.

A message is counted when its last byte has been taken in, and answered by a step of its own, so
that other connections may be served in between and a responder may fail to come back at all.

A connection that is told to stop notices it when it would read, never while it writes a reply. The
limit on idleness runs from the moment at which a header is awaited, the limit on writing from the
moment at which the reply was ready; both are looked at only when nothing else can be done.

Each step lowers `Connection.work`, a triple in lexicographic order, so that a connection always
comes to a point where it waits.
-/

namespace DocumentProtocol

/-- What a connection is doing. -/
inductive Phase where
  /-- Waiting for the rest of a header since some time. -/
  | awaitingHeader (received : Bytes) (since : Nat)
  /-- Waiting for the rest of the body that a header announces. -/
  | awaitingBody (header : Header) (received : Bytes)
  /-- Answering a message that has been read to its last byte. -/
  | dispatching (header : Header) (body : Bytes)
  /-- Writing the rest of a reply of some size since some time. -/
  | replying (pending : Bytes) (size since : Nat)
  | closed (outcome : Except ProtocolError Unit)

namespace Phase

def name : Phase → String
  | awaitingHeader _ _ => "AwaitingHeader"
  | awaitingBody _ _ => "AwaitingBody"
  | dispatching _ _ => "Dispatching"
  | replying _ _ _ => "Replying"
  | closed _ => "Closed"

def outcome? : Phase → Option (Except ProtocolError Unit)
  | closed outcome => some outcome
  | _ => none

def isDispatching : Phase → Bool
  | dispatching _ _ => true
  | _ => false

def received : Phase → Bytes
  | awaitingHeader received _ => received
  | awaitingBody _ received => received
  | _ => []

def pending : Phase → Bytes
  | replying pending _ _ => pending
  | _ => []

def rank : Phase → Nat
  | awaitingBody _ _ => 4
  | dispatching _ _ => 3
  | replying _ _ _ => 2
  | awaitingHeader _ _ => 1
  | closed _ => 0

end Phase

/-- One client's connection. -/
structure Connection where
  phase : Phase
  inbound : Pipe
  outbound : Pipe
  isCancelled : Bool := false

namespace Connection

variable {Backend : Type}

def start (capacity now : Nat) : Connection where
  phase := .awaitingHeader [] now
  inbound := { capacity := capacity }
  outbound := { capacity := capacity }

def endingEvent? (error : ProtocolError) : Option Metrics.Event :=
  match error with
  | .cancelled => none
  | .connectionClosed => none
  | .timeout => none
  | _ => some .protocolError

/-- The outcome of a connection that ends with an error: being told to stop is no failure. -/
def outcomeOf (error : ProtocolError) : Except ProtocolError Unit :=
  match error with
  | .cancelled => .ok ()
  | error => .error error

/-- Ends a connection: nothing more is read or written. -/
def close (connection : Connection) (error : ProtocolError) (shared : SharedState Backend) :
    Connection × SharedState Backend :=
  ({ connection with
      phase := .closed (outcomeOf error)
      inbound := connection.inbound.abandon
      outbound := connection.outbound.finish },
   match endingEvent? error with
   | some event => shared.count event
   | none => shared)

/-- Goes on after a header is complete. -/
def acceptHeader (service : Service Backend) (connection : Connection) (bytes : Bytes)
    (shared : SharedState Backend) : Connection × SharedState Backend :=
  let header := Header.ofBytes bytes
  match header.bodyLength service.maxMessageSize with
  | .error error => connection.close error shared
  | .ok _ => ({ connection with phase := .awaitingBody header [] }, shared)

/-- Goes on after a body is complete. -/
def acceptBody (connection : Connection) (header : Header) (body : Bytes)
    (shared : SharedState Backend) : Connection × SharedState Backend :=
  ({ connection with phase := .dispatching header body },
   shared.count (.requestReceived header.length.toInt.toNat))

/-- Takes in what there is of so many bytes: `keep` is the phase in which some of them are there. -/
def take (connection : Connection) (received : Bytes) (size : Nat) (keep : Bytes → Phase)
    (accept : Connection → Bytes → SharedState Backend → Connection × SharedState Backend)
    (shared : SharedState Backend) : Option (Connection × SharedState Backend) :=
  match connection.inbound.read received size with
  | (.complete bytes, inbound) => some (accept { connection with inbound := inbound } bytes shared)
  | (.part bytes, inbound) =>
      some ({ connection with phase := keep bytes, inbound := inbound }, shared)
  | (.failed fault, _) => some (connection.close fault.toError shared)
  | (.pending, _) => none

def readHeader (service : Service Backend) (now : Nat) (connection : Connection)
    (received : Bytes) (since : Nat) (shared : SharedState Backend) :
    Option (Connection × SharedState Backend) :=
  Deadline.withinOptional service.idleTimeout since now (connection.close .timeout shared)
    (connection.take received Header.size (fun bytes => .awaitingHeader bytes since)
      (acceptHeader service) shared)

def readBody (connection : Connection) (header : Header) (received : Bytes)
    (shared : SharedState Backend) : Option (Connection × SharedState Backend) :=
  connection.take received (header.length.toInt.toNat - Header.size)
    (fun bytes => .awaitingBody header bytes)
    (fun connection body shared => connection.acceptBody header body shared) shared

/-- Answers a message that has been read. -/
def dispatch (service : Service Backend) (now : Nat) (connection : Connection) (header : Header)
    (body : Bytes) (shared : SharedState Backend) : Connection × SharedState Backend :=
  match service.answer header body shared with
  | (.error error, shared) => connection.close error shared
  | (.ok none, shared) => ({ connection with phase := .awaitingHeader [] now }, shared)
  | (.ok (some reply), shared) =>
      ({ connection with phase := .replying reply.bytes reply.size now }, shared)

/-- Writes as much of a reply as the pipe takes. -/
def put (now : Nat) (connection : Connection) (pending : Bytes) (size since : Nat)
    (shared : SharedState Backend) : Option (Connection × SharedState Backend) :=
  match connection.outbound.writeFault? with
  | some fault => some (connection.close fault.toError shared)
  | none =>
      let (outbound, rest) := connection.outbound.offer pending
      if rest = [] then
        some ({ connection with phase := .awaitingHeader [] now, outbound := outbound },
          shared.count (.replySent size))
      else if rest.length < pending.length then
        some ({ connection with phase := .replying rest size since, outbound := outbound }, shared)
      else none

def writeReply (service : Service Backend) (now : Nat) (connection : Connection)
    (pending : Bytes) (size since : Nat) (shared : SharedState Backend) :
    Option (Connection × SharedState Backend) :=
  Deadline.within service.writeTimeout since now (connection.close .timeout shared)
    (connection.put now pending size since shared)

/-- The next step of a connection at some time, unless it waits or has ended. -/
def step (service : Service Backend) (now : Nat) (connection : Connection)
    (shared : SharedState Backend) : Option (Connection × SharedState Backend) :=
  match connection.phase with
  | .awaitingHeader received since =>
      if connection.isCancelled then some (connection.close .cancelled shared)
      else connection.readHeader service now received since shared
  | .awaitingBody header received =>
      if connection.isCancelled then some (connection.close .cancelled shared)
      else connection.readBody header received shared
  | .dispatching header body => some (connection.dispatch service now header body shared)
  | .replying pending size since => connection.writeReply service now pending size since shared
  | .closed _ => none

def cancel (connection : Connection) : Connection := { connection with isCancelled := true }

/-! ### The client's side -/

def finishInbound (connection : Connection) : Connection :=
  { connection with inbound := connection.inbound.finish }

def loseClient (connection : Connection) : Connection :=
  { connection with
    inbound := connection.inbound.finish
    outbound := connection.outbound.abandon }

def failInbound (connection : Connection) (fault : StreamFault) : Connection :=
  { connection with inbound := connection.inbound.fail fault }

def failOutbound (connection : Connection) (fault : StreamFault) : Connection :=
  { connection with outbound := connection.outbound.fail fault }

/-- The connection after it has been dropped in the middle of whatever it was doing. -/
def abort (connection : Connection) : Connection :=
  { connection with
    inbound := connection.inbound.abandon
    outbound := connection.outbound.finish }

/-! ### Every connection comes to wait -/

/-- The number of bytes that have been sent to a connection and belong to no answered message. -/
def unread (connection : Connection) : Nat :=
  connection.phase.received.length + connection.inbound.content.length

/-- The number of bytes that one step can move. -/
def movable (connection : Connection) : Nat :=
  connection.inbound.content.length + connection.phase.pending.length

/-- What a connection has left to do before it must wait. -/
def work (connection : Connection) : Nat × Nat × Nat :=
  (connection.unread, connection.phase.rank, connection.movable)

def Before : Nat × Nat × Nat → Nat × Nat × Nat → Prop :=
  Prod.Lex (· < ·) (Prod.Lex (· < ·) (· < ·))

theorem before_of {first second : Nat × Nat × Nat}
    (ordered : first.1 < second.1 ∨ first.1 = second.1 ∧
      (first.2.1 < second.2.1 ∨ first.2.1 = second.2.1 ∧ first.2.2 < second.2.2)) :
    Before first second := by
  rcases first with ⟨a, b, c⟩
  rcases second with ⟨d, e, f⟩
  simp only at ordered
  rcases ordered with less | ⟨rfl, less | ⟨rfl, less⟩⟩
  · exact .left _ _ less
  · exact .right _ (.left _ _ less)
  · exact .right _ (.right _ less)

theorem unread_close (connection : Connection) (error : ProtocolError)
    (shared : SharedState Backend) : (connection.close error shared).1.unread = 0 := by
  simp [close, unread, Phase.received, Pipe.abandon]

theorem rank_close (connection : Connection) (error : ProtocolError)
    (shared : SharedState Backend) : (connection.close error shared).1.phase.rank = 0 := by
  simp [close, Phase.rank]

theorem work_close (connection : Connection) (error : ProtocolError)
    (shared : SharedState Backend) (unended : 0 < connection.phase.rank) :
    Before (connection.close error shared).1.work connection.work := by
  refine before_of ?_
  simp only [work, unread_close, rank_close]
  omega

theorem before_of_result {connection next : Connection} {after : SharedState Backend}
    {result : Connection × SharedState Backend} (lowers : Before result.1.work connection.work)
    (result_eq : result = (next, after)) : Before next.work connection.work := by
  subst result_eq
  exact lowers

theorem work_acceptHeader (service : Service Backend) (connection earlier : Connection)
    (bytes : Bytes) (shared : SharedState Backend)
    (less : connection.inbound.content.length < earlier.unread) :
    Before (connection.acceptHeader service bytes shared).1.work earlier.work := by
  refine before_of (.inl ?_)
  unfold acceptHeader
  dsimp only
  split
  · simp only [work, unread_close]
    omega
  · simpa [work, unread, Phase.received] using less

theorem work_acceptBody (connection earlier : Connection) (header : Header) (body : Bytes)
    (shared : SharedState Backend) (atMost : connection.inbound.content.length ≤ earlier.unread)
    (waiting : earlier.phase.rank = 4) :
    Before (connection.acceptBody header body shared).1.work earlier.work := by
  have lower : (connection.acceptBody header body shared).1.unread ≤ earlier.unread := by
    simpa [acceptBody, unread, Phase.received] using atMost
  have rank_eq : (connection.acceptBody header body shared).1.phase.rank = 3 := rfl
  refine before_of ?_
  simp only [work]
  omega

/-- Taking in bytes lowers the work if going on with all of them does. -/
theorem work_take {connection next : Connection} {received : Bytes} {size : Nat}
    {keep : Bytes → Phase}
    {accept : Connection → Bytes → SharedState Backend → Connection × SharedState Backend}
    {shared after : SharedState Backend} (waiting : 0 < connection.phase.rank)
    (received_eq : connection.phase.received = received)
    (kept : ∀ bytes, (keep bytes).rank = connection.phase.rank ∧
      (keep bytes).received = bytes ∧ (keep bytes).pending = [])
    (accepts : ∀ bytes inbound, connection.inbound.Finds received size (.complete bytes) inbound →
      Before (accept { connection with inbound := inbound } bytes shared).1.work connection.work)
    (taken : connection.take received size keep accept shared = some (next, after)) :
    Before next.work connection.work := by
  unfold take at taken
  split at taken
  · rename_i bytes inbound found
    exact before_of_result (accepts bytes inbound (Pipe.finds_of_read found))
      (Option.some.inj taken)
  · rename_i bytes inbound found
    simp only [Option.some.injEq, Prod.mk.injEq] at taken
    rcases taken with ⟨rfl, rfl⟩
    rcases kept bytes with ⟨rank_eq, bytes_eq, pending_eq⟩
    cases Pipe.finds_of_read found with
    | part _ _ present =>
        have some_present := List.length_pos_iff.2 present
        refine before_of (.inr ⟨?_, .inr ⟨rank_eq, ?_⟩⟩)
        · simp [work, unread, bytes_eq, received_eq, Pipe.skip]
        · simp only [work, movable, pending_eq, Pipe.skip, List.drop_length, List.length_nil]
          omega
  · exact before_of_result (work_close _ _ _ waiting) (Option.some.inj taken)
  · cases taken

theorem work_readHeader {service : Service Backend} {now : Nat} {connection next : Connection}
    {received : Bytes} {since : Nat} {shared after : SharedState Backend}
    (phase : connection.phase = .awaitingHeader received since)
    (stepped : connection.readHeader service now received since shared = some (next, after)) :
    Before next.work connection.work := by
  have waiting : 0 < connection.phase.rank := by simp [phase, Phase.rank]
  rcases Deadline.withinOptional_eq_some_iff.1 stepped with taken | ⟨_, _, late⟩
  · refine work_take waiting (by rw [phase, Phase.received]) ?_ ?_ taken
    · intro bytes
      simp [phase, Phase.rank, Phase.received, Phase.pending]
    · intro bytes inbound finds
      cases finds with
      | complete _ enough =>
          apply work_acceptHeader
          simp only [List.length_append, Header.size] at enough
          simp only [Pipe.skip, unread, phase, Phase.received, List.length_drop, Header.size]
          omega
  · exact before_of_result (work_close _ _ _ waiting) late

theorem work_readBody {connection next : Connection} {header : Header} {received : Bytes}
    {shared after : SharedState Backend}
    (phase : connection.phase = .awaitingBody header received)
    (stepped : connection.readBody header received shared = some (next, after)) :
    Before next.work connection.work := by
  have waiting : connection.phase.rank = 4 := by simp [phase, Phase.rank]
  refine work_take (by omega) (by rw [phase, Phase.received]) ?_ ?_ stepped
  · intro bytes
    simp [phase, Phase.rank, Phase.received, Phase.pending]
  · intro bytes inbound finds
    refine work_acceptBody _ _ _ _ _ ?_ waiting
    cases finds with
    | complete _ _ =>
        simp only [Pipe.skip, unread, phase, Phase.received, List.length_drop]
        omega

theorem work_dispatch {service : Service Backend} {now : Nat} {connection : Connection}
    {header : Header} {body : Bytes} {shared : SharedState Backend}
    (phase : connection.phase = .dispatching header body) :
    Before (connection.dispatch service now header body shared).1.work connection.work := by
  have ranked : connection.phase.rank = 3 := by simp [phase, Phase.rank]
  have lower :
      (connection.dispatch service now header body shared).1.unread ≤ connection.unread ∧
        (connection.dispatch service now header body shared).1.phase.rank < 3 := by
    unfold dispatch
    split
    · simp [unread_close, rank_close]
    · simp [unread, phase, Phase.received, Phase.rank]
    · simp [unread, phase, Phase.received, Phase.rank]
  refine before_of ?_
  simp only [work]
  omega

theorem work_put {now : Nat} {connection next : Connection} {pending : Bytes} {size since : Nat}
    {shared after : SharedState Backend} (phase : connection.phase = .replying pending size since)
    (written : connection.put now pending size since shared = some (next, after)) :
    Before next.work connection.work := by
  unfold put at written
  split at written
  · exact before_of_result (work_close _ _ _ (by simp [phase, Phase.rank]))
      (Option.some.inj written)
  · dsimp only at written
    split at written
    · simp only [Option.some.injEq, Prod.mk.injEq] at written
      rcases written with ⟨rfl, rfl⟩
      refine before_of (.inr ⟨?_, .inl ?_⟩)
      · simp [work, unread, phase, Phase.received]
      · simp [work, phase, Phase.rank]
    · split at written
      · rename_i less
        simp only [Option.some.injEq, Prod.mk.injEq] at written
        rcases written with ⟨rfl, rfl⟩
        refine before_of (.inr ⟨?_, .inr ⟨?_, ?_⟩⟩)
        · simp [work, unread, phase, Phase.received]
        · simp [work, phase, Phase.rank]
        · simp only [work, movable, phase, Phase.pending]
          omega
      · cases written

theorem work_writeReply {service : Service Backend} {now : Nat} {connection next : Connection}
    {pending : Bytes} {size since : Nat} {shared after : SharedState Backend}
    (phase : connection.phase = .replying pending size since)
    (stepped : connection.writeReply service now pending size since shared = some (next, after)) :
    Before next.work connection.work := by
  rcases Deadline.within_eq_some_iff.1 stepped with written | ⟨_, _, late⟩
  · exact work_put phase written
  · exact before_of_result (work_close _ _ _ (by simp [phase, Phase.rank])) late

/-- Each step lowers the work of a connection. -/
theorem work_step {service : Service Backend} {now : Nat} {connection next : Connection}
    {shared after : SharedState Backend}
    (stepped : connection.step service now shared = some (next, after)) :
    Before next.work connection.work := by
  have closing (waiting : 0 < connection.phase.rank)
      (closed : some (connection.close .cancelled shared) = some (next, after)) :
      Before next.work connection.work := by
    exact before_of_result (work_close _ _ _ waiting) (Option.some.inj closed)
  unfold step at stepped
  split at stepped
  · rename_i received since phase
    split at stepped
    · exact closing (by simp [phase, Phase.rank]) stepped
    · exact work_readHeader phase stepped
  · rename_i header received phase
    split at stepped
    · exact closing (by simp [phase, Phase.rank]) stepped
    · exact work_readBody phase stepped
  · rename_i header body phase
    exact before_of_result (work_dispatch phase) (Option.some.inj stepped)
  · rename_i pending size since phase
    exact work_writeReply phase stepped
  · cases stepped

/-- The connection at the point where it waits or has ended. -/
def run (service : Service Backend) (now : Nat) (connection : Connection)
    (shared : SharedState Backend) : Connection × SharedState Backend :=
  match stepped : connection.step service now shared with
  | none => (connection, shared)
  | some (next, after) =>
      have := work_step stepped
      run service now next after
termination_by connection.work
decreasing_by exact this

end Connection

end DocumentProtocol
