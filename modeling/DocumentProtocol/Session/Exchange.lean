import DocumentProtocol.Session.Connection

/-!
# A connection and its client

An exchange is a connection together with the client's ends of its pipes and a clock. The client has
an outbox of bytes to send and an inbox of bytes it has received. `Exchange.settle` lets everything
happen that can happen without the clock: the connection does what it can, the client takes in what
has been written to it, unless it holds back, and more of the outbox goes into the pipe.

Between two settlings the client or the server does one thing: the client wants to send bytes, it
finishes sending, it leaves, time passes, or the connection is told to stop.
-/

namespace DocumentProtocol

/-- A connection and its client. -/
structure Exchange where
  connection : Connection
  /-- What the client wants to send and the pipe has not taken in. -/
  outbox : Bytes := []
  /-- What the client has received. -/
  inbox : Bytes := []
  now : Nat := 0
  /-- Whether the client takes in what is written to it. -/
  isReading : Bool := true
  hasLeft : Bool := false

namespace Exchange

variable {Backend : Type}

def start (capacity : Nat) : Exchange := { connection := Connection.start capacity 0 }

def receive (exchange : Exchange) : Exchange :=
  { exchange with
    connection := { exchange.connection with outbound := exchange.connection.outbound.drain }
    inbox := exchange.inbox ++ exchange.connection.outbound.content }

def transmit (exchange : Exchange) : Exchange :=
  let (inbound, rest) := exchange.connection.inbound.offer exchange.outbox
  { exchange with
    connection := { exchange.connection with inbound := inbound }
    outbox := rest }

def canReceive (exchange : Exchange) : Bool :=
  exchange.isReading && !exchange.connection.outbound.content.isEmpty

def canTransmit (exchange : Exchange) : Bool :=
  exchange.connection.inbound.isWritable && !exchange.outbox.isEmpty &&
    0 < exchange.connection.inbound.room

/-- The next thing that happens without the clock. The connection comes first. -/
def step (service : Service Backend) (exchange : Exchange) (shared : SharedState Backend) :
    Option (Exchange × SharedState Backend) :=
  match exchange.connection.step service exchange.now shared with
  | some (connection, shared) => some ({ exchange with connection := connection }, shared)
  | none =>
      if exchange.canReceive then some (exchange.receive, shared)
      else if exchange.canTransmit then some (exchange.transmit, shared)
      else none

/-- What is left to happen before only the clock can help. -/
def work (exchange : Exchange) : Nat × (Nat × Nat × Nat) × Nat :=
  (exchange.outbox.length, exchange.connection.work, exchange.connection.outbound.content.length)

def Before : Nat × (Nat × Nat × Nat) × Nat → Nat × (Nat × Nat × Nat) × Nat → Prop :=
  Prod.Lex (· < ·) (Prod.Lex Connection.Before (· < ·))

/-- Each step lowers the work of an exchange. -/
theorem work_step {service : Service Backend} {exchange next : Exchange}
    {shared after : SharedState Backend}
    (stepped : exchange.step service shared = some (next, after)) :
    Before next.work exchange.work := by
  unfold step at stepped
  split at stepped
  · rename_i connection state moved
    simp only [Option.some.injEq, Prod.mk.injEq] at stepped
    rcases stepped with ⟨rfl, rfl⟩
    exact .right _ (.left _ _ (Connection.work_step moved))
  · split at stepped
    · rename_i allowed
      simp only [Option.some.injEq, Prod.mk.injEq] at stepped
      rcases stepped with ⟨rfl, rfl⟩
      simp only [canReceive, Bool.and_eq_true, Bool.not_eq_true', List.isEmpty_eq_false_iff]
        at allowed
      refine .right _ (.right _ ?_)
      simpa [receive, Pipe.drain] using List.length_pos_iff.2 allowed.2
    · split at stepped
      · rename_i allowed
        simp only [Option.some.injEq, Prod.mk.injEq] at stepped
        rcases stepped with ⟨rfl, rfl⟩
        simp only [canTransmit, Bool.and_eq_true, Bool.not_eq_true', List.isEmpty_eq_false_iff,
          decide_eq_true_eq] at allowed
        refine .left _ _ ?_
        have present := List.length_pos_iff.2 allowed.1.2
        simp only [transmit, Pipe.offer, List.length_drop]
        omega
      · simp at stepped

/-- The exchange when nothing more happens without the clock. -/
def settle (service : Service Backend) (exchange : Exchange) (shared : SharedState Backend) :
    Exchange × SharedState Backend :=
  match stepped : exchange.step service shared with
  | none => (exchange, shared)
  | some (next, after) =>
      have := work_step stepped
      settle service next after
termination_by exchange.work
decreasing_by exact this

/-- What the client or the server does between two settlings. -/
inductive Action where
  | send (bytes : Bytes)
  | wait
  | sleep (duration : Nat)
  | cancel
  | finish
  | leave
  deriving DecidableEq, Repr

def perform (exchange : Exchange) : Action → Exchange
  | .send bytes => { exchange with outbox := bytes }
  | .wait => exchange
  | .sleep duration => { exchange with now := exchange.now + duration }
  | .cancel => { exchange with connection := exchange.connection.cancel }
  | .finish => { exchange with connection := exchange.connection.finishInbound }
  | .leave => { exchange with connection := exchange.connection.loseClient, hasLeft := true }

def hasEnded (exchange : Exchange) : Bool :=
  !exchange.hasLeft && exchange.isReading && exchange.connection.outbound.isExhausted

/-- What comes of an action. -/
structure Report where
  received : Bytes
  hasEnded : Bool
  unsent : Bytes
  outcome : Option (Except ProtocolError Unit)

/-- Performs an action and settles; the client receives if it is reading. -/
def act (service : Service Backend) (exchange : Exchange) (action : Action) (isReading : Bool)
    (shared : SharedState Backend) : Report × Exchange × SharedState Backend :=
  let started := { exchange.perform action with inbox := [], isReading := isReading }
  let (settled, shared) := started.settle service shared
  (⟨settled.inbox, settled.hasEnded, settled.outbox, settled.connection.phase.outcome?⟩,
   { settled with outbox := [] }, shared)

end Exchange

end DocumentProtocol
