import DocumentProtocol.Session.Exchange

/-!
# Servers

A server accepts sockets one after the other and serves each as a connection, in a task of its own.
Every connection needs one of a fixed number of permits; a socket that finds none left is refused. A
connection takes its permit first and is counted as active after that, and when its task comes to an
end, for whatever reason, it is counted out first and gives its permit back after that. So a permit
is held for every connection that is counted.

`Server.step` makes one thing happen to the server or on one of its connections, in any order that
the outside world chooses, and `Server.Steps` lists everything that this can be. A connection works
on the state that all of them share only in its own steps, so whatever two connections do, they do
one after the other.

The server itself goes round in a loop, and its `Stance` says where: it looks whether it has been
told to stop, then for tasks that have finished, then for a socket. It may be told to stop at any
moment, and its connections are told at the same time; a socket that it was about to accept still
becomes a connection, one that has been told to stop from the beginning. Once the server notices, it
leaves the loop and waits for the tasks. When they take longer than the limit on its shutdown it
aborts those that are left, and it returns when there is none.
-/

namespace DocumentProtocol

/-- How far an accepted connection has come. -/
inductive Stage where
  /-- It holds a permit and is not yet counted. -/
  | admitted
  /-- It is counted and served. -/
  | active
  /-- It has ended and is no longer counted, but still holds its permit. -/
  | leaving
  deriving DecidableEq, Repr

/-- An accepted connection. -/
structure Socket where
  id : Nat
  stage : Stage
  connection : Connection

/-- How the task of a connection comes to its end. -/
inductive Departure where
  /-- The connection has ended. -/
  | ended
  /-- The task fails in the middle of what it does, as it does with a responder that fails. -/
  | panicked
  /-- The server has given up waiting for the task. -/
  | aborted
  deriving DecidableEq, Repr

/-- What a server does next. -/
inductive Stance where
  /-- It looks whether it has been told to stop. -/
  | checking
  /-- It looks for a task that has finished. -/
  | joining
  /-- It looks for a socket. -/
  | accepting
  /-- It counts a socket that has just taken its permit. -/
  | admitting
  /-- It counts that socket among the active ones as well, and starts its task. -/
  | entering
  /-- It waits for the tasks that are left, since some time. -/
  | draining (since : Nat)
  /-- It waits for the tasks that it has aborted. -/
  | aborting
  | returned
  deriving DecidableEq, Repr

/-- The stance of a server after it has joined a task that has finished, if it looks for one. -/
def Stance.joined? : Stance → Option Stance
  | joining => some checking
  | draining since => some (draining since)
  | aborting => some aborting
  | _ => none

/-- A server and its connections. -/
structure Server (Backend : Type) where
  service : Service Backend
  shared : SharedState Backend
  maxConnections : Nat
  capacity : Nat
  /-- How long the server waits for its connections once it has been told to stop. -/
  shutdownTimeout : Nat
  sockets : List Socket := []
  /-- The connections whose tasks have finished and are still to be joined. -/
  finished : List Nat := []
  /-- The number of sockets accepted so far, refused ones included. -/
  accepted : Nat := 0
  now : Nat := 0
  stance : Stance := .checking
  isCancelled : Bool := false

namespace Server

variable {Backend : Type}

def start (config : Config) (registry : Registry Backend) (backend : Backend) (capacity : Nat) :
    Server Backend where
  service := Service.ofConfig config registry
  shared := { backend := backend }
  maxConnections := config.server.maxConnections
  capacity := capacity
  shutdownTimeout := config.server.shutdownTimeout

/-- What can happen to a server. -/
inductive Event where
  /-- A socket comes in and takes a permit or is refused. -/
  | accept
  /-- The socket that took its permit last is counted. -/
  | tally
  /-- The socket that was counted last is counted as active, and its task begins. -/
  | enter
  /-- The server goes on to what it does next. -/
  | look
  /-- The server takes note of a task that has finished. -/
  | join (id : Nat)
  | advance (id : Nat)
  /-- The task of a connection comes to its end, and the connection is counted out. -/
  | leave (id : Nat) (departure : Departure)
  /-- A connection that was counted out gives its permit back, and its task has finished. -/
  | release (id : Nat)
  | send (id : Nat) (bytes : Bytes)
  | receive (id size : Nat)
  | finish (id : Nat)
  | lose (id : Nat)
  | failInbound (id : Nat) (fault : StreamFault)
  | failOutbound (id : Nat) (fault : StreamFault)
  | tick (duration : Nat)
  | stop
  deriving DecidableEq, Repr

/-- The number of permits that are held. -/
def permitsHeld (server : Server Backend) : Nat := server.sockets.length

def socket? (server : Server Backend) (id : Nat) : Option Socket :=
  server.sockets.find? fun socket => socket.id = id

def find? (server : Server Backend) (id : Nat) (stage : Stage) : Option Connection :=
  ((server.socket? id).filter fun socket => socket.stage = stage).map Socket.connection

def put (server : Server Backend) (id : Nat) (stage : Stage) (connection : Connection) :
    Server Backend :=
  { server with
    sockets := server.sockets.map fun socket =>
      if socket.id = id then ⟨id, stage, connection⟩ else socket }

def count (server : Server Backend) (event : Metrics.Event) : Server Backend :=
  { server with shared := server.shared.count event }

def accept (server : Server Backend) : Server Backend :=
  let accepted := { server with accepted := server.accepted + 1 }
  if server.permitsHeld < server.maxConnections then
    let connection := Connection.start server.capacity server.now
    let connection := { connection with isCancelled := server.isCancelled }
    { accepted with
      sockets := server.sockets ++ [⟨server.accepted, .admitted, connection⟩]
      stance := .admitting }
  else { accepted with stance := .checking }.count .connectionRejected

def tally (server : Server Backend) : Server Backend :=
  { server with stance := .entering }.count .connectionOpened

def enter (server : Server Backend) : Option (Server Backend) :=
  (server.sockets.find? fun socket => socket.stage = .admitted).map fun socket =>
    { server.put socket.id .active socket.connection with stance := .checking }.count
      .connectionActivated

/-- What a server that does not join a task or accept a socket goes on to, unless it must wait. -/
def look (server : Server Backend) : Option Stance :=
  match server.stance with
  | .checking => some (if server.isCancelled then .draining server.now else .joining)
  | .joining => if server.finished = [] then some .accepting else none
  | .accepting => some .checking
  | .draining since =>
      if server.finished = [] then
        Deadline.within server.shutdownTimeout since server.now .aborting
          (if server.sockets.isEmpty then some .returned else none)
      else none
  | .aborting => if server.finished = [] ∧ server.sockets.isEmpty then some .returned else none
  | _ => none

def join (server : Server Backend) (id : Nat) : Option (Server Backend) :=
  if id ∈ server.finished then
    server.stance.joined?.map fun stance =>
      { server with stance := stance, finished := server.finished.erase id }
  else none

/-- Whether the task of a connection can come to its end in some way. -/
def canLeave (server : Server Backend) (connection : Connection) : Departure → Bool
  | .ended => connection.phase.outcome?.isSome
  | .panicked => true
  -- An answer is worked out in one go: a task is never aborted in the middle of it.
  | .aborted => server.stance = .aborting && !connection.phase.isDispatching

def leave (server : Server Backend) (id : Nat) (departure : Departure) :
    Option (Server Backend) :=
  ((server.find? id .active).filter (server.canLeave · departure)).map fun connection =>
    (server.put id .leaving connection.abort).count .connectionClosed

def release (server : Server Backend) (id : Nat) : Option (Server Backend) :=
  (server.find? id .leaving).map fun _ =>
    { server with
      sockets := server.sockets.filter fun socket => socket.id ≠ id
      finished := server.finished ++ [id] }

def changed (server : Server Backend) (id : Nat)
    (change : Connection → Option Connection) : Option (Server Backend) := do
  let socket ← server.socket? id
  return server.put id socket.stage (← change socket.connection)

def sent (bytes : Bytes) (connection : Connection) : Option Connection :=
  if connection.inbound.isWritable ∧ bytes.length ≤ connection.inbound.room then
    some { connection with inbound := (connection.inbound.offer bytes).1 }
  else none

def stop (server : Server Backend) : Server Backend :=
  { server with
    isCancelled := true
    sockets := server.sockets.map fun socket =>
      { socket with connection := socket.connection.cancel } }

/-- The server after an event, if the event can happen. -/
def step (server : Server Backend) : Event → Option (Server Backend)
  | .accept => if server.stance = .accepting then some server.accept else none
  | .tally => if server.stance = .admitting then some server.tally else none
  | .enter => if server.stance = .entering then server.enter else none
  | .look => server.look.map fun stance => { server with stance := stance }
  | .join id => server.join id
  | .advance id => do
      let connection ← server.find? id .active
      let (connection, shared) ← connection.step server.service server.now server.shared
      return { server.put id .active connection with shared := shared }
  | .leave id departure => server.leave id departure
  | .release id => server.release id
  | .send id bytes => server.changed id (sent bytes)
  | .receive id size =>
      server.changed id fun connection =>
        some { connection with outbound := connection.outbound.skip size }
  | .finish id => server.changed id fun connection => some connection.finishInbound
  | .lose id => server.changed id fun connection => some connection.loseClient
  | .failInbound id fault => server.changed id fun connection => some (connection.failInbound fault)
  | .failOutbound id fault =>
      server.changed id fun connection => some (connection.failOutbound fault)
  | .tick duration => some { server with now := server.now + duration }
  | .stop => some server.stop

def run (server : Server Backend) (events : List Event) : Option (Server Backend) :=
  events.foldlM step server

/-! ### What an event does -/

/-- What an event does to the pipes of a connection that it is for. -/
inductive Event.Changes : Event → Nat → (Connection → Option Connection) → Prop where
  | send {id : Nat} (bytes : Bytes) : Changes (.send id bytes) id (sent bytes)
  | receive {id : Nat} (size : Nat) : Changes (.receive id size) id fun connection =>
      some { connection with outbound := connection.outbound.skip size }
  | finish {id : Nat} : Changes (.finish id) id fun connection => some connection.finishInbound
  | lose {id : Nat} : Changes (.lose id) id fun connection => some connection.loseClient
  | failInbound {id : Nat} (fault : StreamFault) : Changes (.failInbound id fault) id
      fun connection => some (connection.failInbound fault)
  | failOutbound {id : Nat} (fault : StreamFault) : Changes (.failOutbound id fault) id
      fun connection => some (connection.failOutbound fault)

/-- Everything that an event can do to a server. -/
inductive Steps (server : Server Backend) : Event → Server Backend → Prop where
  | accept (accepting : server.stance = .accepting) : Steps server .accept server.accept
  | tally (admitting : server.stance = .admitting) : Steps server .tally server.tally
  | enter {socket : Socket} (entering : server.stance = .entering)
      (found : server.sockets.find? (fun socket => socket.stage = .admitted) = some socket) :
      Steps server .enter
        ({ server.put socket.id .active socket.connection with stance := .checking }.count
          .connectionActivated)
  | look {stance : Stance} (looked : server.look = some stance) :
      Steps server .look { server with stance := stance }
  | join {id : Nat} {stance : Stance} (mem : id ∈ server.finished)
      (joined : server.stance.joined? = some stance) :
      Steps server (.join id)
        { server with stance := stance, finished := server.finished.erase id }
  | advance {id : Nat} {connection next : Connection} {shared : SharedState Backend}
      (found : server.find? id .active = some connection)
      (stepped : connection.step server.service server.now server.shared = some (next, shared)) :
      Steps server (.advance id) { server.put id .active next with shared := shared }
  | leave {id : Nat} {departure : Departure} {connection : Connection}
      (found : server.find? id .active = some connection)
      (able : server.canLeave connection departure = true) :
      Steps server (.leave id departure)
        ((server.put id .leaving connection.abort).count .connectionClosed)
  | release {id : Nat} {connection : Connection}
      (found : server.find? id .leaving = some connection) :
      Steps server (.release id)
        { server with
          sockets := server.sockets.filter fun socket => socket.id ≠ id
          finished := server.finished ++ [id] }
  | change {event : Event} {id : Nat} {change : Connection → Option Connection} {socket : Socket}
      {connection : Connection} (changes : event.Changes id change)
      (found : server.socket? id = some socket)
      (changed : change socket.connection = some connection) :
      Steps server event (server.put id socket.stage connection)
  | tick (duration : Nat) :
      Steps server (.tick duration) { server with now := server.now + duration }
  | stop : Steps server .stop server.stop

theorem steps_of_changed {server after : Server Backend} {event : Event} {id : Nat}
    {change : Connection → Option Connection} (changes : event.Changes id change)
    (changed_eq : server.changed id change = some after) : server.Steps event after := by
  simp only [changed, bind, Option.bind_eq_some_iff] at changed_eq
  rcases changed_eq with ⟨socket, found, connection, changed, put_eq⟩
  cases put_eq
  exact .change changes found changed

theorem steps_of_step {server after : Server Backend} {event : Event}
    (stepped : server.step event = some after) : server.Steps event after := by
  cases event with
  | accept =>
      rcases Option.ite_none_right_eq_some.1 stepped with ⟨accepting, same⟩
      cases same
      exact .accept accepting
  | tally =>
      rcases Option.ite_none_right_eq_some.1 stepped with ⟨admitting, same⟩
      cases same
      exact .tally admitting
  | enter =>
      rcases Option.ite_none_right_eq_some.1 stepped with ⟨entering, entered⟩
      rcases Option.map_eq_some_iff.1 entered with ⟨socket, found, rfl⟩
      exact .enter entering found
  | look =>
      rcases Option.map_eq_some_iff.1 stepped with ⟨stance, looked, rfl⟩
      exact .look looked
  | join id =>
      rcases Option.ite_none_right_eq_some.1 stepped with ⟨mem, stepped⟩
      rcases Option.map_eq_some_iff.1 stepped with ⟨stance, joined, rfl⟩
      exact .join mem joined
  | advance id =>
      simp only [step, bind, Option.bind_eq_some_iff] at stepped
      rcases stepped with ⟨connection, found, ⟨next, shared⟩, connection_stepped, same⟩
      cases same
      exact .advance found connection_stepped
  | leave id departure =>
      simp only [step, leave, Option.map_eq_some_iff, Option.filter_eq_some_iff] at stepped
      rcases stepped with ⟨connection, ⟨found, able⟩, rfl⟩
      exact .leave found able
  | release id =>
      rcases Option.map_eq_some_iff.1 stepped with ⟨connection, found, rfl⟩
      exact .release found
  | send id bytes => exact steps_of_changed (.send bytes) stepped
  | receive id size => exact steps_of_changed (.receive size) stepped
  | finish id => exact steps_of_changed .finish stepped
  | lose id => exact steps_of_changed .lose stepped
  | failInbound id fault => exact steps_of_changed (.failInbound fault) stepped
  | failOutbound id fault => exact steps_of_changed (.failOutbound fault) stepped
  | tick duration =>
      cases stepped
      exact .tick duration
  | stop =>
      cases stepped
      exact .stop

/--
Performs an action on a connection at some time and lets the connection go on until it waits, its
client taking in all replies.
-/
def converse (server : Server Backend) (id now : Nat) (action : Exchange.Action) :
    Option (Exchange.Report × Server Backend) :=
  (server.find? id .active).map fun connection =>
    let exchange : Exchange := { connection := connection, now := now }
    let (report, exchange, shared) := exchange.act server.service action true server.shared
    (report, { server.put id .active exchange.connection with shared := shared, now := now })

end Server

end DocumentProtocol
