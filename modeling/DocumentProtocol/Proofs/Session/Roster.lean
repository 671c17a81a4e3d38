import DocumentProtocol.Proofs.Session.Transition
import DocumentProtocol.Session.Server

/-!
# What an event does to the roster of a server

The roster of a server says which connections hold a permit and how far each has come. Together with
the stance of the server, the tasks that it has yet to join and the counters of connections it makes
up the ledger of the server, and `Ledger.Change` lists all that an event can do to it: the server
goes on in its loop, a socket is admitted or refused, a connection leaves one of its stages, a task
is joined, or the server is told to stop. All other events leave the ledger as it is.

The last part rests on two facts. A connection in its own steps counts requests and replies but no
connections, and the identifiers in a roster are distinct, so that what is put back for a connection
concerns no other.
-/

namespace DocumentProtocol

variable {Backend : Type}

/-! ### The counters of connections -/

namespace Metrics

/-- The counters that count connections. -/
def ofConnections (metrics : Metrics) : UInt64 × UInt64 × UInt64 :=
  (metrics.connectionsTotal, metrics.connectionsActive, metrics.connectionsRejected)

end Metrics

namespace SharedState

@[simp]
theorem ofConnections_conclude (shared : SharedState Backend) (error : ProtocolError) :
    (shared.conclude error).metrics.ofConnections = shared.metrics.ofConnections := by
  rw [conclude]
  cases ending : Connection.endingEvent? error with
  | none => rfl
  | some event =>
      have other : event = .protocolError := by
        unfold Connection.endingEvent? at ending
        split at ending
        · cases ending
        · cases ending
        · cases ending
        · exact (Option.some.inj ending).symm
      rw [other]
      rfl

end SharedState

namespace Service

theorem ofConnections_routeShared (service : Service Backend) (request : Request)
    (shared : SharedState Backend) :
    (service.routeShared request shared).2.metrics.ofConnections =
      shared.metrics.ofConnections := by
  simp only [routeShared]
  rcases service.route request shared.backend with ⟨routed, backend⟩
  cases routed with
  | ok document => rfl
  | error error => cases error <;> rfl

/-- Answering a message counts no connection. -/
theorem ofConnections_answer (service : Service Backend) (header : Header) (body : Bytes)
    (shared : SharedState Backend) :
    (service.answer header body shared).2.metrics.ofConnections =
      shared.metrics.ofConnections := by
  simp only [answer]
  cases Request.ofMessage header body with
  | error error => rfl
  | ok request =>
      simp only [answerRequest]
      rw [← ofConnections_routeShared service request shared]
      rcases service.routeShared request shared with ⟨routed, after⟩
      cases answerDocument routed with
      | error error => rfl
      | ok document =>
          simp only [reply]
          split <;> rfl

end Service

/-- A step of a connection counts no connection. -/
theorem Connection.Transition.ofConnections_eq {service : Service Backend} {now : Nat}
    {connection next : Connection} {shared after : SharedState Backend}
    (transition : Transition service now connection shared next after) :
    after.metrics.ofConnections = shared.metrics.ofConnections := by
  have answered {header : Header} {body : Bytes} {result : Except ProtocolError (Option Frame)}
      {between : SharedState Backend}
      (answer : service.answer header body shared = (result, between)) :
      between.metrics.ofConnections = shared.metrics.ofConnections := by
    have kept := service.ofConnections_answer header body shared
    rwa [answer] at kept
  cases transition with
  | fault _ => exact SharedState.ofConnections_conclude shared _
  | refused _ answer => exact (SharedState.ofConnections_conclude _ _).trans (answered answer)
  | silent _ answer => exact answered answer
  | answered _ answer => exact answered answer
  | _ => rfl

/-! ### The ledger -/

/-- What a server keeps about its connections, without the connections themselves. -/
structure Ledger where
  limit : Nat
  stance : Stance
  isCancelled : Bool
  accepted : Nat
  /-- The connections that hold a permit, and how far each has come. -/
  roster : List (Nat × Stage)
  /-- The connections whose tasks are still to be joined. -/
  finished : List Nat
  total : UInt64
  active : UInt64
  rejected : UInt64

def Socket.entry (socket : Socket) : Nat × Stage := (socket.id, socket.stage)

def Server.ledger (server : Server Backend) : Ledger where
  limit := server.maxConnections
  stance := server.stance
  isCancelled := server.isCancelled
  accepted := server.accepted
  roster := server.sockets.map Socket.entry
  finished := server.finished
  total := server.shared.metrics.connectionsTotal
  active := server.shared.metrics.connectionsActive
  rejected := server.shared.metrics.connectionsRejected

/-- Whether an event concerns what goes on within connections, or only the time. -/
def Server.Event.isInner : Server.Event → Bool
  | .advance _ => true
  | .send _ _ => true
  | .receive _ _ => true
  | .finish _ => true
  | .lose _ => true
  | .failInbound _ _ => true
  | .failOutbound _ _ => true
  | .tick _ => true
  | _ => false

namespace Ledger

/-- The identifiers of the connections that hold a permit. -/
def ids (ledger : Ledger) : List Nat := ledger.roster.map Prod.fst

/-- The number of connections of a roster at some stage. -/
def numberAt (stage : Stage) (roster : List (Nat × Stage)) : Nat :=
  roster.countP fun entry => entry.2 = stage

@[simp]
theorem numberAt_nil (stage : Stage) : numberAt stage [] = 0 := rfl

@[simp]
theorem numberAt_append (stage : Stage) (front behind : List (Nat × Stage)) :
    numberAt stage (front ++ behind) = numberAt stage front + numberAt stage behind :=
  List.countP_append

@[simp]
theorem numberAt_cons (stage : Stage) (entry : Nat × Stage) (rest : List (Nat × Stage)) :
    numberAt stage (entry :: rest) =
      numberAt stage rest + if entry.2 = stage then 1 else 0 := by
  simp [numberAt, List.countP_cons]

/-- What a server that looks around can go on to. -/
inductive Looks (ledger : Ledger) : Stance → Prop where
  | told {since : Nat} (stance_eq : ledger.stance = .checking)
      (cancelled : ledger.isCancelled = true) : Looks ledger (.draining since)
  | untold (stance_eq : ledger.stance = .checking) (running : ledger.isCancelled = false) :
      Looks ledger .joining
  | joined (stance_eq : ledger.stance = .joining) (none : ledger.finished = []) :
      Looks ledger .accepting
  | woken (stance_eq : ledger.stance = .accepting) : Looks ledger .checking
  | late {since : Nat} (stance_eq : ledger.stance = .draining since) : Looks ledger .aborting
  | drained {since : Nat} (stance_eq : ledger.stance = .draining since)
      (none : ledger.finished = []) (empty : ledger.roster = []) : Looks ledger .returned
  | aborted (stance_eq : ledger.stance = .aborting) (none : ledger.finished = [])
      (empty : ledger.roster = []) : Looks ledger .returned

/-- Everything that an event can do to a ledger. -/
inductive Change (ledger : Ledger) : Server.Event → Ledger → Prop where
  | admitted (stance_eq : ledger.stance = .accepting)
      (room : ledger.roster.length < ledger.limit) :
      Change ledger .accept
        { ledger with
          stance := .admitting
          accepted := ledger.accepted + 1
          roster := ledger.roster ++ [(ledger.accepted, .admitted)] }
  | refused (stance_eq : ledger.stance = .accepting)
      (full : ledger.limit ≤ ledger.roster.length) :
      Change ledger .accept
        { ledger with
          stance := .checking
          accepted := ledger.accepted + 1
          rejected := ledger.rejected + 1 }
  | tallied (stance_eq : ledger.stance = .admitting) :
      Change ledger .tally { ledger with stance := .entering, total := ledger.total + 1 }
  | entered {id : Nat} {front behind : List (Nat × Stage)} (stance_eq : ledger.stance = .entering)
      (roster_eq : ledger.roster = front ++ (id, .admitted) :: behind) :
      Change ledger .enter
        { ledger with
          stance := .checking
          roster := front ++ (id, .active) :: behind
          active := ledger.active + 1 }
  | looked {stance : Stance} (looks : ledger.Looks stance) :
      Change ledger .look { ledger with stance := stance }
  | joined {id : Nat} {stance : Stance} (mem : id ∈ ledger.finished)
      (stance_eq : ledger.stance.joined? = some stance) :
      Change ledger (.join id)
        { ledger with stance := stance, finished := ledger.finished.erase id }
  | left {id : Nat} {departure : Departure} {front behind : List (Nat × Stage)}
      (roster_eq : ledger.roster = front ++ (id, .active) :: behind) :
      Change ledger (.leave id departure)
        { ledger with
          roster := front ++ (id, .leaving) :: behind
          active := ledger.active - 1 }
  | released {id : Nat} {front behind : List (Nat × Stage)}
      (roster_eq : ledger.roster = front ++ (id, .leaving) :: behind) :
      Change ledger (.release id)
        { ledger with roster := front ++ behind, finished := ledger.finished ++ [id] }
  | stopped : Change ledger .stop { ledger with isCancelled := true }
  | inner {event : Server.Event} (inner : event.isInner = true) : Change ledger event ledger

/-- Whether the connections of a ledger are distinct, and were all accepted. -/
structure IsDistinct (ledger : Ledger) : Prop where
  nodup : ledger.ids.Nodup
  lt_accepted : ∀ id ∈ ledger.ids, id < ledger.accepted

theorem IsDistinct.change {ledger after : Ledger} {event : Server.Event}
    (distinct : ledger.IsDistinct) (change : ledger.Change event after) : after.IsDistinct := by
  rcases distinct with ⟨nodup, lt_accepted⟩
  cases change with
  | admitted _ _ =>
      have fresh : ledger.accepted ∉ ledger.ids := fun mem => Nat.lt_irrefl _ (lt_accepted _ mem)
      have ids_eq : ids { ledger with
          stance := .admitting
          accepted := ledger.accepted + 1
          roster := ledger.roster ++ [(ledger.accepted, .admitted)] } =
            ledger.ids ++ [ledger.accepted] := by
        simp [ids]
      constructor
      · rw [ids_eq]
        apply List.nodup_append.2
        refine ⟨nodup, by simp, ?_⟩
        intro id mem last last_mem same
        rw [same, List.mem_singleton.1 last_mem] at mem
        exact fresh mem
      · intro id mem
        rw [ids_eq, List.mem_append, List.mem_singleton] at mem
        rcases mem with mem | rfl
        · exact Nat.lt_succ_of_lt (lt_accepted id mem)
        · exact Nat.lt_succ_self _
  | refused _ _ =>
      refine ⟨nodup, ?_⟩
      intro id mem
      exact Nat.lt_succ_of_lt (lt_accepted id mem)
  | entered _ roster_eq =>
      simp only [ids, roster_eq, List.map_append, List.map_cons] at nodup lt_accepted
      exact ⟨by simpa [ids] using nodup, by simpa [ids] using lt_accepted⟩
  | left roster_eq =>
      simp only [ids, roster_eq, List.map_append, List.map_cons] at nodup lt_accepted
      exact ⟨by simpa [ids] using nodup, by simpa [ids] using lt_accepted⟩
  | @released id front behind roster_eq =>
      have fewer : List.Sublist ((front ++ behind).map Prod.fst) ledger.ids := by
        rw [ids, roster_eq]
        apply List.Sublist.map
        exact List.Sublist.append_left (List.sublist_cons_self _ _) front
      refine ⟨nodup.sublist fewer, ?_⟩
      intro other mem
      exact lt_accepted other (fewer.subset mem)
  | _ => exact ⟨nodup, lt_accepted⟩

end Ledger

/-! ### One event -/

namespace Server

variable {server after : Server Backend} {id : Nat}

theorem ids_ledger (server : Server Backend) :
    server.ledger.ids = server.sockets.map Socket.id := by
  rw [Ledger.ids, ledger, List.map_map]
  rfl

theorem exists_socket_of_socket? {socket : Socket} (found : server.socket? id = some socket) :
    socket.id = id ∧ ∃ front behind, server.sockets = front ++ socket :: behind := by
  rcases List.find?_eq_some_iff_append.1 found with ⟨same, front, behind, sockets_eq, _⟩
  exact ⟨by simpa using same, front, behind, sockets_eq⟩

theorem exists_socket_of_find? {stage : Stage} {connection : Connection}
    (found : server.find? id stage = some connection) :
    ∃ front behind, server.sockets = front ++ ⟨id, stage, connection⟩ :: behind := by
  simp only [find?, Option.map_eq_some_iff, Option.filter_eq_some_iff, decide_eq_true_eq] at found
  rcases found with ⟨⟨_, _, _⟩, ⟨present, rfl⟩, rfl⟩
  rcases exists_socket_of_socket? present with ⟨rfl, split⟩
  exact split

section Distinct

variable {socket : Socket} {front behind : List Socket}
  (distinct : server.ledger.ids.Nodup) (sockets_eq : server.sockets = front ++ socket :: behind)

include distinct sockets_eq

/-- No other connection has the identifier of a connection. -/
theorem ne_of_distinct : ∀ other ∈ front ++ behind, other.id ≠ socket.id := by
  have shuffled : (server.sockets.map Socket.id).Perm
      ((socket :: (front ++ behind)).map Socket.id) := by
    rw [sockets_eq]
    exact List.perm_middle.map Socket.id
  rw [ids_ledger, shuffled.nodup_iff, List.map_cons, List.nodup_cons] at distinct
  intro other mem same
  apply distinct.1
  exact List.mem_map.2 ⟨other, mem, same⟩

theorem sockets_put (stage : Stage) (connection : Connection) :
    (server.put socket.id stage connection).sockets =
      front ++ ⟨socket.id, stage, connection⟩ :: behind := by
  have apart := ne_of_distinct distinct sockets_eq
  have kept (part : List Socket) (inside : ∀ other ∈ part, other ∈ front ++ behind) :
      (part.map fun other => if other.id = socket.id then
        (⟨socket.id, stage, connection⟩ : Socket) else other) = part := by
    rw [List.map_congr_left (g := id), List.map_id]
    intro other mem
    rw [if_neg (apart other (inside other mem)), id]
  simp only [put, sockets_eq, List.map_append, List.map_cons, ↓reduceIte]
  rw [kept front (by simp +contextual), kept behind (by simp +contextual)]

theorem sockets_filter :
    (server.sockets.filter fun other => other.id ≠ socket.id) = front ++ behind := by
  have apart := ne_of_distinct distinct sockets_eq
  have kept : ((front ++ behind).filter fun other => other.id ≠ socket.id) = front ++ behind := by
    apply List.filter_eq_self.2
    intro other mem
    exact decide_eq_true (apart other mem)
  rw [List.filter_append] at kept
  rw [sockets_eq, List.filter_append, List.filter_cons_of_neg (by simp), kept]

theorem ledger_put (stage : Stage) (connection : Connection) :
    (server.put socket.id stage connection).ledger =
      { server.ledger with
        roster := front.map Socket.entry ++ (socket.id, stage) :: behind.map Socket.entry } := by
  have sockets_put := sockets_put distinct sockets_eq stage connection
  simp only [ledger, sockets_put, List.map_append, List.map_cons]
  rfl

theorem ledger_put_same (connection : Connection) :
    (server.put socket.id socket.stage connection).ledger = server.ledger := by
  rw [ledger_put distinct sockets_eq]
  simp only [ledger, sockets_eq, List.map_append, List.map_cons]
  rfl

omit distinct in
theorem roster_eq : server.ledger.roster =
    front.map Socket.entry ++ (socket.id, socket.stage) :: behind.map Socket.entry := by
  rw [ledger, sockets_eq, List.map_append, List.map_cons]
  rfl

end Distinct

/-- The ledger keeps of what connections share only the counters of connections. -/
theorem ledger_withShared {shared : SharedState Backend}
    (same : shared.metrics.ofConnections = server.shared.metrics.ofConnections) :
    ({ server with shared := shared } : Server Backend).ledger = server.ledger := by
  simp only [Metrics.ofConnections, Prod.mk.injEq] at same
  simp only [ledger, same]

theorem length_roster (server : Server Backend) :
    server.ledger.roster.length = server.permitsHeld := by
  rw [ledger, List.length_map, permitsHeld]

theorem change_of_accept (accepting : server.stance = .accepting) :
    Ledger.Change server.ledger .accept server.accept.ledger := by
  simp only [accept]
  split
  · rename_i room
    rw [← length_roster] at room
    have change := Ledger.Change.admitted accepting room
    simpa only [ledger, List.map_append, List.map_cons, List.map_nil, Socket.entry] using change
  · rename_i full
    rw [← length_roster] at full
    exact .refused accepting (Nat.not_lt.1 full)

theorem looks_of_look {stance : Stance} (looked : server.look = some stance) :
    server.ledger.Looks stance := by
  have empty (none : server.sockets.isEmpty = true) : server.ledger.roster = [] := by
    rw [ledger, List.isEmpty_iff.1 none, List.map_nil]
  unfold look at looked
  split at looked
  · rename_i stance_eq
    cases looked
    split
    · rename_i cancelled
      exact .told stance_eq cancelled
    · rename_i running
      exact .untold stance_eq (Bool.eq_false_iff.2 running)
  · rename_i stance_eq
    split at looked
    · rename_i none
      cases looked
      exact .joined stance_eq none
    · cases looked
  · rename_i stance_eq
    cases looked
    exact .woken stance_eq
  · rename_i since stance_eq
    split at looked
    · rename_i joined
      rcases Deadline.within_eq_some_iff.1 looked with drained | ⟨_, _, rfl⟩
      · split at drained
        · rename_i none
          cases drained
          exact .drained stance_eq joined (empty none)
        · cases drained
      · exact .late stance_eq
    · cases looked
  · rename_i stance_eq
    split at looked
    · rename_i joined
      cases looked
      exact .aborted stance_eq joined.1 (empty joined.2)
    · cases looked
  · cases looked

/-- What an event does to a server with distinct connections is a change of its ledger. -/
theorem change_of_step {event : Event} (distinct : server.ledger.ids.Nodup)
    (stepped : server.step event = some after) :
    Ledger.Change server.ledger event after.ledger := by
  cases steps_of_step stepped with
  | accept accepting => exact change_of_accept accepting
  | tally admitting => exact .tallied admitting
  | @enter socket entering found =>
      rcases socket with ⟨id, stage, connection⟩
      rcases List.find?_eq_some_iff_append.1 found with ⟨stage_eq, front, behind, sockets_eq, _⟩
      simp only [decide_eq_true_eq] at stage_eq
      subst stage_eq
      have change : Ledger.Change server.ledger .enter _ := .entered entering (roster_eq sockets_eq)
      have put_eq := ledger_put distinct sockets_eq .active connection
      simp only [ledger, Ledger.mk.injEq] at put_eq
      simpa only [ledger, count, SharedState.count, Metrics.record, put_eq] using change
  | look looked => exact .looked (looks_of_look looked)
  | join mem joined => exact .joined mem joined
  | @advance id _ next shared found connection_stepped =>
      rcases exists_socket_of_find? found with ⟨front, behind, sockets_eq⟩
      -- The step counts no connection, and what is put back is at the stage that it was at.
      have counted : shared.metrics.ofConnections =
          (server.put id .active next).shared.metrics.ofConnections :=
        (Connection.transition_of_step connection_stepped).ofConnections_eq
      rw [ledger_withShared counted, ledger_put_same distinct sockets_eq]
      exact .inner rfl
  | @leave id departure connection found =>
      rcases exists_socket_of_find? found with ⟨front, behind, sockets_eq⟩
      have change : Ledger.Change server.ledger (.leave id departure) _ :=
        .left (roster_eq sockets_eq)
      have put_eq := ledger_put distinct sockets_eq .leaving connection.abort
      simp only [ledger, Ledger.mk.injEq] at put_eq
      simpa only [ledger, count, SharedState.count, Metrics.record, put_eq] using change
  | release found =>
      rcases exists_socket_of_find? found with ⟨front, behind, sockets_eq⟩
      have change := Ledger.Change.released (roster_eq sockets_eq)
      rw [← List.map_append, ← sockets_filter distinct sockets_eq] at change
      exact change
  | change changes found =>
      rcases exists_socket_of_socket? found with ⟨rfl, front, behind, sockets_eq⟩
      rw [ledger_put_same distinct sockets_eq]
      apply Ledger.Change.inner
      cases changes <;> rfl
  | tick => exact .inner rfl
  | stop =>
      have entries : (server.sockets.map fun socket =>
          { socket with connection := socket.connection.cancel }).map Socket.entry =
            server.sockets.map Socket.entry := by
        rw [List.map_map]
        rfl
      simp only [ledger, Server.stop, entries]
      exact .stopped

end Server

end DocumentProtocol
