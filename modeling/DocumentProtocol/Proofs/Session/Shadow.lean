import DocumentProtocol.Proofs.Session.Lockstep

/-!
# Shadows

A connection of a server has a shadow: a connection that is the only one of another server, to which
the same happens (`Server.exists_shadow`). What happens on the first server is gone through event by
event. What is nothing to the connection is left out, and a turn of the connection is made to happen
on its shadow, which stays alike. The clock of the second server is free to run ahead, so that a
wait that was too long is too long again.
-/

namespace DocumentProtocol

variable {Backend : Type}

namespace Server

/-- Whether a server has accepted one connection and has it, or is about to have it. -/
structure HasOnly (server : Server Backend) (stage : Stage) (connection : Connection) : Prop where
  sockets_eq : server.sockets = [⟨0, stage, connection⟩]
  accepted_eq : server.accepted = 1
  entering : stage = .admitted → server.stance = .entering

namespace HasOnly

variable {server : Server Backend} {stage : Stage} {connection next : Connection}

theorem socket?_eq (only : server.HasOnly stage connection) :
    server.socket? 0 = some ⟨0, stage, connection⟩ := by
  simp [socket?, only.sockets_eq]

theorem find?_eq (only : server.HasOnly stage connection) :
    server.find? 0 stage = some connection := by
  simp [find?, only.socket?_eq]

theorem sockets_put (only : server.HasOnly stage connection) (other : Stage) (next : Connection) :
    (server.put 0 other next).sockets = [⟨0, other, next⟩] := by
  simp [Server.put, only.sockets_eq]

theorem put (only : server.HasOnly stage connection) (next : Connection) :
    (server.put 0 stage next).HasOnly stage next :=
  ⟨only.sockets_put stage next, only.accepted_eq, only.entering⟩

theorem changed_eq (only : server.HasOnly stage connection)
    {change : Connection → Option Connection} (changed : change connection = some next) :
    server.changed 0 change = some (server.put 0 stage next) := by
  simp [Server.changed, only.socket?_eq, changed]

end HasOnly

/-- Whether some events are on a server with one connection a turn of this with some action. -/
structure Mirrors (server : Server Backend) (stage : Stage) (connection : Connection)
    (action : Socket.Action) (events : List Event) (after : Server Backend) (next : Socket) :
    Prop where
  run_eq : server.run events = some after
  only : after.HasOnly next.stage next.connection
  journal_eq : ∃ other deeds, server.journal events = [⟨0, other, deeds⟩] ∧
    other.untimed = action.untimed ∧
    Socket.Turn server.service ⟨0, stage, connection⟩ other deeds next

section Turn

variable {server after : Server Backend} {socket next : Socket} {action : Socket.Action}
  {deeds : List (Deed Backend)} {stage : Stage} {connection : Connection} {event : Event}

theorem mirrors_of_step (stepped : server.step event = some after)
    (only : after.HasOnly next.stage next.connection)
    (entries_eq : server.entries event = [⟨0, action, deeds⟩])
    (turn : Socket.Turn server.service ⟨0, stage, connection⟩ action deeds next) :
    server.Mirrors stage connection action [event] after next where
  run_eq := by simp [run, stepped]
  only := only
  journal_eq := ⟨_, _, by simp [journal, stepped, entries_eq], rfl, turn⟩

/-- What the client or the world does to the pipes of a connection is a turn by one event. -/
theorem mirrors_of_changed (change : Connection → Connection)
    (only : server.HasOnly stage connection)
    (step_eq : server.step event = server.changed 0 fun connection => some (change connection))
    (entries_eq : server.entries event = [⟨0, action, deeds⟩])
    (turn : Socket.Turn server.service ⟨0, stage, connection⟩ action deeds
      ⟨0, stage, change connection⟩) :
    server.Mirrors stage connection action [event] (server.put 0 stage (change connection))
      ⟨0, stage, change connection⟩ :=
  mirrors_of_step (step_eq.trans (only.changed_eq rfl)) (only.put _) entries_eq turn

/-- Whatever happens on a connection can happen on one that is alike. -/
theorem exists_mirrors (only : server.HasOnly stage connection)
    (alike : socket.Alike ⟨0, stage, connection⟩)
    (turn : socket.Turn server.service action deeds next) :
    ∃ events after ownNext, server.Mirrors stage connection action events after ownNext := by
  rcases alike with ⟨stage_eq, alike⟩
  dsimp only at stage_eq alike
  cases turn with
  | enter own_stage =>
      rw [stage_eq] at own_stage
      subst own_stage
      have found : server.sockets.find? (fun socket => socket.stage = .admitted) =
          some ⟨0, .admitted, connection⟩ := by
        simp [only.sockets_eq]
      have stepped : server.step .enter =
          some ({ server.put 0 .active connection with stance := .checking }.count
            .connectionActivated) := by
        simp [step, only.entering rfl, Server.enter, found]
      refine ⟨[.enter], _, ⟨0, .active, connection⟩, mirrors_of_step stepped ?_ ?_ (.enter rfl)⟩
      · exact ⟨only.sockets_put .active connection, only.accepted_eq, by simp⟩
      · simp [entries, found]
  | @advance now _ shared _ own_stage own_stepped =>
      rw [stage_eq] at own_stage
      subst own_stage
      -- The clock is set to a time at which no wait of the shadow is in time.
      let waited := { server with now := server.now + connection.deadline server.service }
      have steps : (connection.step waited.service waited.now waited.shared).isSome = true :=
        alike.isSome_step (Nat.le_add_left _ _) (Option.isSome_of_eq_some own_stepped)
      rcases Option.isSome_iff_exists.1 steps with ⟨⟨own_next, own_after⟩, stepped⟩
      have waited_only : waited.HasOnly .active connection :=
        ⟨only.sockets_eq, only.accepted_eq, by simp⟩
      have ticked : server.step (.tick (connection.deadline server.service)) = some waited := rfl
      have advanced : waited.step (.advance 0) =
          some { waited.put 0 .active own_next with shared := own_after } := by
        simp [step, waited_only.find?_eq, stepped]
      have ran : server.run [.tick (connection.deadline server.service), .advance 0] =
          some { waited.put 0 .active own_next with shared := own_after } := by
        simp [run, ticked, advanced]
      refine ⟨_, _, ⟨0, .active, own_next⟩, ran, ?_, .advance waited.now, _, ?_, rfl,
        .advance rfl stepped⟩
      · exact ⟨waited_only.sockets_put .active own_next, only.accepted_eq, by simp⟩
      · simp [journal, ticked, advanced, entries, waited_only.find?_eq, stepped]
        rfl
  | @send bytes _ sent =>
      have writable : connection.inbound.isWritable ∧ bytes.length ≤ connection.inbound.room := by
        rw [← alike.inbound_eq]
        by_contra full
        simp [Server.sent, full] at sent
      have sent : Server.sent bytes connection = some _ := if_pos writable
      have stepped : server.step (.send 0 bytes) = some (server.put 0 stage _) :=
        only.changed_eq sent
      exact ⟨[.send 0 bytes], _, ⟨0, stage, _⟩,
        mirrors_of_step stepped (only.put _) rfl (.send sent)⟩
  | receive size =>
      have entries_eq : server.entries (.receive 0 size) =
          [⟨0, .receive size, [.took (connection.outbound.content.take size)]⟩] := by
        simp [entries, only.socket?_eq]
      let receive (connection : Connection) : Connection :=
        { connection with outbound := connection.outbound.skip size }
      exact ⟨[.receive 0 size], _, _,
        mirrors_of_changed receive only rfl entries_eq (.receive size)⟩
  | finish =>
      exact ⟨[.finish 0], _, _, mirrors_of_changed Connection.finishInbound only rfl rfl .finish⟩
  | lose =>
      exact ⟨[.lose 0], _, _, mirrors_of_changed Connection.loseClient only rfl rfl .lose⟩
  | failInbound fault =>
      exact ⟨[.failInbound 0 fault], _, _,
        mirrors_of_changed (Connection.failInbound · fault) only rfl rfl (.failInbound fault)⟩
  | failOutbound fault =>
      exact ⟨[.failOutbound 0 fault], _, _,
        mirrors_of_changed (Connection.failOutbound · fault) only rfl rfl (.failOutbound fault)⟩
  | cancel =>
      have stepped : server.step .stop = some server.stop := rfl
      refine ⟨[.stop], _, ⟨0, stage, connection.cancel⟩, mirrors_of_step stepped ?_ ?_ .cancel⟩
      · exact ⟨by simp [stop, only.sockets_eq], only.accepted_eq, only.entering⟩
      · simp [entries, only.sockets_eq]
  | leave own_stage =>
      rw [stage_eq] at own_stage
      subst own_stage
      -- The task of the shadow fails, as it may at any moment.
      have stepped : server.step (.leave 0 .panicked) =
          some ((server.put 0 .leaving connection.abort).count .connectionClosed) := by
        simp [step, Server.leave, only.find?_eq, canLeave]
      have left : ((server.put 0 .leaving connection.abort).count .connectionClosed).HasOnly
          .leaving connection.abort :=
        ⟨only.sockets_put .leaving _, only.accepted_eq, by simp⟩
      exact ⟨[.leave 0 .panicked], _, ⟨0, .leaving, connection.abort⟩,
        mirrors_of_step stepped left rfl (.leave rfl)⟩

end Turn

/-! ### Runs -/

/-- Whether some events are on a server with one connection what happens on one of another. -/
structure Tracks (first : Server Backend) (journal : List (Entry Backend)) (id : Nat)
    (events : List Event) (alone : Server Backend) : Prop where
  run_eq : first.run events = some alone
  accepted_le : alone.accepted ≤ 1
  own : ∀ entry ∈ first.journal events, entry.id = 0
  story_eq : (Entry.story 0 (first.journal events)).map Socket.Action.untimed =
    (Entry.story id journal).map Socket.Action.untimed

/-- Whether a connection has a shadow, alone on its server, to which the same has happened. -/
def HasShadow (first : Server Backend) (id : Nat) (journal : List (Entry Backend))
    (socket : Socket) : Prop :=
  ∃ events alone stage connection, first.Tracks journal id events alone ∧
    alone.HasOnly stage connection ∧ socket.Alike ⟨0, stage, connection⟩

variable {first server alone after aloneAfter : Server Backend} {id : Nat} {event : Event}
  {journal more : List (Entry Backend)} {events others : List Event}

theorem Tracks.stay (tracks : first.Tracks journal id events alone)
    (more_eq : Entry.ofId id more = []) : first.Tracks (journal ++ more) id events alone where
  run_eq := tracks.run_eq
  accepted_le := tracks.accepted_le
  own := tracks.own
  story_eq := by simpa [Entry.story, Entry.ofId_append, more_eq] using tracks.story_eq

theorem Tracks.turn {stage : Stage} {connection : Connection} {action : Socket.Action}
    {deeds : List (Deed Backend)} {next : Socket}
    (tracks : first.Tracks journal id events alone)
    (mirrors : alone.Mirrors stage connection action others aloneAfter next)
    (more_eq : Entry.ofId id more = [⟨id, action, deeds⟩]) :
    first.Tracks (journal ++ more) id (events ++ others) aloneAfter where
  run_eq := by rw [run_append, tracks.run_eq, Option.bind_some, mirrors.run_eq]
  accepted_le := mirrors.only.accepted_eq.le
  own := by
    rcases mirrors.journal_eq with ⟨other, deeds, journal_eq, _, _⟩
    rw [journal_append tracks.run_eq, journal_eq]
    simpa [or_imp, forall_and] using tracks.own
  story_eq := by
    rcases mirrors.journal_eq with ⟨other, deeds, journal_eq, same, _⟩
    have told : Entry.story id more = [action] := by
      rw [Entry.story, more_eq]
      rfl
    rw [journal_append tracks.run_eq, journal_eq, Entry.story_append, Entry.story_append,
      List.map_append, List.map_append, tracks.story_eq, told]
    simp [Entry.story, Entry.ofId, same]

section Run

variable {config : Config} {registry : Registry Backend} {backend : Backend} {capacity : Nat}

/-- What a server goes through until it is about to count its first connection as active. -/
def firstEvents : List Event := [.look, .look, .accept, .tally]

/-- A server on which nothing has happened takes in a connection. -/
theorem tracks_accept (room : 0 < config.server.maxConnections) {since : Nat}
    (untold : Entry.ofId id journal = [])
    (more_eq : Entry.ofId id more = [⟨id, .arrive since, []⟩]) :
    ∃ alone, (start config registry backend capacity).Tracks (journal ++ more) id firstEvents
        alone ∧
      alone.HasOnly .admitted (Connection.start capacity 0) := by
  let first := start config registry backend capacity
  have looked : first.step .look = some { first with stance := .joining } := rfl
  have joined : { first with stance := .joining }.step .look =
      some { first with stance := .accepting } := rfl
  have accepted : { first with stance := .accepting }.step .accept =
      some { first with stance := .accepting }.accept := rfl
  have sockets_eq : { first with stance := .accepting }.accept.sockets =
      [⟨0, .admitted, Connection.start capacity 0⟩] := by
    simp [accept, first, start, permitsHeld, room, Connection.start]
  have accepted_eq : { first with stance := .accepting }.accept.accepted = 1 := by
    simp [accept, first, start, permitsHeld, room]
  have admitting : { first with stance := .accepting }.accept.stance = .admitting := by
    simp [accept, first, start, permitsHeld, room]
  have tallied : { first with stance := .accepting }.accept.step .tally =
      some { first with stance := .accepting }.accept.tally := by
    simp only [step, admitting, ↓reduceIte]
  have told : Entry.story id (journal ++ more) = [.arrive since] := by
    simp [Entry.story, Entry.ofId_append, untold, more_eq]
  have journal_eq : first.journal firstEvents = [⟨0, .arrive 0, []⟩] := by
    simp only [firstEvents, Server.journal, looked, joined, accepted, tallied]
    simp [entries, first, start, permitsHeld, room]
  refine ⟨{ first with stance := .accepting }.accept.tally, ⟨?_, accepted_eq.le, ?_, ?_⟩,
    sockets_eq, accepted_eq, fun _ => rfl⟩
  · change first.run firstEvents = _
    simp only [firstEvents, run, List.foldlM_cons, List.foldlM_nil, looked, joined, accepted,
      tallied, Option.bind_eq_bind, Option.bind_some]
    rfl
  · simp [journal_eq, first]
  · rw [journal_eq, told]
    rfl

theorem HasShadow.turn (ignores : registry.IgnoresBackend) {socket next : Socket}
    {action : Socket.Action} {deeds : List (Deed Backend)}
    (hasShadow : (start config registry backend capacity).HasShadow id journal socket)
    (more_eq : Entry.ofId id more = [⟨id, action, deeds⟩])
    (turn : socket.Turn (Service.ofConfig config registry) action deeds next) :
    (start config registry backend capacity).HasShadow id (journal ++ more) next := by
  rcases hasShadow with ⟨events, alone, stage, connection, tracks, only, alike⟩
  have service_eq : alone.service = Service.ofConfig config registry :=
    (continues_of_run tracks.run_eq).service_eq
  rw [← service_eq] at turn
  rcases exists_mirrors only alike turn with ⟨others, aloneAfter, own, mirrors⟩
  rcases mirrors.journal_eq with ⟨_, _, _, same, own_turn⟩
  have ignores : alone.service.registry.IgnoresBackend := by rwa [service_eq]
  have afterwards := (turn.alike ignores alike own_turn same.symm).1
  exact ⟨_, _, _, _, tracks.turn mirrors more_eq, mirrors.only,
    afterwards.stage_eq, afterwards.connection⟩

/-- Whatever happens to a server, one of its connections could have had it to itself. -/
theorem exists_shadow (ignores : registry.IgnoresBackend)
    (run_eq : (start config registry backend capacity).run events = some server) (id : Nat) :
    ∃ others alone, (start config registry backend capacity).Tracks
      ((start config registry backend capacity).journal events) id others alone := by
  have hosts : server.Hosts ((start config registry backend capacity).journal events) id
      ((start config registry backend capacity).HasShadow id) := by
    refine hosts_induction ?_ run_eq
    intro past server event after past_eq stepped hosts
    have books := (KeepsBooks.start config registry backend capacity).run past_eq
    have distinct : server.ledger.IsDistinct := books.distinct
    rcases continues_of_run past_eq with ⟨service_eq, capacity_eq⟩
    apply hosts.step distinct stepped
    · intro more untold more_eq held
      have held_le : after.permitsHeld ≤ config.server.maxConnections :=
        (books.step stepped).balance.held_le_limit
      rcases tracks_accept (Nat.lt_of_lt_of_le held held_le) untold more_eq with
        ⟨alone, tracks, only⟩
      rw [capacity_eq]
      exact ⟨_, alone, _, _, tracks, only, Socket.alike_start id 0 capacity server.now 0⟩
    · rintro more socket ⟨events, alone, stage, connection, tracks, only, alike⟩ more_eq
      exact ⟨events, alone, stage, connection, tracks.stay more_eq, only, alike⟩
    · intro journal more socket action deeds next hasShadow more_eq turn
      rw [service_eq] at turn
      exact hasShadow.turn ignores more_eq turn
  rcases hosts.untold_or_held with untold | ⟨socket, others, alone, _, _, tracks, _⟩
  · refine ⟨[], _, rfl, Nat.zero_le _, by simp [journal], ?_⟩
    simp only [Entry.story, untold]
    rfl
  · exact ⟨others, alone, tracks⟩

end Run

end Server

end DocumentProtocol
