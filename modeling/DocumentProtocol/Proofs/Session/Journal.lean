import DocumentProtocol.Proofs.Session.Admission
import DocumentProtocol.Proofs.Session.Life

/-!
# The journal of a server

A journal tells what has happened on the connections of a server, in one sequence. Its entries for
one connection are the story of this connection, and their deeds are its log. `Server.Affects` lists
what one event of the server can be for one connection: nothing, its arrival, a turn, or the release
of its permit. A connection that arrives at a server which has been told to stop is told as well,
and this is its first turn. So what holds of a connection when it arrives and is kept by its turns
is kept whatever the server does (`Server.Hosts.step`).

So the story of each connection is a life (`Server.hosts_of_run`). The steps of the other
connections come in through what they share, and in no other way.
-/

namespace DocumentProtocol

variable {Backend : Type}

/-- What has happened on one of the connections of a server. -/
structure Entry (Backend : Type) where
  id : Nat
  action : Socket.Action
  deeds : List (Deed Backend) := []

namespace Server

/-- What happens on the connections of a server by an event. -/
def entries (server : Server Backend) : Event → List (Entry Backend)
  | .accept =>
      if server.permitsHeld < server.maxConnections then
        { id := server.accepted, action := .arrive server.now } ::
          if server.isCancelled then [{ id := server.accepted, action := .cancel }] else []
      else []
  | .enter =>
      (server.sockets.find? fun socket => socket.stage = .admitted).toList.map fun socket =>
        { id := socket.id, action := .enter }
  | .advance id =>
      (server.find? id .active).toList.flatMap fun connection =>
        (connection.step server.service server.now server.shared).toList.map fun result =>
          { id := id, action := .advance server.now
            deeds := connection.deeds server.service server.shared result.1 }
  | .leave id _ => [{ id := id, action := .leave }]
  | .send id bytes => [{ id := id, action := .send bytes, deeds := [.sent bytes] }]
  | .receive id size =>
      (server.socket? id).toList.map fun socket =>
        { id := id, action := .receive size
          deeds := [.took (socket.connection.outbound.content.take size)] }
  | .finish id => [{ id := id, action := .finish }]
  | .lose id => [{ id := id, action := .lose }]
  | .failInbound id fault => [{ id := id, action := .failInbound fault }]
  | .failOutbound id fault => [{ id := id, action := .failOutbound fault }]
  | .stop => server.sockets.map fun socket => { id := socket.id, action := .cancel }
  | _ => []

/-- What happens on the connections of a server by some events, up to one that cannot happen. -/
def journal (server : Server Backend) : List Event → List (Entry Backend)
  | [] => []
  | event :: events =>
      match server.step event with
      | some next => server.entries event ++ next.journal events
      | none => []

end Server

namespace Entry

/-- The entries of a journal for one connection. -/
def ofId (id : Nat) (journal : List (Entry Backend)) : List (Entry Backend) :=
  journal.filter fun entry => entry.id = id

/-- What has happened on one connection. -/
def story (id : Nat) (journal : List (Entry Backend)) : List Socket.Action :=
  (ofId id journal).map Entry.action

def log (id : Nat) (journal : List (Entry Backend)) : List (Deed Backend) :=
  (ofId id journal).flatMap Entry.deeds

variable {id : Nat} {journal more : List (Entry Backend)}

theorem ofId_append : ofId id (journal ++ more) = ofId id journal ++ ofId id more :=
  List.filter_append _ _

theorem story_append : story id (journal ++ more) = story id journal ++ story id more := by
  rw [story, ofId_append, List.map_append]
  rfl

/-- Whether a journal tells the life of a connection up to some point. -/
structure Tells (service : Service Backend) (capacity id : Nat) (journal : List (Entry Backend))
    (since : Nat) (actions : List Socket.Action) (socket : Socket) : Prop where
  story_eq : story id journal = .arrive since :: actions
  life : (Socket.start id capacity since).Life service actions (log id journal) socket

variable {service : Service Backend} {capacity since : Nat} {actions : List Socket.Action}
  {socket next : Socket}

theorem tells_of_arrival (untold : ofId id journal = [])
    (more_eq : ofId id more = [⟨id, .arrive since, []⟩]) :
    Tells service capacity id (journal ++ more) since [] (Socket.start id capacity since) where
  story_eq := by simp [story, ofId_append, untold, more_eq]
  life := by
    simp only [log, ofId_append, untold, more_eq]
    exact .start

theorem Tells.stay (tells : Tells service capacity id journal since actions socket)
    (more_eq : ofId id more = []) :
    Tells service capacity id (journal ++ more) since actions socket where
  story_eq := by simpa [story, ofId_append, more_eq] using tells.story_eq
  life := by simpa [log, ofId_append, more_eq] using tells.life

theorem Tells.turn {action : Socket.Action} {deeds : List (Deed Backend)}
    (tells : Tells service capacity id journal since actions socket)
    (more_eq : ofId id more = [⟨id, action, deeds⟩])
    (turn : socket.Turn service action deeds next) :
    Tells service capacity id (journal ++ more) since (actions ++ [action]) next where
  story_eq := by
    rw [story_append, tells.story_eq, story, more_eq]
    rfl
  life := by simpa [log, ofId_append, more_eq] using tells.life.turn turn

end Entry

namespace Server

variable {server after middle : Server Backend} {event : Event} {events past : List Event}
  {socket next : Socket} {id : Nat}

theorem journal_append (run_eq : server.run past = some middle) :
    server.journal (past ++ events) = server.journal past ++ middle.journal events := by
  induction past generalizing server with
  | nil =>
      cases run_eq
      rfl
  | cons event past ih =>
      simp only [run, List.foldlM_cons, Option.bind_eq_bind, Option.bind_eq_some_iff] at run_eq
      rcases run_eq with ⟨between, stepped, rest⟩
      simp only [List.cons_append, journal, stepped, ih rest, List.append_assoc]

theorem journal_concat (run_eq : server.run past = some middle)
    (stepped : middle.step event = some after) :
    server.journal (past ++ [event]) = server.journal past ++ middle.entries event := by
  rw [journal_append run_eq]
  simp only [journal, stepped, List.append_nil]

/-! ### One event -/

/-- What an event of a server is for one connection. -/
inductive Affects (server after : Server Backend) (id : Nat) : List (Entry Backend) → Prop where
  | absent (before : ∀ socket ∈ server.sockets, socket.id ≠ id)
      (still : ∀ socket ∈ after.sockets, socket.id ≠ id) : Affects server after id []
  | arrives (fresh : id = server.accepted)
      (mem : Socket.start id server.capacity server.now ∈ after.sockets) :
      Affects server after id [⟨id, .arrive server.now, []⟩]
  /-- The connection arrives at a server that has been told to stop, and is told as well. -/
  | arrivesLate {next : Socket} (fresh : id = server.accepted)
      (turn : (Socket.start id server.capacity server.now).Turn server.service .cancel [] next)
      (mem : next ∈ after.sockets) :
      Affects server after id [⟨id, .arrive server.now, []⟩, ⟨id, .cancel, []⟩]
  | stays {socket : Socket} (id_eq : socket.id = id) (mem : socket ∈ server.sockets)
      (still : socket ∈ after.sockets) : Affects server after id []
  | turns {socket next : Socket} {action : Socket.Action} {deeds : List (Deed Backend)}
      (id_eq : socket.id = id) (mem : socket ∈ server.sockets)
      (turn : socket.Turn server.service action deeds next) (still : next ∈ after.sockets) :
      Affects server after id [⟨id, action, deeds⟩]
  | released {socket : Socket} (id_eq : socket.id = id) (mem : socket ∈ server.sockets)
      (stage_eq : socket.stage = .leaving) (gone : ∀ other ∈ after.sockets, other.id ≠ id) :
      Affects server after id []

/-- An event that leaves the sockets alone is nothing to any connection. -/
theorem affects_of_same (sockets_eq : after.sockets = server.sockets) (id : Nat) :
    server.Affects after id [] := by
  by_cases held : ∃ socket ∈ server.sockets, socket.id = id
  · rcases held with ⟨socket, mem, id_eq⟩
    exact .stays id_eq mem (by rwa [sockets_eq])
  · have before : ∀ socket ∈ server.sockets, socket.id ≠ id := by simpa using held
    exact .absent before (by rwa [sockets_eq])

section Distinct

variable {front behind : List Socket} (distinct : server.ledger.ids.Nodup)
  (sockets_eq : server.sockets = front ++ socket :: behind)

include distinct sockets_eq

/-- A turn of one connection is nothing to the others. -/
theorem affects_of_turn {action : Socket.Action} {deeds : List (Deed Backend)}
    (after_eq : after.sockets = front ++ next :: behind)
    (turn : socket.Turn server.service action deeds next) (id : Nat) :
    server.Affects after id (Entry.ofId id [⟨socket.id, action, deeds⟩]) := by
  have apart := ne_of_distinct distinct sockets_eq
  by_cases same : socket.id = id
  · have entries_eq : Entry.ofId id [(⟨socket.id, action, deeds⟩ : Entry Backend)] =
        [⟨id, action, deeds⟩] := by
      simp [Entry.ofId, same]
    rw [entries_eq]
    exact .turns same (by simp [sockets_eq]) turn (by simp [after_eq])
  · have entries_eq : Entry.ofId id [(⟨socket.id, action, deeds⟩ : Entry Backend)] = [] := by
      simp [Entry.ofId, same]
    rw [entries_eq]
    have other_id : next.id ≠ id := by rwa [turn.id_eq]
    by_cases held : ∃ other ∈ front ++ behind, other.id = id
    · rcases held with ⟨other, mem, id_eq⟩
      refine .stays id_eq ?_ ?_
      · rw [sockets_eq]
        simpa [or_left_comm] using Or.inr (List.mem_append.1 mem)
      · rw [after_eq]
        simpa [or_left_comm] using Or.inr (List.mem_append.1 mem)
    · have missing : ∀ other ∈ front ++ behind, other.id ≠ id := by simpa using held
      simp only [List.mem_append, or_imp, forall_and] at missing
      refine .absent ?_ ?_
      · simpa [sockets_eq, or_imp, forall_and] using ⟨missing.1, same, missing.2⟩
      · simpa [after_eq, or_imp, forall_and] using ⟨missing.1, other_id, missing.2⟩

theorem affects_of_release (stage_eq : socket.stage = .leaving)
    (after_eq : after.sockets = front ++ behind) (id : Nat) : server.Affects after id [] := by
  have apart := ne_of_distinct distinct sockets_eq
  by_cases same : socket.id = id
  · subst same
    refine .released rfl (by simp [sockets_eq]) stage_eq ?_
    rwa [after_eq]
  · by_cases held : ∃ other ∈ front ++ behind, other.id = id
    · rcases held with ⟨other, mem, id_eq⟩
      refine .stays id_eq ?_ (by rwa [after_eq])
      rw [sockets_eq]
      simpa [or_left_comm] using Or.inr (List.mem_append.1 mem)
    · have missing : ∀ other ∈ front ++ behind, other.id ≠ id := by simpa using held
      refine .absent ?_ (by rwa [after_eq])
      simp only [List.mem_append, or_imp, forall_and] at missing
      simpa [sockets_eq, or_imp, forall_and] using ⟨missing.1, same, missing.2⟩

end Distinct

/-- What is done to the pipes of a connection is a turn of this connection. -/
theorem exists_turn_of_changes {change : Connection → Option Connection} {connection : Connection}
    (changes : event.Changes id change) (found : server.socket? id = some socket)
    (changed : change socket.connection = some connection) :
    ∃ action deeds, server.entries event = [⟨id, action, deeds⟩] ∧
      socket.Turn server.service action deeds { socket with connection := connection } := by
  cases changes with
  | send bytes => exact ⟨_, _, rfl, .send changed⟩
  | receive size =>
      cases changed
      exact ⟨_, _, by simp only [entries, found]; rfl, .receive size⟩
  | finish =>
      cases changed
      exact ⟨_, _, rfl, .finish⟩
  | lose =>
      cases changed
      exact ⟨_, _, rfl, .lose⟩
  | failInbound fault =>
      cases changed
      exact ⟨_, _, rfl, .failInbound fault⟩
  | failOutbound fault =>
      cases changed
      exact ⟨_, _, rfl, .failOutbound fault⟩

theorem affects_of_accept (server : Server Backend) (id : Nat) :
    server.Affects server.accept id (Entry.ofId id (server.entries .accept)) := by
  simp only [accept, entries]
  split
  · by_cases same : server.accepted = id
    · subst same
      cases cancelled : server.isCancelled with
      | false =>
          simp only [Entry.ofId, Bool.false_eq_true, ↓reduceIte, decide_true,
            List.filter_cons_of_pos, List.filter_nil]
          exact .arrives rfl (by simp [Socket.start, Connection.start])
      | true =>
          simp only [Entry.ofId, ↓reduceIte, decide_true, List.filter_cons_of_pos,
            List.filter_nil]
          exact .arrivesLate rfl .cancel (by simp [Socket.start, Connection.cancel])
    · have entries_eq : Entry.ofId id (⟨server.accepted, .arrive server.now, []⟩ ::
          if server.isCancelled then [(⟨server.accepted, .cancel, []⟩ : Entry Backend)]
          else []) = [] := by
        split <;> simp [Entry.ofId, same]
      rw [entries_eq]
      by_cases held : ∃ socket ∈ server.sockets, socket.id = id
      · rcases held with ⟨socket, mem, id_eq⟩
        exact .stays id_eq mem (List.mem_append_left _ mem)
      · have before : ∀ socket ∈ server.sockets, socket.id ≠ id := by simpa using held
        refine .absent before ?_
        simpa [or_imp, forall_and] using ⟨before, same⟩
  · apply affects_of_same
    rfl

theorem affects_of_stop (distinct : server.ledger.ids.Nodup)
    (after_eq : after.sockets = server.sockets.map fun socket =>
      { socket with connection := socket.connection.cancel }) (id : Nat) :
    server.Affects after id (Entry.ofId id (server.entries .stop)) := by
  simp only [entries]
  by_cases held : ∃ socket ∈ server.sockets, socket.id = id
  · rcases held with ⟨socket, mem, rfl⟩
    rcases List.append_of_mem mem with ⟨front, behind, sockets_eq⟩
    have apart := ne_of_distinct distinct sockets_eq
    simp only [List.mem_append, or_imp, forall_and] at apart
    have entries_eq : Entry.ofId socket.id (server.sockets.map fun socket =>
        ({ id := socket.id, action := .cancel } : Entry Backend)) = [⟨socket.id, .cancel, []⟩] := by
      have none_of (part : List Socket) (inside : ∀ other ∈ part, other.id ≠ socket.id) :
          Entry.ofId socket.id (part.map fun socket =>
            ({ id := socket.id, action := .cancel } : Entry Backend)) = [] := by
        simpa [Entry.ofId] using inside
      rw [sockets_eq, List.map_append, List.map_cons, Entry.ofId, List.filter_append,
        List.filter_cons_of_pos (by simp)]
      change Entry.ofId _ _ ++ _ :: Entry.ofId _ _ = _
      rw [none_of front apart.1, none_of behind apart.2]
      rfl
    rw [entries_eq]
    refine .turns rfl mem .cancel ?_
    rw [after_eq]
    exact List.mem_map_of_mem mem
  · have before : ∀ socket ∈ server.sockets, socket.id ≠ id := by simpa using held
    have entries_eq : Entry.ofId id (server.sockets.map fun socket =>
        ({ id := socket.id, action := .cancel } : Entry Backend)) = [] := by
      simpa [Entry.ofId] using before
    rw [entries_eq]
    refine .absent before ?_
    simpa [after_eq] using before

/-- What an event is for any connection of a server. -/
theorem affects_of_step (distinct : server.ledger.ids.Nodup)
    (stepped : server.step event = some after) (id : Nat) :
    server.Affects after id (Entry.ofId id (server.entries event)) := by
  cases steps_of_step stepped with
  | accept => exact affects_of_accept server id
  | enter entering found =>
      rcases List.find?_eq_some_iff_append.1 found with ⟨stage_eq, front, behind, sockets_eq, _⟩
      simp only [entries, found, Option.toList_some, List.map_cons, List.map_nil]
      refine affects_of_turn distinct sockets_eq ?_ (.enter (by simpa using stage_eq)) id
      exact sockets_put distinct sockets_eq _ _
  | advance found connection_stepped =>
      rcases exists_socket_of_find? found with ⟨front, behind, sockets_eq⟩
      simp only [entries, found, connection_stepped, Option.toList_some, List.flatMap_cons,
        List.flatMap_nil, List.map_cons, List.map_nil, List.append_nil]
      refine affects_of_turn distinct sockets_eq ?_ (.advance rfl connection_stepped) id
      exact sockets_put distinct sockets_eq _ _
  | leave found =>
      rcases exists_socket_of_find? found with ⟨front, behind, sockets_eq⟩
      refine affects_of_turn distinct sockets_eq ?_ (.leave rfl) id
      exact sockets_put distinct sockets_eq _ _
  | release found =>
      rcases exists_socket_of_find? found with ⟨front, behind, sockets_eq⟩
      exact affects_of_release distinct sockets_eq rfl (sockets_filter distinct sockets_eq) id
  | change changes found changed =>
      rcases exists_turn_of_changes changes found changed with ⟨action, deeds, entries_eq, turn⟩
      rcases exists_socket_of_socket? found with ⟨rfl, front, behind, sockets_eq⟩
      rw [entries_eq]
      exact affects_of_turn distinct sockets_eq (sockets_put distinct sockets_eq _ _) turn id
  | stop => exact affects_of_stop distinct rfl id
  | tally | look | join | tick =>
      apply affects_of_same
      rfl

/-! ### Runs -/

/-- What a server is started with and keeps. -/
structure Continues (server after : Server Backend) : Prop where
  service_eq : after.service = server.service
  capacity_eq : after.capacity = server.capacity

theorem continues_of_step (stepped : server.step event = some after) :
    server.Continues after := by
  cases steps_of_step stepped with
  | accept =>
      simp only [accept]
      split <;> exact ⟨rfl, rfl⟩
  | _ => exact ⟨rfl, rfl⟩

/-- Where a connection is that a journal tells of, and what holds of the two. -/
inductive Hosts (server : Server Backend) (journal : List (Entry Backend)) (id : Nat)
    (held : List (Entry Backend) → Socket → Prop) : Prop where
  | absent (untold : Entry.ofId id journal = [])
      (missing : ∀ socket ∈ server.sockets, socket.id ≠ id) : Hosts server journal id held
  | present {socket : Socket} (holds : held journal socket) (id_eq : socket.id = id)
      (mem : socket ∈ server.sockets) : Hosts server journal id held
  | gone {socket : Socket} (holds : held journal socket) (past : id < server.accepted)
      (missing : ∀ other ∈ server.sockets, other.id ≠ id) : Hosts server journal id held

theorem eq_of_id_eq {other : Socket} (distinct : server.ledger.ids.Nodup)
    (mem : socket ∈ server.sockets) (other_mem : other ∈ server.sockets)
    (same : other.id = socket.id) : other = socket := by
  rw [ids_ledger] at distinct
  exact List.inj_on_of_nodup_map distinct other_mem mem same

theorem lt_accepted_of_mem (distinct : server.ledger.IsDistinct) (mem : socket ∈ server.sockets) :
    socket.id < server.accepted := by
  apply distinct.lt_accepted
  rw [ids_ledger]
  exact List.mem_map_of_mem mem

theorem accepted_le_of_step (distinct : server.ledger.IsDistinct)
    (stepped : server.step event = some after) : server.accepted ≤ after.accepted := by
  have change := change_of_step distinct.nodup stepped
  change server.ledger.accepted ≤ after.ledger.accepted
  generalize after.ledger = ledger at change ⊢
  cases change with
  | admitted _ _ => exact Nat.le_succ _
  | refused _ _ => exact Nat.le_succ _
  | _ => exact Nat.le_refl _

theorem Hosts.untold_or_held {journal : List (Entry Backend)}
    {held : List (Entry Backend) → Socket → Prop} (hosts : server.Hosts journal id held) :
    Entry.ofId id journal = [] ∨ ∃ socket, held journal socket := by
  cases hosts with
  | absent untold _ => exact .inl untold
  | present holds _ _ => exact .inr ⟨_, holds⟩
  | gone holds _ _ => exact .inr ⟨_, holds⟩

/-- What holds of each connection when it arrives and is kept by its turns holds of it for good. -/
theorem Hosts.step {journal : List (Entry Backend)}
    {held : List (Entry Backend) → Socket → Prop} (hosts : server.Hosts journal id held)
    (distinct : server.ledger.IsDistinct) (stepped : server.step event = some after)
    (arrives : ∀ more, Entry.ofId id journal = [] →
      Entry.ofId id more = [⟨id, .arrive server.now, []⟩] → 0 < after.permitsHeld →
      held (journal ++ more) (Socket.start id server.capacity server.now))
    (stays : ∀ more socket, held journal socket → Entry.ofId id more = [] →
      held (journal ++ more) socket)
    (turns : ∀ journal more socket action deeds next, held journal socket →
      Entry.ofId id more = [⟨id, action, deeds⟩] →
      socket.Turn server.service action deeds next → held (journal ++ more) next) :
    after.Hosts (journal ++ server.entries event) id held := by
  have accepted_le := accepted_le_of_step distinct stepped
  have affects := affects_of_step distinct.nodup stepped id
  generalize more_eq : Entry.ofId id (server.entries event) = more at affects
  cases hosts with
  | absent untold missing =>
      cases affects with
      | absent _ still =>
          refine .absent ?_ still
          rw [Entry.ofId_append, untold, more_eq]
          rfl
      | arrives fresh mem =>
          exact .present (arrives _ untold more_eq (List.length_pos_of_mem mem)) rfl mem
      | arrivesLate fresh turn mem =>
          rcases List.filter_eq_append_iff.1 (more_eq.trans (List.singleton_append.symm)) with
            ⟨first, rest, entries_eq, first_eq, rest_eq⟩
          have arrived := arrives first untold first_eq (List.length_pos_of_mem mem)
          have told := turns _ rest _ _ _ _ arrived rest_eq turn
          rw [List.append_assoc, ← entries_eq] at told
          exact .present told turn.id_eq mem
      | stays id_eq mem _ => exact absurd id_eq (missing _ mem)
      | turns id_eq mem _ _ => exact absurd id_eq (missing _ mem)
      | released id_eq mem _ _ => exact absurd id_eq (missing _ mem)
  | @present socket holds id_eq mem =>
      have lt := lt_accepted_of_mem distinct mem
      rw [id_eq] at lt
      have same {other : Socket} (other_mem : other ∈ server.sockets) (other_eq : other.id = id) :
          other = socket :=
        eq_of_id_eq distinct.nodup mem other_mem (other_eq.trans id_eq.symm)
      cases affects with
      | absent before _ => exact absurd id_eq (before _ mem)
      | arrives fresh _ => exact absurd fresh (Nat.ne_of_lt lt)
      | arrivesLate fresh _ _ => exact absurd fresh (Nat.ne_of_lt lt)
      | stays other_eq other_mem still =>
          rw [same other_mem other_eq] at still
          exact .present (stays _ _ holds more_eq) id_eq still
      | turns other_eq other_mem turn still =>
          rw [same other_mem other_eq] at turn
          exact .present (turns _ _ _ _ _ _ holds more_eq turn) (turn.id_eq.trans id_eq) still
      | released _ _ _ gone =>
          exact .gone (stays _ _ holds more_eq) (Nat.lt_of_lt_of_le lt accepted_le) gone
  | gone holds past missing =>
      have past_after := Nat.lt_of_lt_of_le past accepted_le
      cases affects with
      | absent _ still => exact .gone (stays _ _ holds more_eq) past_after still
      | arrives fresh _ => exact absurd fresh (Nat.ne_of_lt past)
      | arrivesLate fresh _ _ => exact absurd fresh (Nat.ne_of_lt past)
      | stays id_eq mem _ => exact absurd id_eq (missing _ mem)
      | turns id_eq mem _ _ => exact absurd id_eq (missing _ mem)
      | released id_eq mem _ _ => exact absurd id_eq (missing _ mem)

theorem continues_of_run (run_eq : server.run events = some after) : server.Continues after := by
  have same : server.Continues server := ⟨rfl, rfl⟩
  refine @run_induction _ _ _ [] _ (fun _ after => server.Continues after) ?_ same run_eq
  rintro past middle event after ⟨service_eq, capacity_eq⟩ stepped
  rcases continues_of_step stepped with ⟨same_service, same_capacity⟩
  exact ⟨same_service.trans service_eq, same_capacity.trans capacity_eq⟩

theorem run_concat (run_eq : server.run past = some middle)
    (stepped : middle.step event = some after) : server.run (past ++ [event]) = some after := by
  rw [run_append, run_eq, Option.bind_some, run, List.foldlM_cons, stepped]
  rfl

section Start

variable {config : Config} {registry : Registry Backend} {backend : Backend} {capacity : Nat}

/-- What holds of a connection in each run of a server that ends with some event. -/
theorem hosts_induction {held : List (Entry Backend) → Socket → Prop}
    (kept : ∀ past server event after,
      (start config registry backend capacity).run past = some server →
      server.step event = some after →
      server.Hosts ((start config registry backend capacity).journal past) id held →
      after.Hosts ((start config registry backend capacity).journal past ++ server.entries event)
        id held)
    (run_eq : (start config registry backend capacity).run events = some server) :
    server.Hosts ((start config registry backend capacity).journal events) id held := by
  have empty : (start config registry backend capacity).sockets = [] := rfl
  generalize start config registry backend capacity = first at kept run_eq empty ⊢
  -- The journal is told from the start, so the events of the past come along in the induction.
  refine (@run_induction _ _ _ [] _ (fun past server =>
    first.run past = some server ∧ server.Hosts (first.journal past) id held) ?_
      ⟨rfl, .absent rfl (by simp [empty])⟩ run_eq).2
  rintro past server event after ⟨past_eq, hosts⟩ stepped
  refine ⟨run_concat past_eq stepped, ?_⟩
  rw [journal_concat past_eq stepped]
  exact kept past server event after past_eq stepped hosts

variable (run_eq : (start config registry backend capacity).run events = some server)

include run_eq

/-- The journal of a run tells the lives of all connections that there were. -/
theorem hosts_of_run (id : Nat) :
    server.Hosts ((start config registry backend capacity).journal events) id
      fun journal socket => ∃ since actions,
        Entry.Tells (Service.ofConfig config registry) capacity id journal since actions
          socket := by
  refine hosts_induction ?_ run_eq
  intro past server event after past_eq stepped hosts
  have distinct : server.ledger.IsDistinct :=
    ((KeepsBooks.start config registry backend capacity).run past_eq).distinct
  rcases continues_of_run past_eq with ⟨service_eq, capacity_eq⟩
  apply hosts.step distinct stepped
  · intro more untold more_eq _
    rw [capacity_eq]
    exact ⟨_, _, Entry.tells_of_arrival untold more_eq⟩
  · rintro more socket ⟨since, actions, tells⟩ more_eq
    exact ⟨since, actions, tells.stay more_eq⟩
  · rintro journal more socket action deeds next ⟨since, actions, tells⟩ more_eq turn
    rw [service_eq] at turn
    exact ⟨since, _, tells.turn more_eq turn⟩

theorem untold_or_tells (id : Nat) :
    let journal := (start config registry backend capacity).journal events
    Entry.ofId id journal = [] ∨ ∃ since actions socket,
      Entry.Tells (Service.ofConfig config registry) capacity id journal since actions socket := by
  intro journal
  rcases (hosts_of_run run_eq id).untold_or_held with untold | ⟨socket, since, actions, tells⟩
  · exact .inl untold
  · exact .inr ⟨since, actions, socket, tells⟩

/-- A connection that a server has is told of in the journal. -/
theorem tells_of_mem (mem : socket ∈ server.sockets) :
    ∃ since actions, Entry.Tells (Service.ofConfig config registry) capacity socket.id
      ((start config registry backend capacity).journal events) since actions socket := by
  have distinct : server.ledger.IsDistinct :=
    ((KeepsBooks.start config registry backend capacity).run run_eq).distinct
  cases hosts_of_run run_eq socket.id with
  | absent _ missing => exact absurd rfl (missing socket mem)
  | present holds id_eq other_mem =>
      have same := eq_of_id_eq distinct.nodup mem other_mem id_eq
      subst same
      exact holds
  | gone _ _ missing => exact absurd rfl (missing socket mem)

end Start

end Server

end DocumentProtocol
