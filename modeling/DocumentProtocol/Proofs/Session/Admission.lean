import DocumentProtocol.Proofs.Session.Drain

/-!
# Permits and counters

A server counts a connection while it is served, and the connection holds a permit from before it is
counted until after it is counted out. `Ledger.Agrees` compares the ledger of a server with the
events of the past: how many sockets came in, how many connections were counted and how many were
counted out again. Every change of a ledger keeps the two in agreement, whatever happens in between
and on whichever connection: each figure of the ledger moves by as much as the event counts.

The main statement draws the consequences for a run: no more connections are counted than permits
are held and no more permits are held than there are, a socket is refused only when all of them are,
and a server that has returned, as it can always come to do, has seen each of its connections leave.
-/

namespace DocumentProtocol

variable {Backend : Type}

/-- Whether an event is the end of a connection that was counted. -/
def Server.Event.isLeave : Server.Event → Bool
  | .leave _ _ => true
  | _ => false

/-- The number of sockets that hold a permit and are not counted at all. -/
def Stance.untallied : Stance → Nat
  | .admitting => 1
  | _ => 0

/-- The number of sockets that are counted, and are about to be counted as active. -/
def Stance.tallied : Stance → Nat
  | .entering => 1
  | _ => 0

theorem Stance.untallied_eq_zero {stance : Stance} (settled : stance ≠ .admitting) :
    stance.untallied = 0 := by
  cases stance with
  | admitting => exact absurd rfl settled
  | _ => rfl

theorem Stance.tallied_eq_zero {stance : Stance} (settled : stance ≠ .entering) :
    stance.tallied = 0 := by
  cases stance with
  | entering => exact absurd rfl settled
  | _ => rfl

namespace Ledger

open Server

variable {ledger after : Ledger} {event : Event} {past : List Event}

/-- An event within connections is none of those that are counted. -/
theorem ne_of_isInner (inner : event.isInner = true) :
    event ≠ .accept ∧ event ≠ .tally ∧ event ≠ .enter ∧ event.isLeave = false := by
  cases event <;> simp_all [Event.isInner, Event.isLeave]

/-! ### What each figure moves by -/

theorem Looks.untallied_eq {stance : Stance} (looks : ledger.Looks stance) :
    stance.untallied = ledger.stance.untallied := by
  cases looks <;> simp only [Stance.untallied, *]

theorem Looks.tallied_eq {stance : Stance} (looks : ledger.Looks stance) :
    stance.tallied = ledger.stance.tallied := by
  cases looks <;> simp only [Stance.tallied, *]

theorem untallied_of_joined? {stance next : Stance} (joined : stance.joined? = some next) :
    next.untallied = stance.untallied := by
  cases stance <;> cases joined <;> rfl

theorem tallied_of_joined? {stance next : Stance} (joined : stance.joined? = some next) :
    next.tallied = stance.tallied := by
  cases stance <;> cases joined <;> rfl

theorem Change.accepted_eq (change : ledger.Change event after) :
    after.accepted = ledger.accepted + [event].count .accept := by
  cases change with
  | inner inner => simp [(ne_of_isInner inner).1]
  | _ => simp

theorem Change.total_eq (change : ledger.Change event after) :
    after.total = ledger.total + UInt64.ofNat ([event].count .tally) := by
  cases change with
  | inner inner => simp [(ne_of_isInner inner).2.1]
  | _ => simp

/-- A socket that is counted is counted as active next. -/
theorem Change.tallied_eq (change : ledger.Change event after) :
    after.stance.tallied + [event].count .enter =
      ledger.stance.tallied + [event].count .tally := by
  cases change with
  | looked looks => simpa using looks.tallied_eq
  | joined _ stance_eq => simpa using tallied_of_joined? stance_eq
  | inner inner => simp [(ne_of_isInner inner).2.1, (ne_of_isInner inner).2.2.1]
  | admitted stance_eq _ => simp [stance_eq, Stance.tallied]
  | refused stance_eq _ => simp [stance_eq, Stance.tallied]
  | tallied stance_eq => simp [stance_eq, Stance.tallied]
  | entered stance_eq _ => simp [stance_eq, Stance.tallied]
  | _ => simp

theorem Change.numberAt_active (change : ledger.Change event after) :
    numberAt .active after.roster + [event].countP Event.isLeave =
      numberAt .active ledger.roster + [event].count .enter := by
  cases change with
  | entered _ roster_eq =>
      simp [roster_eq, Event.isLeave]
      omega
  | left roster_eq =>
      simp [roster_eq, Event.isLeave]
      omega
  | released roster_eq => simp [roster_eq, Event.isLeave]
  | inner inner => simp [(ne_of_isInner inner).2.2]
  | _ => simp [Event.isLeave]

/-- The counter of active connections counts those of the roster. -/
theorem Change.active_eq (change : ledger.Change event after)
    (active_eq : ledger.active = UInt64.ofNat (numberAt .active ledger.roster)) :
    after.active = UInt64.ofNat (numberAt .active after.roster) := by
  cases change with
  | admitted _ _ => simpa using active_eq
  | entered _ roster_eq => simp [active_eq, roster_eq, UInt64.add_assoc]
  | left roster_eq => simp [active_eq, roster_eq, ← UInt64.add_assoc]
  | released roster_eq => simp [active_eq, roster_eq]
  | _ => exact active_eq

theorem Change.held_le (change : ledger.Change event after)
    (held_le : ledger.roster.length ≤ ledger.limit) : after.roster.length ≤ after.limit := by
  cases change with
  | admitted _ room => simpa using Nat.succ_le_of_lt room
  | entered _ roster_eq => simpa [roster_eq] using held_le
  | left roster_eq => simpa [roster_eq] using held_le
  | released roster_eq =>
      simp [roster_eq] at held_le ⊢
      omega
  | _ => exact held_le

/-- A socket that comes in is refused or is about to be counted. -/
theorem Change.exists_refused (change : ledger.Change event after) :
    ∃ refused, after.rejected = ledger.rejected + UInt64.ofNat refused ∧
      refused + after.stance.untallied + [event].count .tally =
        ledger.stance.untallied + [event].count .accept := by
  cases change with
  | admitted stance_eq _ => exact ⟨0, by simp, by simp [stance_eq, Stance.untallied]⟩
  | refused stance_eq _ => exact ⟨1, rfl, by simp [stance_eq, Stance.untallied]⟩
  | tallied stance_eq => exact ⟨0, by simp, by simp [stance_eq, Stance.untallied]⟩
  | entered stance_eq _ => exact ⟨0, by simp, by simp [stance_eq, Stance.untallied]⟩
  | looked looks => exact ⟨0, by simp, by simpa using looks.untallied_eq⟩
  | joined _ stance_eq => exact ⟨0, by simp, by simpa using untallied_of_joined? stance_eq⟩
  | inner inner =>
      exact ⟨0, by simp, by simp [(ne_of_isInner inner).1, (ne_of_isInner inner).2.1]⟩
  | _ => exact ⟨0, by simp, by simp⟩

/-! ### Agreement -/

/-- Whether a ledger is what some events have made of an empty one. -/
structure Agrees (ledger : Ledger) (past : List Event) : Prop where
  held_le : ledger.roster.length ≤ ledger.limit
  accepted_eq : ledger.accepted = past.count .accept
  total_eq : ledger.total = UInt64.ofNat (past.count .tally)
  tallied_eq : past.count .tally = past.count .enter + ledger.stance.tallied
  entered_eq : past.count .enter = past.countP Event.isLeave + numberAt .active ledger.roster
  active_eq : ledger.active = UInt64.ofNat (numberAt .active ledger.roster)
  /-- A socket that was accepted was refused, or was counted, or is about to be. -/
  rejected_eq : ∃ refused, ledger.rejected = UInt64.ofNat refused ∧
    ledger.accepted = refused + past.count .tally + ledger.stance.untallied
  left : ∀ id, (id, .leaving) ∈ ledger.roster → ∃ departure, .leave id departure ∈ past
  returned : ledger.stance = .returned → ledger.roster = [] ∧ ledger.finished = []

/-- A connection is leaving once it has been counted out. -/
theorem Change.leaving (change : ledger.Change event after) {id : Nat}
    (leaving : (id, .leaving) ∈ after.roster) :
    (id, .leaving) ∈ ledger.roster ∨ ∃ departure, event = .leave id departure := by
  cases change with
  | admitted _ _ =>
      left
      simpa using leaving
  | entered _ roster_eq =>
      left
      simpa [roster_eq] using leaving
  | @left gone departure front behind roster_eq =>
      by_cases same : id = gone
      · right
        rw [same]
        exact ⟨departure, rfl⟩
      · left
        simpa [roster_eq, same] using leaving
  | released roster_eq =>
      left
      simp only [roster_eq, List.mem_append, List.mem_cons] at leaving ⊢
      exact leaving.imp_right .inr
  | _ => exact .inl leaving

theorem Looks.of_returned (looks : ledger.Looks .returned) :
    ledger.roster = [] ∧ ledger.finished = [] := by
  cases looks with
  | drained _ joined empty => exact ⟨empty, joined⟩
  | aborted _ joined empty => exact ⟨empty, joined⟩

/-- A server that has returned has no connections, and gets none. -/
theorem Change.returned (change : ledger.Change event after)
    (before : ledger.stance = .returned → ledger.roster = [] ∧ ledger.finished = [])
    (returned : after.stance = .returned) : after.roster = [] ∧ after.finished = [] := by
  cases change with
  | admitted _ _ => cases returned
  | refused _ _ => cases returned
  | tallied _ => cases returned
  | entered _ _ => cases returned
  | @looked stance looks =>
      have stance_eq : stance = .returned := returned
      subst stance_eq
      exact looks.of_returned
  | @joined id stance _ stance_eq =>
      have next_eq : stance = .returned := returned
      subst next_eq
      cases looking : ledger.stance <;> rw [looking] at stance_eq <;> cases stance_eq
  | left roster_eq => simp [(before returned).1] at roster_eq
  | released roster_eq => simp [(before returned).1] at roster_eq
  | _ => exact before returned

theorem Agrees.change (agrees : ledger.Agrees past) (change : ledger.Change event after) :
    after.Agrees (past ++ [event]) where
  held_le := change.held_le agrees.held_le
  accepted_eq := by rw [change.accepted_eq, agrees.accepted_eq, List.count_append]
  total_eq := by rw [change.total_eq, agrees.total_eq, List.count_append, UInt64.ofNat_add]
  tallied_eq := by
    have before := agrees.tallied_eq
    have moved := change.tallied_eq
    rw [List.count_append, List.count_append]
    omega
  entered_eq := by
    have before := agrees.entered_eq
    have moved := change.numberAt_active
    rw [List.count_append, List.countP_append]
    omega
  active_eq := change.active_eq agrees.active_eq
  rejected_eq := by
    rcases agrees.rejected_eq with ⟨refused, rejected_eq, sum_eq⟩
    rcases change.exists_refused with ⟨more, more_eq, moved⟩
    have accepted_eq := change.accepted_eq
    refine ⟨refused + more, ?_, ?_⟩
    · rw [more_eq, rejected_eq, UInt64.ofNat_add]
    · rw [List.count_append]
      omega
  left := by
    intro id leaving
    rcases change.leaving leaving with before | ⟨departure, rfl⟩
    · rcases agrees.left id before with ⟨departure, mem⟩
      exact ⟨departure, List.mem_append_left _ mem⟩
    · exact ⟨departure, by simp⟩
  returned := change.returned agrees.returned

theorem Change.limit_eq (change : ledger.Change event after) : after.limit = ledger.limit := by
  cases change <;> rfl

/-- A permit is given back by nothing but the release of a connection that was counted out. -/
theorem Change.mem_ids (change : ledger.Change event after) {id : Nat} (mem : id ∈ ledger.ids) :
    id ∈ after.ids ∨
      event = .release id ∧ (id, .leaving) ∈ ledger.roster ∧ id ∈ after.finished := by
  cases change with
  | admitted _ _ =>
      left
      simp only [ids, List.map_append]
      exact List.mem_append_left _ mem
  | entered _ roster_eq =>
      left
      simpa [ids, roster_eq] using mem
  | left roster_eq =>
      left
      simpa [ids, roster_eq] using mem
  | @released gone front behind roster_eq =>
      by_cases same : id = gone
      · right
        simp [same, roster_eq]
      · left
        simpa [ids, roster_eq, same] using mem
  | _ => exact .inl mem

/-- A task that has finished is on the list until it is joined. -/
theorem Change.mem_finished (change : ledger.Change event after) {id : Nat}
    (mem : id ∈ ledger.finished) : id ∈ after.finished ∨ event = .join id := by
  cases change with
  | @joined gone stance _ _ =>
      by_cases same : id = gone
      · right
        rw [same]
      · left
        exact (List.mem_erase_of_ne same).2 mem
  | released _ => exact .inl (List.mem_append_left _ mem)
  | _ => exact .inl mem

/-- Only a socket that finds as many connections as there are permits is refused. -/
theorem Change.rejected_eq (change : ledger.Change event after) :
    after.rejected = ledger.rejected ∨
      event = .accept ∧ ledger.limit ≤ ledger.roster.length ∧
        after.rejected = ledger.rejected + 1 := by
  cases change with
  | refused _ full => exact .inr ⟨rfl, full, rfl⟩
  | _ => exact .inl rfl

end Ledger

namespace Server

variable {server after : Server Backend} {event : Event} {events past : List Event} {limit : Nat}

/-! ### Runs -/

/-- Whether a server has kept its books since it was started with a number of permits. -/
structure KeepsBooks (limit : Nat) (past : List Event) (server : Server Backend) : Prop where
  orderly : server.ledger.IsOrderly
  agrees : server.ledger.Agrees past
  limit_eq : server.maxConnections = limit

theorem KeepsBooks.start (config : Config) (registry : Registry Backend) (backend : Backend)
    (capacity : Nat) :
    KeepsBooks config.server.maxConnections [] (start config registry backend capacity) where
  orderly := ⟨⟨List.nodup_nil, by simp [ledger, Server.start, Ledger.ids]⟩, rfl⟩
  agrees :=
    { held_le := Nat.zero_le _
      accepted_eq := rfl
      total_eq := rfl
      tallied_eq := rfl
      entered_eq := rfl
      active_eq := rfl
      rejected_eq := ⟨0, rfl, rfl⟩
      left := by simp [ledger, Server.start]
      returned := fun _ => ⟨rfl, rfl⟩ }
  limit_eq := rfl

theorem KeepsBooks.distinct (books : KeepsBooks limit past server) :
    server.ledger.IsDistinct :=
  books.orderly.distinct

theorem KeepsBooks.change (books : KeepsBooks limit past server)
    (stepped : server.step event = some after) :
    Ledger.Change server.ledger event after.ledger :=
  change_of_step books.distinct.nodup stepped

theorem KeepsBooks.step (books : KeepsBooks limit past server)
    (stepped : server.step event = some after) : KeepsBooks limit (past ++ [event]) after where
  orderly := books.orderly.change (books.change stepped)
  agrees := books.agrees.change (books.change stepped)
  limit_eq := (books.change stepped).limit_eq.trans books.limit_eq

theorem KeepsBooks.run (books : KeepsBooks limit past server)
    (run_eq : server.run events = some after) : KeepsBooks limit (past ++ events) after := by
  apply run_induction _ books run_eq
  intro past server event after books stepped
  exact books.step stepped

/-- Whether the task of a connection has come to its end in the past of a server. -/
structure HasLeft (past : List Event) (server : Server Backend) (id : Nat) : Prop where
  left : ∃ departure, .leave id departure ∈ past
  released : .release id ∈ past
  joined : id ∈ server.finished ∨ .join id ∈ past

theorem HasLeft.step {id : Nat} (gone : HasLeft past server id)
    (books : KeepsBooks limit past server) (stepped : server.step event = some after) :
    HasLeft (past ++ [event]) after id := by
  rcases gone with ⟨⟨departure, left⟩, released, joined⟩
  refine ⟨⟨departure, List.mem_append_left _ left⟩, List.mem_append_left _ released, ?_⟩
  rcases joined with mem | joined
  · exact ((books.change stepped).mem_finished mem).imp_right (by rintro rfl; simp)
  · exact .inr (List.mem_append_left _ joined)

/-- A connection keeps its permit until it has been counted out. -/
theorem KeepsBooks.mem_ids_run {id : Nat} (books : KeepsBooks limit past server)
    (mem : id ∈ server.ledger.ids) (run_eq : server.run events = some after) :
    id ∈ after.ledger.ids ∨ HasLeft (past ++ events) after id := by
  -- The books come along in the induction: they say that a connection at its release had left.
  refine (run_induction (motive := fun past server => KeepsBooks limit past server ∧
    (id ∈ server.ledger.ids ∨ HasLeft past server id)) ?_ ⟨books, .inl mem⟩ run_eq).2
  rintro past server event after ⟨books, found⟩ stepped
  refine ⟨books.step stepped, ?_⟩
  rcases found with mem | gone
  · rcases (books.change stepped).mem_ids mem with mem | ⟨rfl, leaving, finished⟩
    · exact .inl mem
    · right
      rcases books.agrees.left id leaving with ⟨departure, left⟩
      exact ⟨⟨departure, List.mem_append_left _ left⟩, by simp, .inl finished⟩
  · exact .inr (gone.step books stepped)

/-! ### What the books say -/

/-- What the counters of a server and its permits have to do with the events of the past. -/
structure Balance (limit : Nat) (past : List Event) (server : Server Backend) : Prop where
  active_le_held : server.shared.metrics.connectionsActive.toNat ≤ server.permitsHeld
  held_le_limit : server.permitsHeld ≤ limit
  left_le_entered : past.countP Event.isLeave ≤ past.count .enter
  /-- The counter of active connections never falls below zero. -/
  active_add_left : limit < UInt64.size →
    server.shared.metrics.connectionsActive.toNat + past.countP Event.isLeave = past.count .enter
  total_sub_left : server.stance ≠ .entering →
    server.shared.metrics.connectionsTotal - UInt64.ofNat (past.countP Event.isLeave) =
      server.shared.metrics.connectionsActive
  /-- Between the two counters that count a socket, the first is ahead by this socket. -/
  total_sub_left_entering : server.stance = .entering →
    server.shared.metrics.connectionsTotal - UInt64.ofNat (past.countP Event.isLeave) =
      server.shared.metrics.connectionsActive + 1
  total_add_rejected : server.stance ≠ .admitting →
    server.shared.metrics.connectionsTotal + server.shared.metrics.connectionsRejected =
      UInt64.ofNat (past.count .accept)

/-- What becomes of a socket that comes in. -/
inductive Accepted (limit : Nat) (server after : Server Backend) : Prop where
  | admitted (room : server.permitsHeld < limit)
      (held_eq : after.permitsHeld = server.permitsHeld + 1)
      (rejected_eq : after.shared.metrics.connectionsRejected =
        server.shared.metrics.connectionsRejected)
  | refused (full : server.permitsHeld = limit)
      (held_eq : after.permitsHeld = server.permitsHeld)
      (rejected_eq : after.shared.metrics.connectionsRejected =
        server.shared.metrics.connectionsRejected + 1)

/-- The first counter of connections, in terms of the others. -/
theorem KeepsBooks.total_eq (books : KeepsBooks limit past server) :
    server.shared.metrics.connectionsTotal - UInt64.ofNat (past.countP Event.isLeave) =
      server.shared.metrics.connectionsActive + UInt64.ofNat server.stance.tallied := by
  have total_eq : server.shared.metrics.connectionsTotal = UInt64.ofNat (past.count .tally) :=
    books.agrees.total_eq
  have active_eq : server.shared.metrics.connectionsActive =
      UInt64.ofNat (Ledger.numberAt .active server.ledger.roster) := books.agrees.active_eq
  have tallied_eq : past.count .tally = past.count .enter + server.stance.tallied :=
    books.agrees.tallied_eq
  rw [total_eq, tallied_eq, books.agrees.entered_eq, active_eq, UInt64.ofNat_add, UInt64.ofNat_add,
    UInt64.add_assoc, UInt64.add_comm, UInt64.add_sub_cancel]

theorem KeepsBooks.balance (books : KeepsBooks limit past server) :
    server.Balance limit past := by
  have sum_eq := books.total_eq
  rcases books with ⟨_, agrees, rfl⟩
  have held_le : server.permitsHeld ≤ server.maxConnections := by
    rw [← length_roster]
    exact agrees.held_le
  have number_le : Ledger.numberAt .active server.ledger.roster ≤ server.permitsHeld := by
    rw [← length_roster]
    exact List.countP_le_length
  have entered_eq := agrees.entered_eq
  have active_eq : server.shared.metrics.connectionsActive =
      UInt64.ofNat (Ledger.numberAt .active server.ledger.roster) := agrees.active_eq
  constructor
  · rw [active_eq, UInt64.toNat_ofNat']
    exact Nat.le_trans (Nat.mod_le _ _) number_le
  · exact held_le
  · omega
  · intro small
    rw [active_eq, UInt64.toNat_ofNat_of_lt' (by omega)]
    omega
  · intro settled
    rw [sum_eq, Stance.tallied_eq_zero settled]
    exact UInt64.add_zero _
  · intro entering
    rw [sum_eq, entering]
    rfl
  · intro settled
    have total_eq : server.shared.metrics.connectionsTotal = UInt64.ofNat (past.count .tally) :=
      agrees.total_eq
    rcases agrees.rejected_eq with ⟨refused, rejected_eq, accepted_eq⟩
    have rejected_eq : server.shared.metrics.connectionsRejected =
        UInt64.ofNat refused := rejected_eq
    have none_untallied : server.ledger.stance.untallied = 0 := Stance.untallied_eq_zero settled
    rw [none_untallied, Nat.add_zero, agrees.accepted_eq] at accepted_eq
    rw [total_eq, rejected_eq, accepted_eq, ← UInt64.ofNat_add, Nat.add_comm]

theorem KeepsBooks.accepted (books : KeepsBooks limit past server)
    (stepped : server.step .accept = some after) : Accepted limit server after := by
  have held_le := books.balance.held_le_limit
  have limit_eq := books.limit_eq
  simp only [Server.step] at stepped
  split at stepped
  · cases stepped
    by_cases room : server.permitsHeld < server.maxConnections
    · rw [accept, if_pos room]
      exact .admitted (by omega) (by simp [permitsHeld]) rfl
    · rw [accept, if_neg room]
      exact .refused (by omega) rfl rfl
  · cases stepped

/-- What is true of a server that has returned. -/
structure Settled (server first : Server Backend) (past : List Event) : Prop where
  sockets_eq : server.sockets = []
  active_eq : server.shared.metrics.connectionsActive = 0
  /-- The task of each connection that there was at any time has come to its end and was joined. -/
  left : ∀ earlier later middle, past = earlier ++ later → first.run earlier = some middle →
    ∀ socket ∈ middle.sockets, (∃ departure, .leave socket.id departure ∈ past) ∧
      .release socket.id ∈ past ∧ .join socket.id ∈ past

theorem KeepsBooks.settled {first : Server Backend} (books : KeepsBooks limit [] first)
    (run_eq : first.run past = some server) (returned : server.stance = .returned) :
    server.Settled first past := by
  have kept : KeepsBooks limit past server := books.run run_eq
  rcases kept.agrees.returned returned with ⟨roster_eq, finished_eq⟩
  have finished_eq : server.finished = [] := finished_eq
  constructor
  · exact List.map_eq_nil_iff.1 roster_eq
  · have active_eq := kept.agrees.active_eq
    rw [roster_eq] at active_eq
    exact active_eq
  · rintro earlier later middle rfl earlier_eq socket mem
    rw [run_append, earlier_eq, Option.bind_some] at run_eq
    have then_kept : KeepsBooks limit earlier middle := books.run earlier_eq
    have held : socket.id ∈ middle.ledger.ids := by
      rw [ids_ledger]
      exact List.mem_map_of_mem mem
    rcases then_kept.mem_ids_run held run_eq with still_held | gone
    · rw [Ledger.ids, roster_eq] at still_held
      cases still_held
    · refine ⟨gone.left, gone.released, gone.joined.resolve_left ?_⟩
      simp [finished_eq]

/--
Whatever happens on the connections of a server, in whichever order they come and go, and whenever
it is told to stop: each of them that is counted holds one of the permits, the counters are in
balance with what has happened, a socket is refused when all permits are held and at no other time,
and a server that has returned has seen the task of each of its connections end and counts none.
A server that is told to stop can always come to return.
-/
theorem balances_connections (config : Config) (registry : Registry Backend) (backend : Backend)
    (capacity : Nat) (events : List Event) (server : Server Backend)
    (run_eq : (start config registry backend capacity).run events = some server) :
    server.Balance config.server.maxConnections events ∧ server.Progresses ∧
      (∀ after, server.step .accept = some after →
        Accepted config.server.maxConnections server after) ∧
      (∀ event after, event ≠ .accept → server.step event = some after →
        after.shared.metrics.connectionsRejected = server.shared.metrics.connectionsRejected) ∧
      (server.stance = .returned →
        server.Settled (start config registry backend capacity) events) := by
  have started := KeepsBooks.start config registry backend capacity
  have books : KeepsBooks config.server.maxConnections events server := started.run run_eq
  refine ⟨books.balance, progresses books.orderly, ?_, ?_, ?_⟩
  · intro after stepped
    exact books.accepted stepped
  · intro event after other stepped
    rcases (books.change stepped).rejected_eq with same | ⟨rfl, _⟩
    · exact same
    · exact absurd rfl other
  · intro returned
    exact started.settled run_eq returned

/-- A server with a single permit and no responders. -/
def single : Server Unit := start { server := { maxConnections := 1 } } {} () 64

/--
A socket that is served, one that is refused while the first one is being served, and one that comes
in although the server has just been told to stop. The task of the first one fails; the server does
not wait for that of the last one.
-/
def singleEvents : List Event :=
  [.look, .look, .accept, .tally, .enter, .look, .look, .accept, .look, .leave 0 .panicked,
    .release 0, .join 0, .look, .look, .stop, .accept, .tally, .enter, .look, .tick 10000, .look,
    .leave 2 .aborted, .release 2, .join 2, .look]

theorem balances_connections_single :
    ∃ server, single.run singleEvents = some server ∧
      server.shared.metrics.ofConnections = (2, 0, 1) ∧ server.Balance 1 singleEvents ∧
      server.Progresses ∧ server.stance = .returned ∧ server.Settled single singleEvents := by
  have ran : (single.run singleEvents).map (fun server =>
      (server.stance, server.shared.metrics.ofConnections)) = some (.returned, 2, 0, 1) := rfl
  rcases Option.map_eq_some_iff.1 ran with ⟨server, run_eq, same⟩
  rw [Prod.mk.injEq] at same
  rcases same with ⟨returned, counters_eq⟩
  rcases balances_connections { server := { maxConnections := 1 } } {} () 64 singleEvents server
    run_eq with ⟨balance, progresses, _, _, settled⟩
  exact ⟨server, run_eq, counters_eq, balance, progresses, returned, settled returned⟩

end Server

end DocumentProtocol
