import DocumentProtocol.Proofs.Session.Roster
import Mathlib.Algebra.GroupWithZero.Nat

/-!
# Servers return

Nothing that happens to a server gets it stuck. Once it has been told to stop it can return by its
own doing, whatever its clients do or leave undone: it leaves its loop, waits for its tasks as long
as the limit on its shutdown allows, and aborts those that are left. Only the answer to a message
that is at hand is waited for beyond the limit, and a step is enough for that.

Everything that a server has yet to do on the way has a price, and `Server.toGo` is the sum. As long
as the server has not returned, some of its own events lower it.
-/

namespace DocumentProtocol

variable {Backend : Type}

/-- Whether an event takes no one but the server, its tasks and the clock. -/
def Server.Event.isOwn : Server.Event → Bool
  | .tally => true
  | .enter => true
  | .look => true
  | .join _ => true
  | .advance _ => true
  | .leave _ departure => departure ≠ .panicked
  | .release _ => true
  | .tick _ => true
  | _ => false

/-- The number of sockets that a server has between taking a permit and starting a task. -/
def Stance.pending : Stance → Nat
  | .admitting => 1
  | .entering => 1
  | _ => 0

namespace Ledger

variable {ledger after : Ledger} {event : Server.Event}

/-- Whether a ledger has distinct connections, and the server is about to count the others. -/
structure IsOrderly (ledger : Ledger) : Prop where
  distinct : ledger.IsDistinct
  pending_eq : numberAt .admitted ledger.roster = ledger.stance.pending

theorem Looks.pending_eq {stance : Stance} (looks : ledger.Looks stance) :
    stance.pending = ledger.stance.pending := by
  cases looks <;> simp only [Stance.pending, *]

theorem pending_of_joined? {stance next : Stance} (joined : stance.joined? = some next) :
    next.pending = stance.pending := by
  cases stance <;> cases joined <;> rfl

theorem IsOrderly.change (orderly : ledger.IsOrderly) (change : ledger.Change event after) :
    after.IsOrderly := by
  refine ⟨orderly.distinct.change change, ?_⟩
  have pending_eq := orderly.pending_eq
  cases change with
  | admitted stance_eq _ =>
      rw [stance_eq] at pending_eq
      simpa [Stance.pending] using pending_eq
  | refused stance_eq _ =>
      rw [stance_eq] at pending_eq
      exact pending_eq
  | tallied stance_eq =>
      rw [stance_eq] at pending_eq
      exact pending_eq
  | entered stance_eq roster_eq =>
      rw [stance_eq, roster_eq] at pending_eq
      simp only [numberAt_append, numberAt_cons, ↓reduceIte, Stance.pending] at pending_eq
      simp only [numberAt_append, numberAt_cons, reduceCtorEq, ↓reduceIte, Stance.pending]
      omega
  | looked looks => exact pending_eq.trans looks.pending_eq.symm
  | joined _ stance_eq => exact pending_eq.trans (pending_of_joined? stance_eq).symm
  | left roster_eq =>
      rw [roster_eq] at pending_eq
      simpa using pending_eq
  | released roster_eq =>
      rw [roster_eq] at pending_eq
      simpa using pending_eq
  | _ => exact pending_eq

/-- A server that has been told to stop is never told otherwise. -/
theorem Change.isCancelled (change : ledger.Change event after)
    (cancelled : ledger.isCancelled = true) : after.isCancelled = true := by
  cases change with
  | stopped => rfl
  | _ => exact cancelled

end Ledger

/-! ### What there is to do -/

/-- The price of the way from a stance to the return. -/
def Stance.price : Stance → Nat
  | .joining => 5
  | .admitting => 5
  | .accepting => 4
  | .entering => 4
  | .checking => 3
  | .draining _ => 2
  | .aborting => 1
  | .returned => 0

theorem price_of_joined? {stance next : Stance} (joined : stance.joined? = some next) :
    next.price ≤ stance.price := by
  cases stance <;> cases joined <;> simp [Stance.price]

/-- The price of the end of a connection, of which joining its task is one. -/
def Socket.price (socket : Socket) : Nat :=
  match socket.stage with
  | .admitted => 5
  | .active => if socket.connection.phase.isDispatching then 4 else 3
  | .leaving => 2

namespace Server

variable {server after : Server Backend} {socket : Socket} {event : Event}
  {past events : List Event}

def toGo (server : Server Backend) : Nat :=
  server.stance.price + (server.sockets.map Socket.price).sum + server.finished.length

/-- What holds of a server and the events of its past holds after a run if each event keeps it. -/
theorem run_induction {motive : List Event → Server Backend → Prop}
    (kept : ∀ past server event after, motive past server →
      server.step event = some after → motive (past ++ [event]) after)
    (initial : motive past server) (run_eq : server.run events = some after) :
    motive (past ++ events) after := by
  induction events generalizing past server with
  | nil =>
      cases run_eq
      simpa using initial
  | cons event events ih =>
      simp only [run, List.foldlM_cons, Option.bind_eq_bind, Option.bind_eq_some_iff] at run_eq
      rcases run_eq with ⟨between, stepped, rest⟩
      have held := ih (kept past server event between initial stepped) rest
      simpa using held

theorem run_append (server : Server Backend) (earlier later : List Event) :
    server.run (earlier ++ later) = (server.run earlier).bind fun middle => middle.run later :=
  List.foldlM_append

theorem run_singleton (stepped : server.step event = some after) :
    server.run [event] = some after := by
  simp [run, stepped]

theorem orderly_run (orderly : server.ledger.IsOrderly) (run_eq : server.run events = some after) :
    after.ledger.IsOrderly := by
  refine @run_induction _ _ _ [] _ (fun _ server => server.ledger.IsOrderly) ?_ orderly run_eq
  intro _ server event after orderly stepped
  exact orderly.change (change_of_step orderly.distinct.nodup stepped)

theorem cancelled_run (orderly : server.ledger.IsOrderly) (cancelled : server.isCancelled = true)
    (run_eq : server.run events = some after) : after.isCancelled = true := by
  refine (@run_induction _ _ _ [] _ (fun _ server =>
    server.ledger.IsOrderly ∧ server.isCancelled = true) ?_ ⟨orderly, cancelled⟩ run_eq).2
  rintro _ server event after ⟨orderly, cancelled⟩ stepped
  have change := change_of_step orderly.distinct.nodup stepped
  exact ⟨orderly.change change, change.isCancelled cancelled⟩

/-- Whether a server can come nearer to its return by its own doing. -/
def ComesNearer (server : Server Backend) : Prop :=
  ∃ events after, server.run events = some after ∧ after.toGo < server.toGo ∧
    ∀ event ∈ events, event.isOwn = true

theorem comesNearer_of_step (stepped : server.step event = some after)
    (less : after.toGo < server.toGo) (own : event.isOwn = true) : server.ComesNearer :=
  ⟨[event], after, run_singleton stepped, less, by simpa using own⟩

section Distinct

variable (distinct : server.ledger.ids.Nodup) (mem : socket ∈ server.sockets)

include distinct mem

/-- Each connection is found by its identifier. -/
theorem find?_of_mem : server.find? socket.id socket.stage = some socket.connection := by
  rcases List.append_of_mem mem with ⟨front, behind, sockets_eq⟩
  have apart := ne_of_distinct distinct sockets_eq
  have found : server.socket? socket.id = some socket := by
    apply List.find?_eq_some_iff_append.2
    refine ⟨by simp, front, behind, sockets_eq, ?_⟩
    intro other other_mem
    simpa using apart other (List.mem_append_left _ other_mem)
  simp only [find?, found, Option.filter_some, decide_true, ↓reduceIte, Option.map_some]

theorem exists_left {departure : Departure} (stage_eq : socket.stage = .active)
    (able : server.canLeave socket.connection departure = true) :
    server.step (.leave socket.id departure) =
      some ((server.put socket.id .leaving socket.connection.abort).count .connectionClosed) := by
  have found := find?_of_mem distinct mem
  rw [stage_eq] at found
  simp only [step, leave, found, Option.filter_some, able, ↓reduceIte, Option.map_some]

theorem exists_released (stage_eq : socket.stage = .leaving) :
    server.step (.release socket.id) =
      some { server with
        sockets := server.sockets.filter fun other => other.id ≠ socket.id
        finished := server.finished ++ [socket.id] } := by
  have found := find?_of_mem distinct mem
  rw [stage_eq] at found
  simp only [step, release, found, Option.map_some]

/-- What putting back a connection does to the price of all. -/
theorem price_put (stage : Stage) (connection : Connection) :
    ((server.put socket.id stage connection).sockets.map Socket.price).sum + socket.price =
      (server.sockets.map Socket.price).sum + Socket.price ⟨socket.id, stage, connection⟩ := by
  rcases List.append_of_mem mem with ⟨front, behind, sockets_eq⟩
  rw [sockets_put distinct sockets_eq, sockets_eq]
  simp only [List.map_append, List.map_cons, List.sum_append, List.sum_cons]
  omega

/-- A message that is at hand is answered in one step. -/
theorem comesNearer_of_dispatching {header : Header} {body : Bytes}
    (stage_eq : socket.stage = .active)
    (phase_eq : socket.connection.phase = .dispatching header body) : server.ComesNearer := by
  have found := find?_of_mem distinct mem
  rw [stage_eq] at found
  rcases dispatched :
      socket.connection.dispatch server.service server.now header body server.shared with
    ⟨next, shared⟩
  have stepped : server.step (.advance socket.id) =
      some { server.put socket.id .active next with shared := shared } := by
    simp [step, found, Connection.step, phase_eq, dispatched]
  have answered : next.phase.isDispatching = false := by
    unfold Connection.dispatch at dispatched
    split at dispatched <;> cases dispatched <;> rfl
  have price_before : socket.price = 4 := by
    simp only [Socket.price, stage_eq, phase_eq, Phase.isDispatching, ↓reduceIte]
  have price_after : Socket.price ⟨socket.id, .active, next⟩ = 3 := by
    simp only [Socket.price, answered, Bool.false_eq_true, ↓reduceIte]
  have price_eq := price_put distinct mem .active next
  refine comesNearer_of_step stepped ?_ rfl
  simp only [toGo, put] at price_eq ⊢
  omega

/-- A server that aborts its tasks brings each of its connections nearer to its end. -/
theorem comesNearer_of_socket (aborting : server.stance = .aborting)
    (begun : socket.stage ≠ .admitted) : server.ComesNearer := by
  cases stage_eq : socket.stage with
  | admitted => exact absurd stage_eq begun
  | active =>
      cases phase_eq : socket.connection.phase with
      | dispatching header body => exact comesNearer_of_dispatching distinct mem stage_eq phase_eq
      | _ =>
          have able : server.canLeave socket.connection .aborted = true := by
            simp [canLeave, aborting, phase_eq, Phase.isDispatching]
          have price_eq := price_put distinct mem .leaving socket.connection.abort
          refine comesNearer_of_step (exists_left distinct mem stage_eq able) ?_ rfl
          simp only [Socket.price, stage_eq, phase_eq, Phase.isDispatching, ↓reduceIte,
            Bool.false_eq_true] at price_eq
          simp only [toGo, put, count] at price_eq ⊢
          omega
  | leaving =>
      refine comesNearer_of_step (exists_released distinct mem stage_eq) ?_ rfl
      rcases List.append_of_mem mem with ⟨front, behind, sockets_eq⟩
      rw [toGo, toGo, sockets_filter distinct sockets_eq, sockets_eq]
      simp only [List.map_append, List.map_cons, List.sum_append, List.sum_cons,
        List.length_append, List.length_singleton, Socket.price, stage_eq]
      omega

end Distinct

/-! ### Coming nearer -/

theorem exists_entered (orderly : server.ledger.IsOrderly) (entering : server.stance = .entering) :
    ∃ socket ∈ server.sockets, socket.stage = .admitted ∧
      server.step .enter =
        some ({ server.put socket.id .active socket.connection with stance := .checking }.count
          .connectionActivated) := by
  have pending_eq : Ledger.numberAt .admitted server.ledger.roster = server.stance.pending :=
    orderly.pending_eq
  rw [entering] at pending_eq
  have some_admitted : 0 < Ledger.numberAt .admitted server.ledger.roster := by
    rw [pending_eq]
    exact Nat.zero_lt_one
  rcases List.countP_pos_iff.1 some_admitted with ⟨entry, entry_mem, entry_stage⟩
  rcases List.mem_map.1 entry_mem with ⟨socket, mem, rfl⟩
  have present : (server.sockets.find? fun socket => socket.stage = .admitted).isSome = true := by
    rw [List.find?_isSome]
    exact ⟨socket, mem, entry_stage⟩
  rcases Option.isSome_iff_exists.1 present with ⟨first, found⟩
  refine ⟨first, List.mem_of_find?_eq_some found, by simpa using List.find?_some found, ?_⟩
  simp only [step, entering, ↓reduceIte, enter, found, Option.map_some]

theorem comesNearer_of_entering (orderly : server.ledger.IsOrderly)
    (entering : server.stance = .entering) : server.ComesNearer := by
  rcases exists_entered orderly entering with ⟨socket, mem, stage_eq, stepped⟩
  have price_eq := price_put orderly.distinct.nodup mem .active socket.connection
  refine comesNearer_of_step stepped ?_ rfl
  have atMost : Socket.price ⟨socket.id, .active, socket.connection⟩ ≤ socket.price := by
    simp only [Socket.price, stage_eq]
    split <;> omega
  simp only [toGo, put, count, entering, Stance.price] at price_eq ⊢
  omega

/-- A task that has finished is joined wherever the server looks for one. -/
theorem comesNearer_of_joined {stance : Stance} (some_finished : server.finished ≠ [])
    (stance_eq : server.stance.joined? = some stance) : server.ComesNearer := by
  rcases List.exists_mem_of_ne_nil _ some_finished with ⟨id, mem⟩
  have stepped : server.step (.join id) =
      some { server with stance := stance, finished := server.finished.erase id } := by
    simp only [step, join, mem, ↓reduceIte, stance_eq, Option.map_some]
  have fewer := List.length_erase_of_mem mem
  have present := List.length_pos_of_mem mem
  have atMost := price_of_joined? stance_eq
  refine comesNearer_of_step stepped ?_ rfl
  simp only [toGo]
  omega

theorem comesNearer_of_look {stance : Stance} (looked : server.look = some stance)
    (less : stance.price < server.stance.price) : server.ComesNearer := by
  have stepped : server.step .look = some { server with stance := stance } := by
    simp only [step, looked, Option.map_some]
  refine comesNearer_of_step stepped ?_ rfl
  simp only [toGo]
  omega

/-- A server that waits for its tasks returns or aborts them when its shutdown is over its limit. -/
theorem comesNearer_of_draining {since : Nat} (stance_eq : server.stance = .draining since)
    (joined : server.finished = []) : server.ComesNearer := by
  let patience := since + server.shutdownTimeout
  have looked : ∃ stance, { server with now := server.now + patience }.look = some stance ∧
      stance.price ≤ 1 := by
    simp only [look, stance_eq, joined, ↓reduceIte, Deadline.within]
    cases server.sockets.isEmpty with
    | true => exact ⟨.returned, rfl, by simp [Stance.price]⟩
    | false =>
        refine ⟨.aborting, ?_, Nat.le_refl _⟩
        simp only [Bool.false_eq_true, ↓reduceIte, ite_eq_left_iff, reduceCtorEq, imp_false]
        omega
  rcases looked with ⟨stance, looked, low⟩
  refine ⟨[.tick patience, .look], { server with now := server.now + patience, stance := stance },
    ?_, ?_, by simp [Event.isOwn]⟩
  · simp [run, step, looked]
  · simp only [toGo, stance_eq, Stance.price] at low ⊢
    omega

theorem comesNearer_of_aborting (orderly : server.ledger.IsOrderly)
    (aborting : server.stance = .aborting) (joined : server.finished = []) :
    server.ComesNearer := by
  cases sockets_eq : server.sockets with
  | nil =>
      have looked : server.look = some .returned := by simp [look, aborting, joined, sockets_eq]
      exact comesNearer_of_look looked (by simp [aborting, Stance.price])
  | cons socket others =>
      have mem : socket ∈ server.sockets := by simp [sockets_eq]
      refine comesNearer_of_socket orderly.distinct.nodup mem aborting ?_
      intro admitted
      have pending_eq : Ledger.numberAt .admitted server.ledger.roster = server.stance.pending :=
        orderly.pending_eq
      have none_pending : server.stance.pending = 0 := by rw [aborting]; rfl
      rw [none_pending, Ledger.numberAt, List.countP_eq_zero] at pending_eq
      exact pending_eq socket.entry (List.mem_map_of_mem mem) (decide_eq_true admitted)

theorem comesNearer (orderly : server.ledger.IsOrderly) (cancelled : server.isCancelled = true)
    (unreturned : server.stance ≠ .returned) : server.ComesNearer := by
  cases stance_eq : server.stance with
  | checking =>
      have looked : server.look = some (.draining server.now) := by
        simp [look, stance_eq, cancelled]
      exact comesNearer_of_look looked (by simp [stance_eq, Stance.price])
  | joining =>
      by_cases joined : server.finished = []
      · have looked : server.look = some .accepting := by simp [look, stance_eq, joined]
        exact comesNearer_of_look looked (by simp [stance_eq, Stance.price])
      · exact comesNearer_of_joined joined (by rw [stance_eq, Stance.joined?])
  | accepting =>
      have looked : server.look = some .checking := by simp [look, stance_eq]
      exact comesNearer_of_look looked (by simp [stance_eq, Stance.price])
  | admitting =>
      have stepped : server.step .tally = some server.tally := by
        simp only [step, stance_eq, ↓reduceIte]
      refine comesNearer_of_step stepped ?_ rfl
      simp [toGo, tally, count, stance_eq, Stance.price]
  | entering => exact comesNearer_of_entering orderly stance_eq
  | draining since =>
      by_cases joined : server.finished = []
      · exact comesNearer_of_draining stance_eq joined
      · exact comesNearer_of_joined joined (by rw [stance_eq, Stance.joined?])
  | aborting =>
      by_cases joined : server.finished = []
      · exact comesNearer_of_aborting orderly stance_eq joined
      · exact comesNearer_of_joined joined (by rw [stance_eq, Stance.joined?])
  | returned => exact absurd stance_eq unreturned

/-- A server that has been told to stop can return by its own doing. -/
theorem exists_returned (orderly : server.ledger.IsOrderly)
    (cancelled : server.isCancelled = true) :
    ∃ events after, server.run events = some after ∧ after.stance = .returned ∧
      ∀ event ∈ events, event.isOwn = true := by
  -- What there is to do gets less each time that the server comes nearer to its return.
  induction bound : server.toGo using Nat.strongRecOn generalizing server with
  | ind toGo ih =>
      by_cases returned : server.stance = .returned
      · exact ⟨[], server, rfl, returned, by simp⟩
      · rcases comesNearer orderly cancelled returned with ⟨first, between, first_eq, less, own⟩
        rw [bound] at less
        rcases ih _ less (orderly_run orderly first_eq) (cancelled_run orderly cancelled first_eq)
          rfl with ⟨events, after, run_eq, returned, rest_own⟩
        refine ⟨first ++ events, after, ?_, returned, ?_⟩
        · rw [run_append, first_eq, Option.bind_some, run_eq]
        · simp only [List.mem_append]
          rintro event (mem | mem)
          · exact own event mem
          · exact rest_own event mem

/-- What can happen to a server next, whatever has happened to it before. -/
structure Progresses (server : Server Backend) : Prop where
  accepts : server.stance = .accepting → ∃ after, server.step .accept = some after
  tallies : server.stance = .admitting → ∃ after, server.step .tally = some after
  enters : server.stance = .entering → ∃ after, server.step .enter = some after
  /-- A task can come to its end in each of the three ways. -/
  leaves : ∀ socket ∈ server.sockets, socket.stage = .active → ∀ departure,
    server.canLeave socket.connection departure = true →
      ∃ after, server.step (.leave socket.id departure) = some after
  releases : ∀ socket ∈ server.sockets, socket.stage = .leaving →
    ∃ after, server.step (.release socket.id) = some after
  /-- A server that is told to stop can return without anyone's help. -/
  returns : ∃ events after, server.run (.stop :: events) = some after ∧
    after.stance = .returned ∧ ∀ event ∈ events, event.isOwn = true

theorem progresses (orderly : server.ledger.IsOrderly) : server.Progresses where
  accepts accepting := ⟨server.accept, by simp only [step, accepting, ↓reduceIte]⟩
  tallies admitting := ⟨server.tally, by simp only [step, admitting, ↓reduceIte]⟩
  enters entering := by
    rcases exists_entered orderly entering with ⟨_, _, _, stepped⟩
    exact ⟨_, stepped⟩
  leaves _ mem active _ able := ⟨_, exists_left orderly.distinct.nodup mem active able⟩
  releases _ mem leaving := ⟨_, exists_released orderly.distinct.nodup mem leaving⟩
  returns := by
    have stopped : server.step .stop = some server.stop := rfl
    have orderly := orderly.change (change_of_step orderly.distinct.nodup stopped)
    rcases exists_returned orderly rfl with ⟨events, after, run_eq, returned⟩
    refine ⟨events, after, ?_, returned⟩
    rw [run, List.foldlM_cons, stopped]
    exact run_eq

end Server

end DocumentProtocol
