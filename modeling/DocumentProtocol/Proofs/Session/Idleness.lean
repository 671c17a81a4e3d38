import DocumentProtocol.Proofs.Session.Transition
import DocumentProtocol.Session.Exchange
import Mathlib

/-!
# Silent clients

The limit on idleness is looked at where a header is awaited and nowhere else. The main statement
says what becomes of a connection whose client sends nothing for a while, from any point at which
the connection waits for bytes: a wait for a header ends with a timeout as soon as the limit is
over, which is never later than the limit counted from the beginning of the silence, and a wait for
a body never ends. A client can therefore hold a connection for ever by announcing a body.

An exchange that has settled is at rest (`Exchange.IsAtRest`): everything that was sent has been
taken in, and no limit is over. `Exchange.Lingers` is what the steps of an exchange at rest leave as
it is while nothing is sent and time passes, and the two together give the phase at any later time.
-/

namespace DocumentProtocol

variable {Backend : Type}

namespace Connection

/-! ### Waiting in silence -/

variable {service : Service Backend} {now : Nat} {connection : Connection}
  {shared : SharedState Backend} {received : Bytes}

/-- Whether a connection lacks bytes that nobody has sent, and nothing has been told to it. -/
structure IsQuiet (connection : Connection) (received : Bytes) (size : Nat) : Prop where
  reads : connection.Reads received size
  short : received.length < size
  running : connection.isCancelled = false
  empty : connection.inbound.content = []
  unfinished : connection.inbound.isFinished = false
  sound : connection.inbound.fault? = none

theorem isQuiet_of_step_eq_none {size : Nat} (reads : connection.Reads received size)
    (stuck : connection.step service now shared = none) : connection.IsQuiet received size := by
  rcases reads.pending_of_step_eq_none stuck with ⟨short, empty, unfinished, sound, running⟩
  exact ⟨reads, short, running, empty, unfinished, sound⟩

theorem unpassed_of_step_eq_none {since : Nat} (stuck : connection.step service now shared = none)
    (phase_eq : connection.phase = .awaitingHeader received since) :
    Deadline.hasPassed service.idleTimeout since now = false := by
  simp only [step, phase_eq] at stuck
  split at stuck
  · cases stuck
  · exact (Deadline.withinOptional_eq_none_iff.1 stuck).2

theorem Reads.unique {other : Bytes} {size otherSize : Nat}
    (reads : connection.Reads received size) (again : connection.Reads other otherSize) :
    other = received ∧ otherSize = size := by
  cases reads with
  | header phase_eq =>
      cases again with
      | header other_eq =>
          cases phase_eq.symm.trans other_eq
          exact ⟨rfl, rfl⟩
      | body other_eq => cases phase_eq.symm.trans other_eq
  | body phase_eq =>
      cases again with
      | header other_eq => cases phase_eq.symm.trans other_eq
      | body other_eq =>
          cases phase_eq.symm.trans other_eq
          exact ⟨rfl, rfl⟩

theorem Reads.phase_ne_dispatching {header : Header} {body : Bytes} {size : Nat}
    (reads : connection.Reads received size) : connection.phase ≠ .dispatching header body := by
  intro dispatching
  cases reads with
  | header phase_eq => cases phase_eq.symm.trans dispatching
  | body phase_eq => cases phase_eq.symm.trans dispatching

theorem Reads.phase_ne_replying {pending : Bytes} {size written since : Nat}
    (reads : connection.Reads received size) :
    connection.phase ≠ .replying pending written since := by
  intro replying
  cases reads with
  | header phase_eq => cases phase_eq.symm.trans replying
  | body phase_eq => cases phase_eq.symm.trans replying

namespace IsQuiet

variable {size : Nat} (quiet : connection.IsQuiet received size)

include quiet

theorem incomplete (header : Header) (body : Bytes) (missing : Nat) :
    ¬connection.Completes header body missing := by
  rintro ⟨phase_eq, _, missing_eq, _, enough⟩
  rcases quiet.reads.unique (.body phase_eq) with ⟨rfl, rfl⟩
  have short := quiet.short
  rw [quiet.empty, List.length_nil] at enough
  omega

theorem header_short {since : Nat} (phase_eq : connection.phase = .awaitingHeader received since) :
    (received ++ connection.inbound.content).length < Header.size := by
  have short := quiet.short
  rwa [quiet.empty, List.append_nil, ← (quiet.reads.unique (.header phase_eq)).2] at *

/-- A connection that waits with nothing sent can only find the limit on idleness over. -/
theorem idle_of_fault {error : ProtocolError} (fault : connection.Fault service now error) :
    ∃ since, connection.phase = .awaitingHeader received since ∧
      Deadline.hasPassed service.idleTimeout since now = true ∧ error = .timeout := by
  cases fault with
  | cancelled _ cancelled => simp [quiet.running] at cancelled
  | badHeader phase_eq _ enough _ =>
      rcases quiet.reads.unique (.header phase_eq) with ⟨rfl, _⟩
      exact absurd enough (Nat.not_le.2 (quiet.header_short phase_eq))
  | broken _ _ _ fault_eq => simp [quiet.sound] at fault_eq
  | hungUp _ _ _ _ finished => simp [quiet.unfinished] at finished
  | idle phase_eq _ _ _ passed =>
      rcases quiet.reads.unique (.header phase_eq) with ⟨rfl, _⟩
      exact ⟨_, phase_eq, passed, rfl⟩
  | severed phase_eq _ => exact absurd phase_eq quiet.reads.phase_ne_replying
  | stalled phase_eq _ _ _ _ => exact absurd phase_eq quiet.reads.phase_ne_replying

theorem idle_of_transition {next : Connection} {after : SharedState Backend}
    (transition : connection.Transition service now shared next after) :
    ∃ since, connection.phase = .awaitingHeader received since ∧
      Deadline.hasPassed service.idleTimeout since now = true ∧
      next = connection.ended .timeout := by
  cases transition with
  | fault fault =>
      rcases quiet.idle_of_fault fault with ⟨since, phase_eq, passed, rfl⟩
      exact ⟨since, phase_eq, passed, rfl⟩
  | header phase_eq _ enough _ =>
      rcases quiet.reads.unique (.header phase_eq) with ⟨rfl, _⟩
      exact absurd enough (Nat.not_le.2 (quiet.header_short phase_eq))
  | headerPart _ _ _ present => exact absurd quiet.empty present
  | bodyPart _ _ _ present => exact absurd quiet.empty present
  | body completes => exact absurd completes (quiet.incomplete _ _ _)
  | refused phase_eq _ => exact absurd phase_eq quiet.reads.phase_ne_dispatching
  | silent phase_eq _ => exact absurd phase_eq quiet.reads.phase_ne_dispatching
  | answered phase_eq _ => exact absurd phase_eq quiet.reads.phase_ne_dispatching
  | sentPart phase_eq _ _ _ => exact absurd phase_eq quiet.reads.phase_ne_replying
  | sent phase_eq _ _ => exact absurd phase_eq quiet.reads.phase_ne_replying

end IsQuiet

end Connection

namespace Exchange

variable {service : Service Backend} {exchange next : Exchange}
  {shared after : SharedState Backend}

/-- A step is one of the connection, or bytes go out of one pipe or into the other. -/
theorem step_cases (stepped : exchange.step service shared = some (next, after)) :
    (∃ connection,
      exchange.connection.Transition service exchange.now shared connection after ∧
        next = { exchange with connection := connection }) ∨
      next = exchange.receive ∨ exchange.outbox ≠ [] ∧ next = exchange.transmit := by
  unfold step at stepped
  split at stepped
  · rename_i connection state moved
    cases stepped
    left
    exact ⟨connection, Connection.transition_of_step moved, rfl⟩
  · split at stepped
    · cases stepped
      right
      left
      rfl
    · split at stepped
      · rename_i allowed
        cases stepped
        simp only [canTransmit, Bool.and_eq_true, Bool.not_eq_true', List.isEmpty_eq_false_iff]
          at allowed
        right
        right
        exact ⟨allowed.1.2, rfl⟩
      · cases stepped

/-- What holds of an exchange and is kept by its steps holds when it has settled. -/
theorem settle_induction {motive : Exchange → Prop} (initial : motive exchange)
    (keeps : ∀ {middle next : Exchange} {state after : SharedState Backend}, motive middle →
      middle.step service state = some (next, after) → motive next) :
    motive (exchange.settle service shared).1 := by
  fun_induction settle service exchange shared with
  | case1 exchange shared stuck => exact initial
  | case2 exchange shared next after stepped _ ih => exact ih (keeps initial stepped)

theorem connection_step_settle (service : Service Backend) (exchange : Exchange)
    (shared : SharedState Backend) :
    (exchange.settle service shared).1.connection.step service
      (exchange.settle service shared).1.now (exchange.settle service shared).2 = none := by
  fun_induction settle service exchange shared with
  | case1 exchange shared stuck =>
      unfold step at stuck
      split at stuck
      · cases stuck
      · assumption
  | case2 exchange shared next after stepped _ ih => exact ih

theorem now_settle (service : Service Backend) (exchange : Exchange)
    (shared : SharedState Backend) : (exchange.settle service shared).1.now = exchange.now := by
  apply settle_induction (motive := fun middle => middle.now = exchange.now)
  · rfl
  · intro middle next state after now_eq stepped
    rcases step_cases stepped with ⟨connection, _, rfl⟩ | rfl | ⟨_, rfl⟩ <;> exact now_eq

/-! ### Rest -/

/-- Whether no wait for a header began later than now. -/
def IsTimely (exchange : Exchange) : Prop :=
  ∀ received since, exchange.connection.phase = .awaitingHeader received since →
    since ≤ exchange.now

theorem IsTimely.step (timely : exchange.IsTimely)
    (stepped : exchange.step service shared = some (next, after)) : next.IsTimely := by
  rcases step_cases stepped with ⟨connection, transition, rfl⟩ | rfl | ⟨_, rfl⟩
  · intro received since phase_eq
    cases transition with
    | headerPart began _ _ _ =>
        cases phase_eq
        exact timely _ _ began
    | silent | sent =>
        cases phase_eq
        exact Nat.le_refl _
    | fault | header | bodyPart | body | refused | answered | sentPart => cases phase_eq
  · exact timely
  · exact timely

theorem IsTimely.perform (timely : exchange.IsTimely) (action : Action) :
    (exchange.perform action).IsTimely := by
  intro received since phase_eq
  cases action with
  | sleep duration => exact Nat.le_add_right_of_le (timely received since phase_eq)
  | _ => exact timely received since phase_eq

/-- Whether everything that was sent has been taken in, and no limit on a wait for it is over. -/
structure IsAtRest (service : Service Backend) (exchange : Exchange) : Prop where
  timely : exchange.IsTimely
  outbox_eq : exchange.outbox = []
  quiet : ∀ {received : Bytes} {size : Nat}, exchange.connection.Reads received size →
    exchange.connection.IsQuiet received size
  unpassed : ∀ {received : Bytes} {since : Nat},
    exchange.connection.phase = .awaitingHeader received since →
      Deadline.hasPassed service.idleTimeout since exchange.now = false

theorem isAtRest_start (service : Service Backend) (capacity : Nat) :
    (start capacity).IsAtRest service where
  timely := by
    intro received since phase_eq
    cases phase_eq
    exact Nat.le_refl _
  outbox_eq := rfl
  quiet := by
    intro received size reads
    rcases reads.unique (.header rfl) with ⟨rfl, rfl⟩
    exact ⟨reads, by decide, rfl, rfl, rfl, rfl⟩
  unpassed := by
    intro received since phase_eq
    cases phase_eq
    simp [Deadline.hasPassed, start]

/-- Whatever is done, what comes of it is at rest. -/
theorem IsAtRest.act (rests : exchange.IsAtRest service) (action : Action) (isReading : Bool)
    (shared : SharedState Backend) :
    (exchange.act service action isReading shared).2.1.IsAtRest service := by
  have stuck := connection_step_settle service
    { exchange.perform action with inbox := [], isReading := isReading } shared
  have timely : IsTimely (settle service
      { exchange.perform action with inbox := [], isReading := isReading } shared).1 :=
    settle_induction (rests.timely.perform action) IsTimely.step
  exact {
    timely := timely
    outbox_eq := rfl
    quiet := fun reads => Connection.isQuiet_of_step_eq_none reads stuck
    unpassed := Connection.unpassed_of_step_eq_none stuck }

/-- What the actions of a client and the server, and of others on what is shared, can lead to. -/
inductive Reachable (service : Service Backend) (capacity : Nat) : Exchange → Prop where
  | start : Reachable service capacity (start capacity)
  | act {exchange : Exchange} (reachable : Reachable service capacity exchange) (action : Action)
      (isReading : Bool) (shared : SharedState Backend) :
      Reachable service capacity (exchange.act service action isReading shared).2.1

theorem Reachable.isAtRest {capacity : Nat} (reachable : Reachable service capacity exchange) :
    exchange.IsAtRest service := by
  induction reachable with
  | start => exact isAtRest_start service capacity
  | act _ action isReading shared ih => exact ih.act action isReading shared

/-! ### Silence -/

/-- What an exchange becomes when the client sends nothing for some time, in any number of naps. -/
inductive Naps (service : Service Backend) (exchange : Exchange) : Nat → Exchange → Prop where
  | none : Naps service exchange 0 exchange
  | nap {slept : Nat} {middle : Exchange} (naps : Naps service exchange slept middle)
      (duration : Nat) (isReading : Bool) (shared : SharedState Backend) :
      Naps service exchange (slept + duration)
        (middle.act service (.sleep duration) isReading shared).2.1

/--
Whether an exchange in which nothing is sent still waits in a phase, or the limit on idleness has
ended the wait.
-/
inductive Lingers (service : Service Backend) (phase : Phase) (exchange : Exchange) : Prop where
  | waiting {received : Bytes} {size : Nat} (phase_eq : exchange.connection.phase = phase)
      (quiet : exchange.connection.IsQuiet received size) (outbox_eq : exchange.outbox = []) :
      Lingers service phase exchange
  | expired {received : Bytes} {since : Nat} (phase_is : phase = .awaitingHeader received since)
      (passed : Deadline.hasPassed service.idleTimeout since exchange.now = true)
      (ended : exchange.connection.phase = .closed (.error .timeout)) :
      Lingers service phase exchange

theorem isQuiet_receive {received : Bytes} {size : Nat}
    (quiet : exchange.connection.IsQuiet received size) :
    exchange.receive.connection.IsQuiet received size := by
  rcases quiet with ⟨reads, short, running, empty, unfinished, sound⟩
  refine ⟨?_, short, running, empty, unfinished, sound⟩
  cases reads with
  | header phase_eq => exact .header phase_eq
  | body phase_eq => exact .body phase_eq

theorem Lingers.step {phase : Phase} (lingers : Lingers service phase exchange)
    (stepped : exchange.step service shared = some (next, after)) :
    Lingers service phase next := by
  cases lingers with
  | waiting phase_eq quiet outbox_eq =>
      rcases step_cases stepped with ⟨connection, transition, rfl⟩ | rfl | ⟨present, _⟩
      · rcases quiet.idle_of_transition transition with ⟨since, phase_is, passed, rfl⟩
        exact .expired (phase_eq.symm.trans phase_is) passed rfl
      · exact .waiting phase_eq (isQuiet_receive quiet) outbox_eq
      · exact absurd outbox_eq present
  | expired phase_is passed ended =>
      rcases step_cases stepped with ⟨connection, transition, rfl⟩ | rfl | ⟨_, rfl⟩
      · exact absurd ⟨_, ended⟩ transition.not_isClosed
      · exact .expired phase_is passed ended
      · exact .expired phase_is passed ended

theorem hasPassed_add {limit since now : Nat} (duration : Nat)
    (passed : Deadline.hasPassed limit since now = true) :
    Deadline.hasPassed limit since (now + duration) = true := by
  simp only [Deadline.hasPassed, Bool.and_eq_true, decide_eq_true_eq] at passed ⊢
  exact ⟨passed.1, Nat.le_add_right_of_le passed.2⟩

theorem Lingers.nap {phase : Phase} (lingers : Lingers service phase exchange) (duration : Nat)
    (isReading : Bool) (shared : SharedState Backend) :
    Lingers service phase (exchange.act service (.sleep duration) isReading shared).2.1 := by
  have begun : Lingers service phase
      { exchange.perform (.sleep duration) with inbox := [], isReading := isReading } := by
    cases lingers with
    | waiting phase_eq quiet outbox_eq => exact .waiting phase_eq quiet outbox_eq
    | expired phase_is passed ended => exact .expired phase_is (hasPassed_add duration passed) ended
  have settled : Lingers service phase (settle service
      { exchange.perform (.sleep duration) with inbox := [], isReading := isReading } shared).1 :=
    settle_induction begun Lingers.step
  cases settled with
  | waiting phase_eq quiet _ => exact .waiting phase_eq quiet rfl
  | expired phase_is passed ended => exact .expired phase_is passed ended

namespace Naps

variable {slept : Nat} (naps : Naps service exchange slept next)

include naps

theorem now_eq : next.now = exchange.now + slept := by
  induction naps with
  | none => rfl
  | nap _ duration isReading shared ih =>
      change (settle service _ shared).1.now = _
      rw [now_settle]
      change _ + duration = _
      rw [ih, Nat.add_assoc]

theorem isAtRest (rests : exchange.IsAtRest service) : next.IsAtRest service := by
  induction naps with
  | none => exact rests
  | nap _ duration isReading shared ih => exact ih.act (.sleep duration) isReading shared

theorem lingers {received : Bytes} {size : Nat} (rests : exchange.IsAtRest service)
    (reads : exchange.connection.Reads received size) :
    Lingers service exchange.connection.phase next := by
  induction naps with
  | none => exact .waiting rfl (rests.quiet reads) rests.outbox_eq
  | nap _ duration isReading shared ih => exact ih.nap duration isReading shared

theorem phase_of_header {received : Bytes} {since : Nat} (rests : exchange.IsAtRest service)
    (phase_is : exchange.connection.phase = .awaitingHeader received since) :
    next.connection.phase =
      if Deadline.hasPassed service.idleTimeout since (exchange.now + slept) then
        .closed (.error .timeout)
      else .awaitingHeader received since := by
  rw [← naps.now_eq]
  cases naps.lingers rests (.header phase_is) with
  | waiting phase_eq _ _ =>
      rw [phase_is] at phase_eq
      rw [if_neg (Bool.eq_false_iff.1 ((naps.isAtRest rests).unpassed phase_eq)), phase_eq]
  | expired again passed ended =>
      rw [phase_is] at again
      cases again
      rw [if_pos passed, ended]

theorem phase_of_body {header : Header} {received : Bytes} (rests : exchange.IsAtRest service)
    (phase_is : exchange.connection.phase = .awaitingBody header received) :
    next.connection.phase = .awaitingBody header received := by
  cases naps.lingers rests (.body phase_is) with
  | waiting phase_eq _ _ => rw [phase_eq, phase_is]
  | expired again _ _ =>
      rw [phase_is] at again
      cases again

end Naps

/--
A client sends nothing, from a point at which its connection waits for bytes. A wait for a header
ends with a timeout once the limit is over, and the limit began no later than the silence. A wait
for a body goes on.
-/
theorem phase_after_silence (config : Config) (registry : Registry Backend) {capacity slept : Nat}
    {waiting rested : Exchange} (limited : 0 < config.server.idleTimeout)
    (reachable : Reachable (Service.ofConfig config registry) capacity waiting)
    (naps : Naps (Service.ofConfig config registry) waiting slept rested) :
    (∀ received since, waiting.connection.phase = .awaitingHeader received since →
      since ≤ waiting.now ∧
        rested.connection.phase =
          if since + config.server.idleTimeout ≤ waiting.now + slept then
            .closed (.error .timeout)
          else .awaitingHeader received since) ∧
      ∀ header received, waiting.connection.phase = .awaitingBody header received →
        rested.connection.phase = .awaitingBody header received := by
  have rests := reachable.isAtRest
  have limit_eq : (Service.ofConfig config registry).idleTimeout = config.server.idleTimeout := rfl
  constructor
  · intro received since phase_is
    have phase_eq := naps.phase_of_header rests phase_is
    rw [limit_eq, Deadline.hasPassed] at phase_eq
    refine ⟨rests.timely received since phase_is, ?_⟩
    simpa [Nat.pos_iff_ne_zero.1 limited] using phase_eq
  · intro header received phase_is
    exact naps.phase_of_body rests phase_is

/-- A limit of half a second on idleness. -/
def impatient : Config := { server := { idleTimeout := 500 } }

/-- The header of a message of twenty bytes, of which the last four are never sent. -/
def announcement : Header := ⟨20, 1, 0, 2013⟩

/-- A connection whose client has announced a body. -/
def announced : Exchange :=
  ((start 64).act (Service.ofConfig impatient ({} : Registry Unit)) (.send announcement.bytes) true
    { backend := () }).2.1

/-- The same connection a second later. -/
def forgotten : Exchange :=
  (announced.act (Service.ofConfig impatient ({} : Registry Unit)) (.sleep 1000) true
    { backend := () }).2.1

theorem phase_announced : announced.connection.phase = .awaitingBody announcement [] := by
  cbv

theorem reachable_announced :
    Reachable (Service.ofConfig impatient ({} : Registry Unit)) 64 announced :=
  .act .start (.send announcement.bytes) true { backend := () }

theorem naps_forgotten :
    Naps (Service.ofConfig impatient ({} : Registry Unit)) announced (0 + 1000) forgotten :=
  .nap .none 1000 true { backend := () }

theorem phase_after_silence_announced :
    0 < impatient.server.idleTimeout ∧ forgotten.connection.phase = .awaitingBody announcement [] :=
  have limited : 0 < impatient.server.idleTimeout := by decide
  ⟨limited, (phase_after_silence impatient {} limited reachable_announced naps_forgotten).2
    announcement [] phase_announced⟩

/-- Not every wait for bytes ends with a timeout when nothing is sent for as long as the limit. -/
theorem silence_outlasts_the_limit :
    ¬∀ (config : Config) (registry : Registry Unit) (capacity slept : Nat)
        (waiting rested : Exchange) (received : Bytes) (size : Nat),
        0 < config.server.idleTimeout →
          Reachable (Service.ofConfig config registry) capacity waiting →
            waiting.connection.Reads received size →
              Naps (Service.ofConfig config registry) waiting slept rested →
                config.server.idleTimeout ≤ slept →
                  rested.connection.phase = .closed (.error .timeout) := by
  intro ends
  have ended := ends impatient {} 64 (0 + 1000) announced forgotten [] _ (by decide)
    reachable_announced (.body phase_announced) naps_forgotten (by decide)
  rw [naps_forgotten.phase_of_body reachable_announced.isAtRest phase_announced] at ended
  cases ended

end Exchange

end DocumentProtocol
