import DocumentProtocol.Proofs.Session.Transition
import DocumentProtocol.Session.Exchange
import Mathlib.Logic.Relation

/-!
# Runs of a connection and its client

`Exchange.Move` says what can happen next to a connection and its client, in any order: the
connection takes a step, at once or after some time, or the client puts some bytes into the pipe,
takes some out of it, finishes sending, or leaves, or the connection is told to stop. A run is a
chain of moves. It is calm while the client stays, nobody tells the connection to stop and nothing
takes too long.

Calm runs do not go on for ever (`Exchange.wellFounded_calmMove`): each move lowers the work that is
left, and finishing can happen once.
-/

namespace DocumentProtocol

namespace Exchange

variable {Backend : Type}

def send (exchange : Exchange) (size : Nat) : Exchange :=
  { exchange with
    connection :=
      { exchange.connection with
        inbound := (exchange.connection.inbound.offer (exchange.outbox.take size)).1 }
    outbox := exchange.outbox.drop size }

def collect (exchange : Exchange) (size : Nat) : Exchange :=
  { exchange with
    connection :=
      { exchange.connection with outbound := exchange.connection.outbound.skip size }
    inbox := exchange.inbox ++ exchange.connection.outbound.content.take size }

/-- What can happen next to a connection and its client, and to what is shared. -/
inductive Move (service : Service Backend) :
    Exchange × SharedState Backend → Exchange × SharedState Backend → Prop where
  /-- Time may pass before the connection takes its step. -/
  | serve {exchange : Exchange} {shared after : SharedState Backend} {connection : Connection}
      (duration : Nat)
      (stepped : exchange.connection.step service (exchange.now + duration) shared =
        some (connection, after)) :
      Move service (exchange, shared)
        ({ exchange with connection := connection, now := exchange.now + duration }, after)
  | send {exchange : Exchange} {shared : SharedState Backend} {size : Nat}
      (stays : exchange.hasLeft = false)
      (writable : exchange.connection.inbound.isWritable = true)
      (present : 0 < size) (atMost : size ≤ exchange.outbox.length)
      (fits : size ≤ exchange.connection.inbound.room) :
      Move service (exchange, shared) (exchange.send size, shared)
  | collect {exchange : Exchange} {shared : SharedState Backend} {size : Nat}
      (stays : exchange.hasLeft = false) (present : 0 < size)
      (atMost : size ≤ exchange.connection.outbound.content.length) :
      Move service (exchange, shared) (exchange.collect size, shared)
  | finish {exchange : Exchange} {shared : SharedState Backend} (stays : exchange.hasLeft = false)
      (sent : exchange.outbox = [])
      (unfinished : exchange.connection.inbound.isFinished = false) :
      Move service (exchange, shared) (exchange.perform .finish, shared)
  | leave {exchange : Exchange} {shared : SharedState Backend}
      (stays : exchange.hasLeft = false) :
      Move service (exchange, shared) (exchange.perform .leave, shared)
  | cancel {exchange : Exchange} {shared : SharedState Backend}
      (running : exchange.connection.isCancelled = false) :
      Move service (exchange, shared) (exchange.perform .cancel, shared)

/-- Whether nothing from outside has disturbed an exchange. -/
structure IsCalm (exchange : Exchange) : Prop where
  stays : exchange.hasLeft = false
  running : exchange.connection.isCancelled = false
  patient : exchange.connection.phase.outcome? ≠ some (.error .timeout)

def CalmMove (service : Service Backend) (before after : Exchange × SharedState Backend) : Prop :=
  Move service before after ∧ after.1.IsCalm

/-- Whether a run that is calm throughout leads from one state to another. -/
def CalmlyReaches (service : Service Backend) :
    Exchange × SharedState Backend → Exchange × SharedState Backend → Prop :=
  Relation.ReflTransGen (CalmMove service)

theorem incoming_send {exchange : Exchange} {size : Nat}
    (fits : size ≤ exchange.connection.inbound.room) :
    (exchange.send size).connection.inbound.content ++ (exchange.send size).outbox =
      exchange.connection.inbound.content ++ exchange.outbox := by
  simp only [send, Pipe.offer]
  rw [List.take_take, Nat.min_eq_right fits, List.append_assoc, List.take_append_drop]

/-- What holds throughout a calm run, whatever is sent. -/
structure IsSteady (exchange : Exchange) : Prop where
  calm : exchange.IsCalm
  kept : exchange.connection.outbound.isAbandoned = false
  faultless : exchange.connection.IsFaultless
  inbound_pos : 0 < exchange.connection.inbound.capacity
  outbound_pos : 0 < exchange.connection.outbound.capacity
  listens : ¬exchange.connection.IsClosed → exchange.connection.inbound.isAbandoned = false
  finished : exchange.connection.inbound.isFinished = true → exchange.outbox = []

namespace IsSteady

variable {service : Service Backend}

theorem calmMove {before after : Exchange × SharedState Backend} (steady : before.1.IsSteady)
    (move : CalmMove service before after) : after.1.IsSteady := by
  rcases move with ⟨move, calm⟩
  cases move with
  | serve duration stepped =>
      have transition := Connection.transition_of_step stepped
      have keeps := transition.keeps
      refine
        { calm := calm
          kept := keeps.isAbandoned_eq.trans steady.kept
          faultless := keeps.isFaultless steady.faultless
          inbound_pos := keeps.inbound_capacity ▸ steady.inbound_pos
          outbound_pos := keeps.outbound_capacity ▸ steady.outbound_pos
          listens := ?_
          finished := fun finished => steady.finished (keeps.isFinished_eq ▸ finished) }
      intro running
      rw [transition.isAbandoned_eq running]
      exact steady.listens transition.not_isClosed
  | send _ writable _ _ _ =>
      simp only [Pipe.isWritable, Bool.and_eq_true, Bool.not_eq_true'] at writable
      refine { steady with calm := calm, finished := ?_ }
      intro finished
      exact absurd finished (by simp [send, Pipe.offer, writable.1])
  | collect _ _ _ => exact { steady with calm := calm }
  | finish _ sent _ => exact { steady with calm := calm, finished := fun _ => sent }
  | leave _ => exact absurd calm.stays (by simp [perform])
  | cancel _ => exact absurd calm.running (by simp [perform, Connection.cancel])

/-- What is left to send goes on into a pipe that is empty. -/
theorem calmMove_send {exchange : Exchange} (steady : exchange.IsSteady)
    (running : ¬exchange.connection.IsClosed) (empty : exchange.connection.inbound.content = [])
    (unfinished : exchange.connection.inbound.isFinished = false) (unsent : exchange.outbox ≠ [])
    (shared : SharedState Backend) :
    CalmMove service (exchange, shared) (exchange.send 1, shared) := by
  have writable : exchange.connection.inbound.isWritable = true := by
    simp [Pipe.isWritable, unfinished, steady.listens running]
  have room : 1 ≤ exchange.connection.inbound.room := by
    rw [Pipe.room, empty]
    exact steady.inbound_pos
  rcases steady.calm with ⟨stays, notCancelled, patient⟩
  exact ⟨.send stays writable Nat.one_pos (List.length_pos_iff.2 unsent) room, stays, notCancelled,
    patient⟩

theorem calmMove_collect {exchange : Exchange} (steady : exchange.IsSteady)
    (waits : exchange.connection.outbound.content ≠ []) (shared : SharedState Backend) :
    CalmMove service (exchange, shared)
      (exchange.collect exchange.connection.outbound.content.length, shared) := by
  rcases steady.calm with ⟨stays, notCancelled, patient⟩
  exact ⟨.collect stays (List.length_pos_iff.2 waits) (Nat.le_refl _), stays, notCancelled, patient⟩

theorem outbound_ne_nil_of_full {exchange : Exchange} (steady : exchange.IsSteady)
    (full : exchange.connection.outbound.room = 0) :
    exchange.connection.outbound.content ≠ [] := by
  have capacity := steady.outbound_pos
  simp only [Pipe.room] at full
  apply List.length_pos_iff.1
  omega

/-- A client can always do what a connection waits for. -/
theorem exists_calmMove {exchange : Exchange} (steady : exchange.IsSteady)
    (waiting : exchange.connection.IsWaiting) (running : ¬exchange.connection.IsClosed)
    (shared : SharedState Backend) :
    ∃ next, CalmMove service (exchange, shared) (next, shared) ∧
      next.connection.phase = exchange.connection.phase := by
  cases waiting with
  | closed phase_eq => exact absurd ⟨_, phase_eq⟩ running
  | reading reads _ empty unfinished =>
      by_cases sent : exchange.outbox = []
      · rcases steady.calm with ⟨stays, notCancelled, patient⟩
        exact ⟨_, ⟨.finish stays sent unfinished, stays, notCancelled, patient⟩, rfl⟩
      · exact ⟨_, steady.calmMove_send running empty unfinished sent shared, rfl⟩
  | writing phase_eq present full =>
      exact ⟨_, steady.calmMove_collect (steady.outbound_ne_nil_of_full full) shared, rfl⟩

end IsSteady

/-! ### Calm runs end -/

theorem wellFounded_before : WellFounded Before :=
  (Prod.lex Nat.lt_wfRel (Prod.lex (Prod.lex Nat.lt_wfRel (Prod.lex Nat.lt_wfRel Nat.lt_wfRel))
    Nat.lt_wfRel)).wf

/-- What is left to happen, and then whether the client has yet to finish. -/
def remaining (exchange : Exchange) : (Nat × (Nat × Nat × Nat) × Nat) × Nat :=
  (exchange.work, if exchange.connection.inbound.isFinished then 0 else 1)

theorem work_send {exchange : Exchange} {size : Nat} (present : 0 < size)
    (atMost : size ≤ exchange.outbox.length) : Before (exchange.send size).work exchange.work := by
  apply Prod.Lex.left
  simp only [send, List.length_drop]
  omega

theorem work_collect {exchange : Exchange} {size : Nat} (present : 0 < size)
    (atMost : size ≤ exchange.connection.outbound.content.length) :
    Before (exchange.collect size).work exchange.work := by
  apply Prod.Lex.right
  apply Prod.Lex.right
  simp only [collect, Pipe.skip, List.length_drop]
  omega

theorem remaining_calmMove {service : Service Backend}
    {before after : Exchange × SharedState Backend} (move : CalmMove service before after) :
    Prod.Lex Before (· < ·) after.1.remaining before.1.remaining := by
  rcases move with ⟨move, calm⟩
  cases move with
  | serve duration stepped =>
      apply Prod.Lex.left
      apply Prod.Lex.right
      apply Prod.Lex.left
      exact Connection.work_step stepped
  | send _ _ present atMost _ =>
      apply Prod.Lex.left
      exact work_send present atMost
  | collect _ present atMost =>
      apply Prod.Lex.left
      exact work_collect present atMost
  | finish _ _ unfinished =>
      apply Prod.Lex.right
      simp [perform, Connection.finishInbound, Pipe.finish, unfinished]
  | leave _ => exact absurd calm.stays (by simp [perform])
  | cancel _ => exact absurd calm.running (by simp [perform, Connection.cancel])

/-- No calm run goes on for ever. -/
theorem wellFounded_calmMove (service : Service Backend) :
    WellFounded fun after before => CalmMove service before after := by
  have lex : WellFounded (Prod.Lex Before (· < ·) : (Nat × (Nat × Nat × Nat) × Nat) × Nat → _) :=
    (Prod.lex ⟨_, wellFounded_before⟩ Nat.lt_wfRel).wf
  apply Subrelation.wf _ (InvImage.wf (fun state => state.1.remaining) lex)
  intro after before move
  exact remaining_calmMove move

/-- A calm run can be continued to a state from which it cannot go on. -/
theorem exists_stuck (service : Service Backend) (state : Exchange × SharedState Backend) :
    ∃ last, CalmlyReaches service state last ∧ ∀ next, ¬CalmMove service last next := by
  induction state using (wellFounded_calmMove service).induction with
  | _ state ih =>
      by_cases stuck : ∀ next, ¬CalmMove service state next
      · exact ⟨state, .refl, stuck⟩
      · simp only [Classical.not_forall, Classical.not_not] at stuck
        rcases stuck with ⟨next, move⟩
        rcases ih next move with ⟨last, run, stuck⟩
        exact ⟨last, .head move run, stuck⟩

end Exchange

end DocumentProtocol
