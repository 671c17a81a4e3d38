import DocumentProtocol.Proofs.Session.Idleness
import DocumentProtocol.Proofs.Session.Twins
import DocumentProtocol.Session.Dialogue

/-!
# The link to a connection is parallel

If no responder looks at the number of a request, a connection is a parallel far end
(`Exchange.isParallel_link`): it goes on alike for two clients whose requests have numbers that are
one apart, whatever has been cut off where by the sizes of the pipes and of the clients' memory, and
however the times at which it gives up waiting fall.

What lies behind the two links are exchanges with twins as their connections (`Exchange.Twins`). The
clients hold back what they have received until they ask for a frame, so an exchange settles by
steps of its connection and by bytes that go into the pipe to it. When a client asks for a frame,
its receiver takes in replies that the connections have written, and as both receivers stop at the
same place of the same replies, the exchanges go on as twins.
-/

namespace DocumentProtocol

variable {Backend : Type}

/-! ### Exchanges -/

namespace Exchange

theorem settle_of_none {service : Service Backend} {exchange : Exchange}
    {shared : SharedState Backend} (stuck : exchange.step service shared = none) :
    exchange.settle service shared = (exchange, shared) := by
  rw [settle]
  split
  · rfl
  · rename_i next after stepped
    rw [stuck] at stepped
    cases stepped

theorem settle_of_some {service : Service Backend} {exchange next : Exchange}
    {shared after : SharedState Backend}
    (stepped : exchange.step service shared = some (next, after)) :
    exchange.settle service shared = next.settle service after := by
  rw [settle]
  split
  · rename_i stuck
    rw [stepped] at stuck
    cases stuck
  · rename_i found
    rw [stepped] at found
    cases found
    rfl

theorem withUnread_nil {exchange : Exchange} (empty : exchange.connection.outbound.content = []) :
    exchange.withUnread [] = exchange := by
  rw [withUnread, ← empty]

theorem supply_of_some {service : Service Backend} {size : Nat} {receiver : Frame.Receiver}
    {exchange next : Exchange} {shared after : SharedState Backend}
    (stepped : exchange.step service shared = some (next, after)) :
    exchange.supply service size receiver shared = next.supply service size receiver after := by
  rw [supply]
  split
  · rename_i found
    rw [stepped] at found
    cases found
    rfl
  · rename_i stuck
    rw [stepped] at stuck
    cases stuck

theorem supply_of_none {service : Service Backend} {size : Nat} {receiver : Frame.Receiver}
    {exchange : Exchange} {shared : SharedState Backend}
    (stuck : exchange.step service shared = none) :
    exchange.supply service size receiver shared =
      match receiver.receive size exchange.connection.outbound.content
        exchange.connection.outbound.isFinished with
      | (some (answer, rest), receiver) =>
          (some answer, receiver, (exchange.withUnread rest).settle service shared)
      | (none, receiver) =>
          if exchange.connection.outbound.content = [] then (none, receiver, exchange, shared)
          else (exchange.withUnread []).supply service size receiver shared := by
  rw [supply]
  split
  · rename_i stepped
    rw [stuck] at stepped
    cases stepped
  · dsimp only
    generalize receiver.receive size exchange.connection.outbound.content
      exchange.connection.outbound.isFinished = found
    rcases found with ⟨_ | ⟨answer, rest⟩, after⟩
    · dsimp only
      split <;> rfl
    · rfl

/-- Whether the connections of two exchanges are twins, and their clients hold back. -/
structure Twins (limit : Nat) (unsent otherUnsent kept otherKept : Bytes)
    (exchange other : Exchange) : Prop where
  connection : Connection.Twins (exchange.outbox ++ unsent) (other.outbox ++ otherUnsent) kept
    otherKept exchange.connection other.connection
  sound : other.connection.phase.IsSound limit
  length_eq : exchange.outbox.length = other.outbox.length
  now_eq : exchange.now = other.now
  isReading_eq : exchange.isReading = false
  other_isReading : other.isReading = false

/-- Whether two exchanges are twins and share the same. -/
structure Beside (limit : Nat) (unsent otherUnsent kept otherKept : Bytes)
    (one another : Exchange × SharedState Backend) : Prop where
  twins : Twins limit unsent otherUnsent kept otherKept one.1 another.1
  shared_eq : one.2 = another.2

/--
Whether what two receivers have taken in out of the pipes of two exchanges comes to the same, up to
the numbers of requests, and leaves twins.
-/
inductive Received (limit : Nat) (unsent otherUnsent : Bytes) (exchange other : Exchange) :
    Option (Frame.Receiver.Answer × Bytes) × Frame.Receiver →
      Option (Frame.Receiver.Answer × Bytes) × Frame.Receiver → Prop where
  | answers {answer otherAnswer : Frame.Receiver.Answer} {left otherLeft : Bytes}
      {receiver otherReceiver : Frame.Receiver}
      (answers : answer.IsChanged Header.readdressed otherAnswer)
      (receivers : receiver.Alike otherReceiver)
      (twins : Twins limit unsent otherUnsent receiver.buffer otherReceiver.buffer
        (exchange.withUnread left) (other.withUnread otherLeft)) :
      Received limit unsent otherUnsent exchange other (some (answer, left), receiver)
        (some (otherAnswer, otherLeft), otherReceiver)
  | waits {receiver otherReceiver : Frame.Receiver} (receivers : receiver.Alike otherReceiver)
      (twins : Twins limit unsent otherUnsent receiver.buffer otherReceiver.buffer
        (exchange.withUnread []) (other.withUnread [])) :
      Received limit unsent otherUnsent exchange other (none, receiver) (none, otherReceiver)

/-- Whether two clients have got answers that differ in the numbers of requests, and leave twins. -/
structure Supplied (limit : Nat) (unsent otherUnsent : Bytes)
    (one another : Option Frame.Receiver.Answer × Frame.Receiver × Exchange × SharedState Backend) :
    Prop where
  answers : Option.Rel (Frame.Receiver.Answer.IsChanged Header.readdressed) one.1 another.1
  receivers : one.2.1.Alike another.2.1
  beside : Beside limit unsent otherUnsent one.2.1.buffer another.2.1.buffer one.2.2 another.2.2

namespace Twins

variable {service : Service Backend} {limit : Nat} {unsent otherUnsent kept otherKept : Bytes}
  {exchange other : Exchange} {shared : SharedState Backend}

theorem canReceive_eq (twins : Twins limit unsent otherUnsent kept otherKept exchange other) :
    exchange.canReceive = false := by
  simp [canReceive, twins.isReading_eq]

theorem other_canReceive (twins : Twins limit unsent otherUnsent kept otherKept exchange other) :
    other.canReceive = false := by
  simp [canReceive, twins.other_isReading]

theorem canTransmit_eq (twins : Twins limit unsent otherUnsent kept otherKept exchange other) :
    exchange.canTransmit = other.canTransmit := by
  have inbounds := twins.connection.inbound
  have isEmpty_eq : exchange.outbox.isEmpty = other.outbox.isEmpty := by
    rw [Bool.eq_iff_iff, List.isEmpty_iff_length_eq_zero, List.isEmpty_iff_length_eq_zero,
      twins.length_eq]
  simp only [canTransmit, Pipe.isWritable, inbounds.isFinished_eq, inbounds.isAbandoned_eq,
    inbounds.room_eq, isEmpty_eq]

theorem transmit (twins : Twins limit unsent otherUnsent kept otherKept exchange other) :
    Twins limit unsent otherUnsent kept otherKept exchange.transmit other.transmit := by
  have inbounds := twins.connection.inbound
  have moved (exchange : Exchange) (unsent : Bytes) :
      exchange.transmit.connection.ahead ++ (exchange.transmit.outbox ++ unsent) =
        exchange.connection.ahead ++ (exchange.outbox ++ unsent) := by
    simp only [Exchange.transmit, Connection.ahead, Pipe.offer, List.append_assoc]
    rw [← List.append_assoc (List.take _ _), List.take_append_drop]
  exact
    { connection :=
        { phase := twins.connection.phase
          inbound := inbounds.offer twins.length_eq
          outbound := twins.connection.outbound
          isCancelled_eq := twins.connection.isCancelled_eq
          requests := by
            rw [moved, moved]
            exact twins.connection.requests
          replies := twins.connection.replies }
      sound := twins.sound
      length_eq := by
        simp only [Exchange.transmit, Pipe.offer, List.length_drop, twins.length_eq,
          inbounds.room_eq]
      now_eq := twins.now_eq
      isReading_eq := twins.isReading_eq
      other_isReading := twins.other_isReading }

theorem step (ignores : service.registry.IgnoresNumbers)
    (twins : Twins service.maxMessageSize unsent otherUnsent kept otherKept exchange other)
    (shared : SharedState Backend) :
    Option.Rel (Beside service.maxMessageSize unsent otherUnsent kept otherKept)
      (exchange.step service shared) (other.step service shared) := by
  have steps : Option.Rel _ (exchange.connection.step service exchange.now shared)
    (other.connection.step service exchange.now shared) :=
    twins.connection.step ignores twins.sound
  simp only [Exchange.step, ← twins.now_eq]
  generalize exchange.connection.step service exchange.now shared = one at steps ⊢
  cases other_stepped : other.connection.step service exchange.now shared with
  | none =>
      rw [other_stepped] at steps
      cases steps
      simp only [twins.canReceive_eq, twins.other_canReceive, twins.canTransmit_eq]
      split
      · contradiction
      · split
        · exact .some ⟨twins.transmit, rfl⟩
        · exact .none
  | some another =>
      rw [other_stepped] at steps
      cases steps with
      | @some one _ beside =>
          rcases one with ⟨next, after⟩
          rcases another with ⟨otherNext, otherAfter⟩
          cases beside.shared_eq
          refine .some ⟨?_, rfl⟩
          exact
            { twins with
              connection := beside.twins
              now_eq := rfl
              sound := (Connection.transition_of_step other_stepped).isSound twins.sound }

theorem step_of_none (ignores : service.registry.IgnoresNumbers)
    (twins : Twins service.maxMessageSize unsent otherUnsent kept otherKept exchange other)
    (stuck : exchange.step service shared = none) : other.step service shared = none := by
  have steps := twins.step ignores shared
  rw [stuck] at steps
  generalize other.step service shared = stepped at steps
  cases steps
  rfl

theorem step_of_some (ignores : service.registry.IgnoresNumbers)
    (twins : Twins service.maxMessageSize unsent otherUnsent kept otherKept exchange other)
    {next : Exchange} {after : SharedState Backend}
    (stepped : exchange.step service shared = some (next, after)) :
    ∃ otherNext, other.step service shared = some (otherNext, after) ∧
      Twins service.maxMessageSize unsent otherUnsent kept otherKept next otherNext := by
  have steps := twins.step ignores shared
  rw [stepped] at steps
  cases other_stepped : other.step service shared with
  | none =>
      rw [other_stepped] at steps
      cases steps
  | some result =>
      rcases result with ⟨otherNext, otherAfter⟩
      rw [other_stepped] at steps
      cases steps with
      | some beside =>
          cases beside.shared_eq
          exact ⟨otherNext, rfl, beside.twins⟩

theorem settle (ignores : service.registry.IgnoresNumbers)
    (twins : Twins service.maxMessageSize unsent otherUnsent kept otherKept exchange other)
    (shared : SharedState Backend) :
    Beside service.maxMessageSize unsent otherUnsent kept otherKept
      (exchange.settle service shared) (other.settle service shared) := by
  fun_induction Exchange.settle service exchange shared generalizing other with
  | case1 exchange shared =>
      rename_i stuck
      rw [settle_of_none (twins.step_of_none ignores stuck)]
      exact ⟨twins, rfl⟩
  | case2 exchange shared next after =>
      rename_i stepped _ ih
      rcases twins.step_of_some ignores stepped with ⟨otherNext, other_stepped, twins⟩
      rw [settle_of_some other_stepped]
      exact ih twins

/-- A client that takes replies out of its pipe leaves twins, if what it leaves are replies. -/
theorem withUnread {left otherLeft rest otherRest keptAfter otherKeptAfter : Bytes}
    {replies : List Frame}
    (twins : Twins limit unsent otherUnsent kept otherKept exchange other)
    (length_eq : left.length = otherLeft.length)
    (last : exchange.connection.IsClosed ∨ rest = exchange.connection.phase.pending ∧
      otherRest = other.connection.phase.pending)
    (changes : Frame.Changes Header.readdressed replies (keptAfter ++ left ++ rest)
      (otherKeptAfter ++ otherLeft ++ otherRest)) :
    Twins limit unsent otherUnsent keptAfter otherKeptAfter (exchange.withUnread left)
      (other.withUnread otherLeft) where
  connection :=
    { phase := twins.connection.phase
      inbound := twins.connection.inbound
      outbound := { twins.connection.outbound with length_eq := length_eq }
      isCancelled_eq := twins.connection.isCancelled_eq
      requests := twins.connection.requests
      replies := ⟨rest, otherRest, replies, last, changes⟩ }
  sound := twins.sound
  length_eq := twins.length_eq
  now_eq := twins.now_eq
  isReading_eq := twins.isReading_eq
  other_isReading := twins.other_isReading

theorem receive {receiver otherReceiver : Frame.Receiver}
    (receivers : receiver.Alike otherReceiver)
    (twins : Twins limit unsent otherUnsent receiver.buffer otherReceiver.buffer exchange other)
    (size : Nat) (isFinished : Bool) :
    Received limit unsent otherUnsent exchange other
      (receiver.receive size exchange.connection.outbound.content isFinished)
      (otherReceiver.receive size other.connection.outbound.content isFinished) := by
  rcases twins.connection.replies with ⟨rest, otherRest, replies, last, changes⟩
  have length_eq := twins.connection.outbound.length_eq
  have conserves := Frame.Receiver.conserves_receive size receiver
    exchange.connection.outbound.content isFinished
  have other_conserves := Frame.Receiver.conserves_receive size otherReceiver
    other.connection.outbound.content isFinished
  rcases receivers.receive_of_changes Header.keepsLength_readdressed size length_eq changes
    isFinished with ⟨answers, afters⟩
  generalize receiver.receive size exchange.connection.outbound.content isFinished = one
    at answers afters conserves ⊢
  generalize otherReceiver.receive size other.connection.outbound.content isFinished = another
    at answers afters other_conserves ⊢
  rcases one with ⟨answer, after⟩
  rcases another with ⟨otherAnswer, otherAfter⟩
  cases answers with
  | some leaves =>
      rcases leaves with ⟨answers, left_length, replies, changes⟩
      exact .answers answers afters (twins.withUnread left_length last changes)
  | none =>
      cases conserves with
      | waits buffer_eq =>
          cases other_conserves with
          | waits other_buffer =>
              apply Received.waits afters (twins.withUnread rfl last _)
              · exact replies
              · rwa [List.append_nil, List.append_nil, buffer_eq, other_buffer]

theorem supply {receiver otherReceiver : Frame.Receiver}
    (ignores : service.registry.IgnoresNumbers)
    (receivers : receiver.Alike otherReceiver)
    (twins : Twins service.maxMessageSize unsent otherUnsent receiver.buffer otherReceiver.buffer
      exchange other) (size : Nat) (shared : SharedState Backend) :
    Supplied service.maxMessageSize unsent otherUnsent
      (exchange.supply service size receiver shared)
      (other.supply service size otherReceiver shared) := by
  fun_induction Exchange.supply service size receiver exchange shared
    generalizing other otherReceiver with
  | case1 receiver exchange shared next after stepped =>
      rename_i ih
      rcases twins.step_of_some ignores stepped with ⟨otherNext, other_stepped, twins⟩
      rw [supply_of_some other_stepped]
      exact ih receivers twins
  | case2 receiver exchange shared stuck outbound answer left after =>
      rename_i received
      have receives := twins.receive receivers size outbound.isFinished
      rw [received, twins.connection.outbound.isFinished_eq] at receives
      rw [supply_of_none (twins.step_of_none ignores stuck)]
      generalize otherReceiver.receive size _ _ = other_received at receives ⊢
      cases receives with
      | answers answers receivers twins =>
          exact ⟨.some answers, receivers, twins.settle ignores shared⟩
  | case3 receiver exchange shared stuck outbound after received =>
      rename_i empty
      have receives := twins.receive receivers size outbound.isFinished
      rw [received, twins.connection.outbound.isFinished_eq] at receives
      rw [supply_of_none (twins.step_of_none ignores stuck)]
      generalize otherReceiver.receive size _ _ = other_received at receives ⊢
      cases receives with
      | waits receivers taken =>
          have other_empty : other.connection.outbound.content = [] := by
            rw [← List.length_eq_zero_iff, ← twins.connection.outbound.length_eq,
              List.length_eq_zero_iff]
            exact empty
          rw [withUnread_nil empty, withUnread_nil other_empty] at taken
          simp only [other_empty, ↓reduceIte]
          exact ⟨.none, receivers, taken, rfl⟩
  | case4 receiver exchange shared stuck outbound after received present =>
      rename_i _ ih
      have receives := twins.receive receivers size outbound.isFinished
      rw [received, twins.connection.outbound.isFinished_eq] at receives
      rw [supply_of_none (twins.step_of_none ignores stuck)]
      generalize otherReceiver.receive size _ _ = other_received at receives ⊢
      cases receives with
      | waits receivers taken =>
          have other_present : other.connection.outbound.content ≠ [] := by
            rw [← List.length_pos_iff, ← twins.connection.outbound.length_eq, List.length_pos_iff]
            exact present
          simp only [other_present, ↓reduceIte]
          exact ih receivers taken

end Twins

/-! ### The link to a connection -/

section Outbox

variable {service : Service Backend} {exchange next : Exchange} {shared after : SharedState Backend}

/-- Bytes leave an outbox from the front. -/
theorem outbox_step (stepped : exchange.step service shared = some (next, after)) :
    ∃ taken, next.outbox = exchange.outbox.drop taken := by
  rcases step_cases stepped with ⟨connection, _, rfl⟩ | rfl | ⟨_, rfl⟩
  · exact ⟨0, rfl⟩
  · exact ⟨0, rfl⟩
  · exact ⟨_, rfl⟩

theorem outbox_settle (service : Service Backend) (exchange : Exchange)
    (shared : SharedState Backend) :
    ∃ taken, (exchange.settle service shared).1.outbox = exchange.outbox.drop taken := by
  apply settle_induction
    (motive := fun middle => ∃ taken, middle.outbox = exchange.outbox.drop taken)
  · exact ⟨0, rfl⟩
  · intro middle next state after taken stepped
    rcases taken with ⟨taken, outbox_eq⟩
    rcases outbox_step stepped with ⟨more, next_eq⟩
    exact ⟨taken + more, by rw [next_eq, outbox_eq, List.drop_drop]⟩

theorem outbox_supply (service : Service Backend) (empty : exchange.outbox = []) (size : Nat)
    (receiver : Frame.Receiver) (shared : SharedState Backend) :
    (exchange.supply service size receiver shared).2.2.1.outbox = [] := by
  fun_induction Exchange.supply service size receiver exchange shared with
  | case1 receiver exchange shared next after stepped _ ih =>
      rcases outbox_step stepped with ⟨taken, next_eq⟩
      apply ih
      rw [next_eq, empty, List.drop_nil]
  | case2 receiver exchange shared stuck outbound answer left after received =>
      rcases outbox_settle service (exchange.withUnread left) shared with ⟨taken, settled_eq⟩
      rw [settled_eq]
      simp [withUnread, empty]
  | case3 => exact empty
  | case4 receiver exchange shared stuck outbound after received present _ ih => exact ih empty

end Outbox

/-- The exchange with a client that holds back. -/
def withheld (exchange : Exchange) : Exchange := { exchange with isReading := false }

theorem Twins.withheld {limit : Nat} {unsent otherUnsent kept otherKept : Bytes}
    {exchange other : Exchange}
    (twins : Twins limit unsent otherUnsent kept otherKept exchange other) :
    Twins limit unsent otherUnsent kept otherKept exchange.withheld other.withheld :=
  { twins with isReading_eq := rfl, other_isReading := rfl }

/--
Whether behind two links there are twins, for clients of which one has sent some requests and the
other the same with the next numbers, or has yet to send the rest of them.
-/
inductive AreTwins (limit : Nat) (earlier : Bytes) (requests : List Frame) :
    Frame.Receiver × Bytes × Exchange × SharedState Backend →
      Frame.Receiver × Bytes × Exchange × SharedState Backend → Prop where
  | intro {receiver otherReceiver : Frame.Receiver} {sent otherSent unsent otherUnsent : Bytes}
      {exchange other : Exchange} {shared : SharedState Backend}
      (receivers : receiver.Alike otherReceiver)
      (twins : Twins limit unsent otherUnsent receiver.buffer otherReceiver.buffer
        exchange.withheld other.withheld)
      (empty : exchange.outbox = []) (other_empty : other.outbox = [])
      (renumbers : Renumbers earlier requests (sent ++ unsent) (otherSent ++ otherUnsent)) :
      AreTwins limit earlier requests (receiver, sent, exchange, shared)
        (otherReceiver, otherSent, other, shared)

/-- An exchange with nothing on its way is its own twin. -/
theorem areTwins_of_quiet {limit : Nat} {receiver : Frame.Receiver} {exchange : Exchange}
    {shared : SharedState Backend} {since : Nat}
    (phase_eq : exchange.connection.phase = .awaitingHeader [] since)
    (inbound_empty : exchange.connection.inbound.content = [])
    (outbound_empty : exchange.connection.outbound.content = []) (received : receiver.buffer = [])
    (empty : exchange.outbox = []) :
    AreTwins limit [] [] (receiver, [], exchange, shared) (receiver, [], exchange, shared) := by
  have nothing (change : Header → Header) : ∃ frames, Frame.Changes change frames [] [] :=
    ⟨[], .nil⟩
  have connection : Connection.Twins [] [] receiver.buffer receiver.buffer exchange.connection
      exchange.connection :=
    { phase := by
        rw [phase_eq]
        exact .awaitingHeader rfl
      inbound := ⟨rfl, rfl, rfl, rfl, rfl⟩
      outbound := ⟨rfl, rfl, rfl, rfl, rfl⟩
      isCancelled_eq := rfl
      requests := by
        right
        simpa [Connection.ahead, phase_eq, Phase.begun, inbound_empty] using nothing _
      replies := by
        rcases nothing Header.readdressed with ⟨replies, changes⟩
        refine ⟨[], [], replies, .inr ⟨?_, ?_⟩, ?_⟩
        · simp only [phase_eq, Phase.pending]
        · simp only [phase_eq, Phase.pending]
        · simpa [received, outbound_empty] using changes }
  have twins : Twins limit [] [] receiver.buffer receiver.buffer exchange.withheld
      exchange.withheld :=
    { connection := by simpa [withheld, empty] using connection
      sound := by
        have waits : exchange.withheld.connection.phase = .awaitingHeader [] since := phase_eq
        rw [waits]
        exact .awaitingHeader (by decide)
      length_eq := rfl
      now_eq := rfl
      isReading_eq := rfl
      other_isReading := rfl }
  exact .intro (.refl receiver) twins empty empty ⟨rfl, rfl, by simp⟩

theorem areTwins_start (limit capacity : Nat) (shared : SharedState Backend) :
    AreTwins limit [] [] ({}, [], start capacity, shared) ({}, [], start capacity, shared) :=
  areTwins_of_quiet rfl rfl rfl rfl rfl

variable {service : Service Backend} {earlier : Bytes}

/-- The exchange when its client has written some bytes and nothing has happened yet. -/
def sending (bytes : Bytes) (exchange : Exchange) : Exchange :=
  { exchange with outbox := bytes, inbox := [], isReading := false }

/-- Clients whose outboxes are empty send the rest of their requests and another one. -/
theorem Twins.sending {limit : Nat} {unsent otherUnsent kept otherKept tail otherTail : Bytes}
    {requests : List Frame} {exchange other : Exchange}
    (twins : Twins limit unsent otherUnsent kept otherKept exchange.withheld other.withheld)
    (empty : exchange.outbox = []) (other_empty : other.outbox = [])
    (length_eq : (unsent ++ tail).length = (otherUnsent ++ otherTail).length)
    (changes : Frame.Changes Header.renumbered requests tail otherTail) :
    Twins limit [] [] kept otherKept (exchange.sending (unsent ++ tail))
      (other.sending (otherUnsent ++ otherTail)) where
  connection :=
    { phase := twins.connection.phase
      inbound := twins.connection.inbound
      outbound := twins.connection.outbound
      isCancelled_eq := twins.connection.isCancelled_eq
      requests := by
        rcases twins.connection.requests with closed | ⟨before, stream⟩
        · exact .inl closed
        · right
          have empty : exchange.withheld.outbox = [] := empty
          have other_empty : other.withheld.outbox = [] := other_empty
          have joined := stream.append changes
          simp only [empty, other_empty, List.nil_append, List.append_assoc] at joined
          refine ⟨before ++ requests, ?_⟩
          rw [List.append_nil, List.append_nil]
          exact joined
      replies := twins.connection.replies }
  sound := twins.sound
  length_eq := length_eq
  now_eq := twins.now_eq
  isReading_eq := rfl
  other_isReading := rfl

/-- What cannot be written goes back to the clients. -/
theorem Twins.handBack {limit : Nat} {kept otherKept : Bytes} {exchange other : Exchange}
    (twins : Twins limit [] [] kept otherKept exchange other) :
    Twins limit exchange.outbox other.outbox kept otherKept { exchange with outbox := [] }
      { other with outbox := [] } where
  connection := by simpa using twins.connection
  sound := twins.sound
  length_eq := rfl
  now_eq := twins.now_eq
  isReading_eq := twins.isReading_eq
  other_isReading := twins.other_isReading

/-- Answers to requests of which one has the next number are alike, up to the numbers. -/
theorem areAlike_of_isChanged {one another : Option Frame.Receiver.Answer}
    (answers : Option.Rel (Frame.Receiver.Answer.IsChanged Header.readdressed) one another)
    (number : Int32) : Frame.Receiver.Answer.AreAlike number one another := by
  cases answers with
  | none => exact .waits
  | some answer =>
      cases answer with
      | frame frame =>
          refine .frame rfl rfl rfl (.inr rfl) ?_
          simp [Frame.mapHeader, Header.readdressed]
      | failed error => exact .failed error
      | ended => exact .ended

theorem logged_write_link (service : Service Backend) (bytes sent : Bytes) (exchange : Exchange)
    (shared : SharedState Backend) :
    (link service).logged.write bytes (sent, exchange, shared) =
      (((exchange.sending bytes).settle service shared).1.outbox,
        sent ++ bytes.take (bytes.length -
          ((exchange.sending bytes).settle service shared).1.outbox.length),
        { ((exchange.sending bytes).settle service shared).1 with outbox := [] },
        ((exchange.sending bytes).settle service shared).2) := rfl

/-- Bytes are taken from the front, as many as are not left. -/
theorem outbox_write_link (service : Service Backend) (bytes sent : Bytes) (exchange : Exchange)
    (shared : SharedState Backend) :
    ((link service).logged.write bytes (sent, exchange, shared)).1 =
      bytes.drop (bytes.length -
        ((exchange.sending bytes).settle service shared).1.outbox.length) := by
  rcases outbox_settle service (exchange.sending bytes) shared with ⟨taken, outbox_eq⟩
  have outbox_eq : ((exchange.sending bytes).settle service shared).1.outbox =
    bytes.drop taken := outbox_eq
  rw [logged_write_link, outbox_eq, List.drop_eq_drop_iff, List.length_drop]
  omega

theorem isParallel_link (ignores : service.registry.IgnoresNumbers) (limit : Nat) :
    (link service).IsParallel limit earlier (AreTwins service.maxMessageSize earlier) where
  write := by
    intro requests next first second far other bytes others alike length_eq renumbers
    cases alike with
    | @intro _ _ sent otherSent unsent otherUnsent exchange other shared receivers twins empty
        other_empty before =>
      rcases before.exists_changes renumbers with ⟨tail, otherTail, rfl, rfl, changes⟩
      have settles := (twins.sending empty other_empty length_eq changes).settle ignores shared
      have rest_eq := outbox_write_link service (unsent ++ tail) sent exchange shared
      have other_rest := outbox_write_link service (otherUnsent ++ otherTail) otherSent other shared
      have left_length := settles.twins.length_eq
      rw [← Link.logged_append_write rest_eq, ← Link.logged_append_write other_rest] at renumbers
      simp only [logged_write_link] at renumbers ⊢
      refine ⟨⟨_, rest_eq, ?_⟩, ?_⟩
      · rw [left_length, length_eq]
        exact other_rest
      · generalize (exchange.sending (unsent ++ tail)).settle service shared = one
          at settles renumbers ⊢
        generalize (other.sending (otherUnsent ++ otherTail)).settle service shared = another
          at settles renumbers ⊢
        rcases one with ⟨exchange, after⟩
        rcases another with ⟨other, otherAfter⟩
        rcases settles with ⟨twins, shared_eq⟩
        cases shared_eq
        exact .intro receivers twins.handBack.withheld rfl rfl renumbers
  isCut := by
    intro requests first second far other alike
    cases alike with
    | intro receivers twins empty other_empty renumbers =>
      exact twins.connection.inbound.isAbandoned_eq
  read := by
    intro requests request first second far other alike _
    cases alike with
    | @intro _ _ sent otherSent unsent otherUnsent exchange other shared receivers twins empty
        other_empty renumbers =>
      have supplied := twins.supply ignores receivers limit shared
      have empty : exchange.withheld.outbox = [] := empty
      have other_empty : other.withheld.outbox = [] := other_empty
      have emptied := outbox_supply service empty limit first shared
      have other_emptied := outbox_supply service other_empty limit second shared
      change Frame.Receiver.Answer.AreAlike _
        (exchange.withheld.supply service limit first shared).1
        (other.withheld.supply service limit second shared).1 ∧
        AreTwins service.maxMessageSize earlier (requests ++ [request])
          ((exchange.withheld.supply service limit first shared).2.1, sent,
            (exchange.withheld.supply service limit first shared).2.2)
          ((other.withheld.supply service limit second shared).2.1, otherSent,
            (other.withheld.supply service limit second shared).2.2)
      generalize exchange.withheld.supply service limit first shared = one at supplied emptied ⊢
      generalize other.withheld.supply service limit second shared = another
        at supplied other_emptied ⊢
      rcases one with ⟨answer, receiver, exchange, after⟩
      rcases another with ⟨otherAnswer, otherReceiver, other, otherAfter⟩
      rcases supplied with ⟨answers, receivers, twins, shared_eq⟩
      cases shared_eq
      exact ⟨areAlike_of_isChanged answers _,
        .intro receivers twins.withheld emptied other_emptied renumbers⟩

end Exchange

end DocumentProtocol
