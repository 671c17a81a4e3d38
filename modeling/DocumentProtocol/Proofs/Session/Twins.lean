import DocumentProtocol.Proofs.Session.Lockstep
import DocumentProtocol.Proofs.Session.Renumbering

/-!
# Connections that serve the same requests with other numbers

A responder may look at the number of a request. If none does (`Registry.IgnoresNumbers`), then the
number goes nowhere but into the reply: the answer to a request with the next number is the same,
but that it is to the next number (`Service.answer_renumbered`).

Two connections are twins if they are at the same point of two streams of requests that differ in
the numbers alone, and have sent replies that differ in what they answer alone (`Connection.Twins`).
Every step of one is a step of the other, at the same time and with the same effect on what is
shared, and twins they stay (`Connection.Twins.step`). The lengths decide which step it is; that the
bytes correspond, too, follows from the streams, since a message that has been read to its last byte
is the next one of its stream.
-/

namespace DocumentProtocol

variable {Backend : Type}

/-! ### Answers -/

/-- The header as that of an answer to the next request. -/
def Header.readdressed (header : Header) : Header :=
  { header with responseTo := header.responseTo + 1 }

theorem Header.keepsLength_renumbered : KeepsLength renumbered := fun _ => rfl

theorem Header.keepsLength_readdressed : KeepsLength readdressed := fun _ => rfl

def RequestInfo.withNumber (requestId : Int32) (info : RequestInfo) : RequestInfo :=
  { info with requestId := requestId }

/-- The request with the next number. -/
def Request.renumbered (request : Request) : Request :=
  { request with info := request.info.withNumber (request.info.requestId + 1) }

/-- Whether a responder does the same whatever the number of a request is. -/
def Responder.IgnoresNumbers (responder : Responder Backend) : Prop :=
  ∀ query requestId info backend,
    responder.handle query (info.withNumber requestId) backend = responder.handle query info backend

def Registry.IgnoresNumbers (registry : Registry Backend) : Prop :=
  ∀ responder ∈ registry.responders, responder.IgnoresNumbers

/-- The built-in responders do not look at the number. -/
theorem Registry.IgnoresNumbers.registerDefaults {registry : Registry Backend}
    (ignores : registry.IgnoresNumbers) (info : ServerInfo) (clock : Backend → Int64) :
    (registry.registerDefaults info clock).IgnoresNumbers := by
  intro responder mem
  simp only [Registry.registerDefaults, registerNamed, List.append_assoc, List.mem_append] at mem
  rcases mem with mem | mem
  · exact ignores responder mem
  · intro query requestId info backend
    simp only [List.mem_cons, List.not_mem_nil, or_false] at mem
    rcases mem with rfl | rfl | rfl | rfl <;> rfl

/-- A body is read in the same way, whatever the number of the request is. -/
theorem Operation.decode_add_one (operation : Operation) (requestId : Int32) (body : Bytes) :
    operation.decode (requestId + 1) body =
      (operation.decode requestId body).map Request.renumbered := by
  cases operation with
  | query =>
      simp only [decode, Query.decode, Except.map_bind]
      rfl
  | msg =>
      simp only [decode, Message.decode, Except.map_bind]
      rfl
  | insert =>
      simp only [decode, Insert.decode, Except.map_bind]
      apply bind_congr
      intro flags
      apply bind_congr
      intro collection
      apply bind_congr
      intro blocks
      cases blocks <;> rfl

theorem Request.ofMessage_renumbered (header : Header) (body : Bytes) :
    ofMessage header.renumbered body = (ofMessage header body).map renumbered := by
  simp only [ofMessage, Except.map_bind, ← Operation.decode_add_one]
  rfl

theorem Operation.replyFrame_add_one (operation : Operation) (document : Document)
    (responseTo replyId : Int32) :
    operation.replyFrame document (responseTo + 1) replyId =
      (operation.replyFrame document responseTo replyId).map
        (Option.map (Frame.mapHeader Header.readdressed)) := by
  cases answered : operation.isAnswered with
  | false =>
      cases operation with
      | insert => rfl
      | _ => cases answered
  | true =>
      simp only [replyFrame_of_isAnswered answered, Except.map_bind]
      cases document.encode with
      | error error => rfl
      | ok block =>
          change (Frame.make _ _ _ _).map some = ((Frame.make _ _ _ _).map some).map _
          simp only [Frame.make]
          split <;> rfl

namespace Service

variable {service : Service Backend}

theorem route_renumbered (ignores : service.registry.IgnoresNumbers) (request : Request)
    (backend : Backend) :
    service.route request.renumbered backend = service.route request backend := by
  have largest_eq : request.renumbered.info.largestDocument = request.info.largestDocument := rfl
  simp only [route, largest_eq]
  split
  · rfl
  · simp only [Registry.dispatch, Request.renumbered]
    rcases service.registry.exists_isFirst_or_none request.query with ⟨responder, isFirst⟩ | none
    · have mem : responder ∈ service.registry.responders := by
        rcases isFirst with ⟨_, before, behind, responders_eq, _⟩
        simp [responders_eq]
      simp only [Registry.findMatch_of_isFirst isFirst, ignores responder mem request.query]
    · simp only [Registry.findMatch_of_none none]

theorem routeShared_renumbered (ignores : service.registry.IgnoresNumbers) (request : Request)
    (shared : SharedState Backend) :
    service.routeShared request.renumbered shared = service.routeShared request shared := by
  simp only [routeShared, route_renumbered ignores]

theorem reply_renumbered (request : Request) (document : Document)
    (shared : SharedState Backend) :
    reply request.renumbered document shared =
      ((reply request document shared).1.map (Option.map (Frame.mapHeader Header.readdressed)),
        (reply request document shared).2) := by
  have expects_eq : request.renumbered.expectsReply = request.expectsReply := rfl
  simp only [reply, expects_eq]
  split
  · exact congrArg (·, shared.drawReplyId.2)
      (request.operation.replyFrame_add_one document request.info.requestId shared.nextReplyId)
  · rfl

/-- The answer to the next request is the same, but that it is to the next request. -/
theorem answer_renumbered (ignores : service.registry.IgnoresNumbers) (header : Header)
    (body : Bytes) (shared : SharedState Backend) :
    service.answer header.renumbered body shared =
      ((service.answer header body shared).1.map
          (Option.map (Frame.mapHeader Header.readdressed)),
        (service.answer header body shared).2) := by
  simp only [answer, Request.ofMessage_renumbered]
  cases Request.ofMessage header body with
  | error error => rfl
  | ok request =>
      simp only [Except.map, answerRequest, routeShared_renumbered ignores]
      generalize service.routeShared request shared = routed
      rcases routed with ⟨routed, after⟩
      cases answerDocument routed with
      | error error => rfl
      | ok document => exact reply_renumbered request document after

theorem isAnnounced_of_reply {request : Request} {document : Document} {reply : Frame}
    {shared after : SharedState Backend}
    (replied : Service.reply request document shared = (.ok (some reply), after)) :
    reply.IsAnnounced := by
  simp only [Service.reply] at replied
  split at replied
  · rename_i expects
    have answered : request.operation.isAnswered = true := by
      simp only [Request.expectsReply, Bool.and_eq_true] at expects
      exact expects.1
    simp only [Operation.replyFrame_of_isAnswered answered, Prod.mk.injEq, Except.bind_eq_ok_iff]
      at replied
    rcases replied with ⟨⟨block, _, made⟩, _⟩
    rcases Except.map_eq_ok_iff.1 made with ⟨frame, made, same⟩
    cases same
    exact (Frame.make_eq_ok_iff.1 made).1
  · cases replied

theorem isAnnounced_of_answer {header : Header} {body : Bytes} {reply : Frame}
    {shared after : SharedState Backend}
    (answered : service.answer header body shared = (.ok (some reply), after)) :
    reply.IsAnnounced := by
  simp only [answer] at answered
  split at answered
  · simp only [answerRequest] at answered
    split at answered
    · exact isAnnounced_of_reply answered
    · cases answered
  · cases answered

end Service

/-! ### Pipes -/

/-- What two readers find in two pipes and leave there: as much of one stream as of the other. -/
inductive Pipe.ReadsAlike (wanted : Nat) (available otherAvailable : Bytes) :
    Arrival × Pipe → Arrival × Pipe → Prop where
  | complete {bytes others : Bytes} {pipe other : Pipe} (left : pipe.Alike other)
      (length_eq : bytes.length = others.length) (enough : bytes.length = wanted)
      (kept : bytes ++ pipe.content = available)
      (other_kept : others ++ other.content = otherAvailable) :
      ReadsAlike wanted available otherAvailable (.complete bytes, pipe) (.complete others, other)
  | part {bytes others : Bytes} {pipe other : Pipe} (left : pipe.Alike other)
      (length_eq : bytes.length = others.length)
      (kept : bytes ++ pipe.content = available)
      (other_kept : others ++ other.content = otherAvailable) :
      ReadsAlike wanted available otherAvailable (.part bytes, pipe) (.part others, other)
  | failed {fault : StreamFault} {pipe other : Pipe} (left : pipe.Alike other) :
      ReadsAlike wanted available otherAvailable (.failed fault, pipe) (.failed fault, other)
  | pending {pipe other : Pipe} (left : pipe.Alike other) :
      ReadsAlike wanted available otherAvailable (.pending, pipe) (.pending, other)

theorem Pipe.Alike.read {pipe other : Pipe} {received others : Bytes} (alike : pipe.Alike other)
    (length_eq : received.length = others.length) (size : Nat) :
    Pipe.ReadsAlike (max received.length size) (received ++ pipe.content) (others ++ other.content)
      (pipe.read received size) (other.read others size) := by
  have rest_eq (bytes content : Bytes) (missing : Nat) :
      bytes ++ content.take missing ++ content.drop missing = bytes ++ content := by
    rw [List.append_assoc, List.take_append_drop]
  have empty_iff : other.content ≠ [] ↔ pipe.content ≠ [] := by
    rw [← List.length_pos_iff, ← alike.length_eq, List.length_pos_iff]
  have taken_eq (missing : Nat) : (received ++ pipe.content.take missing).length =
      (others ++ other.content.take missing).length := by
    simp only [List.length_append, List.length_take, length_eq, alike.length_eq]
  simp only [Pipe.read, ← length_eq, ← alike.fault_eq, ← alike.isFinished_eq, ← taken_eq,
    empty_iff]
  by_cases none_missing : size - received.length = 0
  · simp only [none_missing, ↓reduceIte, List.take_zero, List.append_nil]
    exact .complete alike length_eq (by omega) rfl rfl
  · simp only [none_missing, ↓reduceIte]
    cases pipe.fault? with
    | some fault => exact .failed alike
    | none =>
        dsimp only
        split
        · rename_i enough
          have wanted : (received ++ pipe.content.take (size - received.length)).length =
              max received.length size := by
            simp only [List.length_append, List.length_take] at enough ⊢
            omega
          exact .complete (alike.skip _) (taken_eq _) wanted (rest_eq _ _ _) (rest_eq _ _ _)
        · split
          · exact .part (alike.skip _) (taken_eq _) (rest_eq _ _ _) (rest_eq _ _ _)
          · split
            · exact .failed alike
            · exact .pending alike

/-! ### Connections -/

/-- Whether two connections are at the same point, the first with a request of the next number. -/
inductive Phase.Twins : Phase → Phase → Prop where
  | awaitingHeader {received others : Bytes} {since : Nat}
      (length_eq : received.length = others.length) :
      Twins (.awaitingHeader received since) (.awaitingHeader others since)
  | awaitingBody {header : Header} {received others : Bytes}
      (length_eq : received.length = others.length) :
      Twins (.awaitingBody header.renumbered received) (.awaitingBody header others)
  | dispatching {header : Header} {body : Bytes} :
      Twins (.dispatching header.renumbered body) (.dispatching header body)
  | replying {pending others : Bytes} {size since : Nat}
      (length_eq : pending.length = others.length) :
      Twins (.replying pending size since) (.replying others size since)
  | closed {outcome : Except ProtocolError Unit} : Twins (.closed outcome) (.closed outcome)

namespace Connection

/--
Whether two connections are twins: they are at the same point of the same requests, except that
those of the first have the next numbers, and have sent the same replies up to that. Of the requests
something may have yet to be sent, and of the replies the clients may have kept something.
-/
structure Twins (unsent otherUnsent kept otherKept : Bytes) (connection other : Connection) :
    Prop where
  phase : connection.phase.Twins other.phase
  inbound : connection.inbound.Alike other.inbound
  outbound : connection.outbound.Alike other.outbound
  isCancelled_eq : connection.isCancelled = other.isCancelled
  requests : connection.IsClosed ∨
    ∃ requests, Frame.Changes Header.renumbered requests (connection.ahead ++ unsent)
      (other.ahead ++ otherUnsent)
  /-- A connection that has ended in the middle of a reply leaves the rest of it unwritten. -/
  replies : ∃ rest otherRest replies,
    (connection.IsClosed ∨ rest = connection.phase.pending ∧ otherRest = other.phase.pending) ∧
    Frame.Changes Header.readdressed replies (kept ++ connection.outbound.content ++ rest)
      (otherKept ++ other.outbound.content ++ otherRest)

/-- Whether two connections are twins and share the same. -/
structure Beside (unsent otherUnsent kept otherKept : Bytes)
    (one another : Connection × SharedState Backend) : Prop where
  twins : Twins unsent otherUnsent kept otherKept one.1 another.1
  shared_eq : one.2 = another.2

namespace Twins

variable {service : Service Backend} {unsent otherUnsent kept otherKept received others : Bytes}
  {connection other : Connection} {now : Nat} {shared : SharedState Backend}

theorem close (twins : Twins unsent otherUnsent kept otherKept connection other)
    (error : ProtocolError) :
    Beside unsent otherUnsent kept otherKept (connection.close error shared)
      (other.close error shared) := by
  rcases twins.replies with ⟨rest, otherRest, replies, _, changes⟩
  exact
    { twins :=
        { phase := .closed
          inbound := twins.inbound.abandon
          outbound := twins.outbound.finish
          isCancelled_eq := twins.isCancelled_eq
          requests := .inl ⟨_, rfl⟩
          replies := ⟨rest, otherRest, replies, .inl ⟨_, rfl⟩, changes⟩ }
      shared_eq := rfl }

/-- Twins that go on with their pipes are twins if what is ahead of them is. -/
theorem goOn (twins : Twins unsent otherUnsent kept otherKept connection other)
    (running : ¬connection.IsClosed) {phase otherPhase : Phase} {inbound otherInbound : Pipe}
    (phases : phase.Twins otherPhase) (inbounds : inbound.Alike otherInbound)
    (requests : ∃ requests, Frame.Changes Header.renumbered requests
      (phase.begun ++ inbound.content ++ unsent)
      (otherPhase.begun ++ otherInbound.content ++ otherUnsent))
    (pending_eq : phase.pending = connection.phase.pending)
    (other_pending : otherPhase.pending = other.phase.pending) :
    Twins unsent otherUnsent kept otherKept
      { connection with phase := phase, inbound := inbound }
      { other with phase := otherPhase, inbound := otherInbound } := by
  rcases twins.replies with ⟨rest, otherRest, replies, closed | ⟨rfl, rfl⟩, changes⟩
  · exact absurd closed running
  · exact
      { phase := phases
        inbound := inbounds
        outbound := twins.outbound
        isCancelled_eq := twins.isCancelled_eq
        requests := .inr requests
        replies := ⟨_, _, replies, .inr ⟨rfl, rfl⟩, by rwa [pending_eq, other_pending]⟩ }

/-- What twins read from their clients, they keep or go on with alike. -/
theorem take {size : Nat} {keep otherKeep : Bytes → Phase}
    {accept otherAccept :
      Connection → Bytes → SharedState Backend → Connection × SharedState Backend}
    (twins : Twins unsent otherUnsent kept otherKept connection other)
    (length_eq : received.length = others.length)
    (keeps : ∀ {bytes otherBytes : Bytes} {inbound otherInbound : Pipe},
      inbound.Alike otherInbound → bytes.length = otherBytes.length →
        bytes ++ inbound.content = received ++ connection.inbound.content →
        otherBytes ++ otherInbound.content = others ++ other.inbound.content →
          Twins unsent otherUnsent kept otherKept
            { connection with phase := keep bytes, inbound := inbound }
            { other with phase := otherKeep otherBytes, inbound := otherInbound })
    (accepts : ∀ {bytes otherBytes : Bytes} {inbound otherInbound : Pipe},
      inbound.Alike otherInbound → bytes.length = otherBytes.length →
        bytes.length = max received.length size →
        bytes ++ inbound.content = received ++ connection.inbound.content →
        otherBytes ++ otherInbound.content = others ++ other.inbound.content →
          Beside unsent otherUnsent kept otherKept
            (accept { connection with inbound := inbound } bytes shared)
            (otherAccept { other with inbound := otherInbound } otherBytes shared)) :
    Option.Rel (Beside unsent otherUnsent kept otherKept)
      (connection.take received size keep accept shared)
      (other.take others size otherKeep otherAccept shared) := by
  have reads := twins.inbound.read length_eq size
  simp only [Connection.take]
  generalize connection.inbound.read received size = one at reads ⊢
  generalize other.inbound.read others size = another at reads ⊢
  cases reads with
  | complete left length_eq enough kept other_kept =>
      exact .some (accepts left length_eq enough kept other_kept)
  | part left length_eq kept other_kept => exact .some ⟨keeps left length_eq kept other_kept, rfl⟩
  | failed => exact .some (twins.close _)
  | pending => exact .none

theorem readHeader {since : Nat} (twins : Twins unsent otherUnsent kept otherKept connection other)
    (phase_eq : connection.phase = .awaitingHeader received since)
    (other_phase : other.phase = .awaitingHeader others since)
    (length_eq : received.length = others.length) (short : received.length < Header.size) :
    Option.Rel (Beside unsent otherUnsent kept otherKept)
      (connection.readHeader service now received since shared)
      (other.readHeader service now others since shared) := by
  have running : ¬connection.IsClosed := not_isClosed_of_outcome (by rw [phase_eq]; rfl)
  have pending_eq : connection.phase.pending = [] := by rw [phase_eq]; rfl
  have other_pending : other.phase.pending = [] := by rw [other_phase]; rfl
  rcases twins.requests.resolve_left running with ⟨requests, changes⟩
  simp only [ahead, phase_eq, other_phase, Phase.begun] at changes
  apply Deadline.rel_withinOptional _ _ _ (twins.close _)
  apply twins.take length_eq
  · intro bytes otherBytes inbound otherInbound inbounds length_eq stays other_stays
    rw [← stays, ← other_stays] at changes
    exact twins.goOn running (.awaitingHeader length_eq) inbounds ⟨requests, changes⟩
      pending_eq.symm other_pending.symm
  · intro bytes otherBytes inbound otherInbound inbounds length_eq enough stays other_stays
    have whole : bytes.length = Header.size := by omega
    have other_whole : otherBytes.length = Header.size := by omega
    have bytes_eq : (Header.ofBytes bytes).bytes = bytes := by
      rw [Header.bytes_ofBytes (Nat.le_of_eq whole.symm),
        List.take_of_length_le (Nat.le_of_eq whole)]
    have other_bytes : (Header.ofBytes otherBytes).bytes = otherBytes := by
      rw [Header.bytes_ofBytes (Nat.le_of_eq other_whole.symm),
        List.take_of_length_le (Nat.le_of_eq other_whole)]
    rw [← stays, ← other_stays] at changes
    have header_eq : Header.ofBytes bytes = (Header.ofBytes otherBytes).renumbered := by
      rw [List.append_assoc, List.append_assoc] at changes
      exact changes.header_eq length_eq (Nat.le_of_eq whole.symm)
    have goes : Twins unsent otherUnsent kept otherKept
        { connection with phase := .awaitingBody (Header.ofBytes bytes) [], inbound := inbound }
        { other with phase := .awaitingBody (Header.ofBytes otherBytes) [],
                     inbound := otherInbound } := by
      refine twins.goOn running ?_ inbounds ⟨requests, ?_⟩ pending_eq.symm other_pending.symm
      · rw [header_eq]
        exact .awaitingBody rfl
      · simpa only [Phase.begun, bytes_eq, other_bytes, List.append_nil] using changes
    have bodyLength_eq : (Header.ofBytes bytes).bodyLength service.maxMessageSize =
        (Header.ofBytes otherBytes).bodyLength service.maxMessageSize := by
      rw [header_eq]
      rfl
    simp only [acceptHeader, bodyLength_eq]
    cases (Header.ofBytes otherBytes).bodyLength service.maxMessageSize with
    | error error => exact goes.close error
    | ok length => exact ⟨goes, rfl⟩

theorem readBody {header : Header}
    (twins : Twins unsent otherUnsent kept otherKept connection other)
    (phase_eq : connection.phase = .awaitingBody header.renumbered received)
    (other_phase : other.phase = .awaitingBody header others)
    (length_eq : received.length = others.length) {length : Nat}
    (announced : header.bodyLength service.maxMessageSize = .ok length)
    (atMost : received.length ≤ length) :
    Option.Rel (Beside unsent otherUnsent kept otherKept)
      (connection.readBody header.renumbered received shared)
      (other.readBody header others shared) := by
  have running : ¬connection.IsClosed := not_isClosed_of_outcome (by rw [phase_eq]; rfl)
  have pending_eq : connection.phase.pending = [] := by rw [phase_eq]; rfl
  have other_pending : other.phase.pending = [] := by rw [other_phase]; rfl
  have header_length := (Header.bodyLength_eq_ok_iff.1 announced).1
  rcases twins.requests.resolve_left running with ⟨requests, changes⟩
  simp only [ahead, phase_eq, other_phase, Phase.begun] at changes
  apply twins.take length_eq
  · intro bytes otherBytes inbound otherInbound inbounds length_eq stays other_stays
    refine twins.goOn running (.awaitingBody length_eq) inbounds ⟨requests, ?_⟩ pending_eq.symm
      other_pending.symm
    simp only [Phase.begun]
    rwa [List.append_assoc header.renumbered.bytes, List.append_assoc header.bytes, stays,
      other_stays, ← List.append_assoc, ← List.append_assoc]
  · intro bytes otherBytes inbound otherInbound inbounds length_eq enough stays other_stays
    have frame_size : Header.size + bytes.length = Header.size + length := by
      have renumbered_length : header.renumbered.length = header.length := rfl
      rw [renumbered_length, header_length] at enough
      omega
    have announced : Frame.IsAnnounced ⟨header.renumbered, bytes⟩ := by
      rw [Frame.IsAnnounced, Frame.size, frame_size]
      exact header_length
    have other_announced : Frame.IsAnnounced ⟨header, otherBytes⟩ := by
      rw [Frame.IsAnnounced, Frame.size, ← length_eq, frame_size]
      exact header_length
    have framed : Frame.Changes Header.renumbered requests
        ((⟨header.renumbered, bytes⟩ : Frame).bytes ++ (inbound.content ++ unsent))
        ((⟨header, otherBytes⟩ : Frame).bytes ++ (otherInbound.content ++ otherUnsent)) := by
      simp only [Frame.bytes, List.append_assoc]
      rw [← List.append_assoc bytes, ← List.append_assoc otherBytes, stays, other_stays]
      simpa only [List.append_assoc] using changes
    rcases framed.uncons Header.keepsLength_renumbered announced other_announced with
      ⟨same, rest, changes⟩
    cases congrArg Frame.body same
    refine ⟨twins.goOn running .dispatching inbounds ⟨rest, ?_⟩ pending_eq.symm
      other_pending.symm, rfl⟩
    simpa only [Phase.begun, List.nil_append] using changes

/-- Twins that go on with their replies are twins if they have sent the same and will. -/
theorem turnTo (twins : Twins unsent otherUnsent kept otherKept connection other)
    (running : ¬connection.IsClosed) {phase otherPhase : Phase} {outbound otherOutbound : Pipe}
    (phases : phase.Twins otherPhase) (outbounds : outbound.Alike otherOutbound)
    (replies : ∃ replies, Frame.Changes Header.readdressed replies
      (kept ++ outbound.content ++ phase.pending)
      (otherKept ++ otherOutbound.content ++ otherPhase.pending))
    (begun_eq : phase.begun = connection.phase.begun)
    (other_begun : otherPhase.begun = other.phase.begun) :
    Twins unsent otherUnsent kept otherKept
      { connection with phase := phase, outbound := outbound }
      { other with phase := otherPhase, outbound := otherOutbound } where
  phase := phases
  inbound := twins.inbound
  outbound := outbounds
  isCancelled_eq := twins.isCancelled_eq
  requests := by
    right
    simpa only [ahead, begun_eq, other_begun] using twins.requests.resolve_left running
  replies := by
    rcases replies with ⟨replies, changes⟩
    exact ⟨_, _, replies, .inr ⟨rfl, rfl⟩, changes⟩

theorem changes_of_running (twins : Twins unsent otherUnsent kept otherKept connection other)
    (running : ¬connection.IsClosed) :
    ∃ replies, Frame.Changes Header.readdressed replies
      (kept ++ connection.outbound.content ++ connection.phase.pending)
      (otherKept ++ other.outbound.content ++ other.phase.pending) := by
  rcases twins.replies with ⟨_, _, replies, closed | ⟨rfl, rfl⟩, changes⟩
  · exact absurd closed running
  · exact ⟨replies, changes⟩

theorem dispatch {header : Header} {body : Bytes} (ignores : service.registry.IgnoresNumbers)
    (twins : Twins unsent otherUnsent kept otherKept connection other)
    (phase_eq : connection.phase = .dispatching header.renumbered body)
    (other_phase : other.phase = .dispatching header body) :
    Beside unsent otherUnsent kept otherKept
      (connection.dispatch service now header.renumbered body shared)
      (other.dispatch service now header body shared) := by
  have running : ¬connection.IsClosed := not_isClosed_of_outcome (by rw [phase_eq]; rfl)
  have begun_eq : connection.phase.begun = [] := by rw [phase_eq]; rfl
  have other_begun : other.phase.begun = [] := by rw [other_phase]; rfl
  rcases twins.changes_of_running running with ⟨replies, changes⟩
  simp only [phase_eq, other_phase, Phase.pending] at changes
  simp only [Connection.dispatch, Service.answer_renumbered ignores]
  cases answered : service.answer header body shared with
  | mk answer after =>
      rcases answer with error | _ | reply
      · exact twins.close error
      · exact ⟨twins.turnTo running (.awaitingHeader rfl) twins.outbound ⟨replies, changes⟩
          begun_eq.symm other_begun.symm, rfl⟩
      · have more := changes.append (.singleton (Service.isAnnounced_of_answer answered))
        simp only [List.append_nil] at more
        exact ⟨twins.turnTo running (.replying (by simp)) twins.outbound ⟨_, more⟩
          begun_eq.symm other_begun.symm, rfl⟩

theorem put {pending otherPending : Bytes} {size since : Nat}
    (twins : Twins unsent otherUnsent kept otherKept connection other)
    (phase_eq : connection.phase = .replying pending size since)
    (other_phase : other.phase = .replying otherPending size since)
    (length_eq : pending.length = otherPending.length) :
    Option.Rel (Beside unsent otherUnsent kept otherKept)
      (connection.put now pending size since shared)
      (other.put now otherPending size since shared) := by
  have running : ¬connection.IsClosed := not_isClosed_of_outcome (by rw [phase_eq]; rfl)
  have begun_eq : connection.phase.begun = [] := by rw [phase_eq]; rfl
  have other_begun : other.phase.begun = [] := by rw [other_phase]; rfl
  rcases twins.changes_of_running running with ⟨replies, changes⟩
  simp only [phase_eq, other_phase, Phase.pending] at changes
  have offered := twins.outbound.offer length_eq
  simp only [Connection.put, ← twins.outbound.writeFault?_eq]
  cases connection.outbound.writeFault? with
  | some fault => exact .some (twins.close _)
  | none =>
      simp only [Pipe.offer, List.drop_eq_nil_iff, List.length_drop, ← twins.outbound.room_eq,
        ← length_eq] at offered ⊢
      split
      · rename_i fits
        refine .some ⟨twins.turnTo running (.awaitingHeader rfl) offered ⟨replies, ?_⟩
          begun_eq.symm other_begun.symm, rfl⟩
        rw [length_eq] at fits
        simpa [Phase.pending, List.take_of_length_le, fits, length_eq] using changes
      · split
        · refine .some ⟨twins.turnTo running (.replying (by simp [length_eq])) offered ⟨replies, ?_⟩
            begun_eq.symm other_begun.symm, rfl⟩
          simpa [Phase.pending] using changes
        · exact .none

/-- Twins take the same steps, and are twins after them. -/
theorem step (ignores : service.registry.IgnoresNumbers)
    (twins : Twins unsent otherUnsent kept otherKept connection other)
    (sound : other.phase.IsSound service.maxMessageSize) :
    Option.Rel (Beside unsent otherUnsent kept otherKept)
      (connection.step service now shared) (other.step service now shared) := by
  have phases := twins.phase
  simp only [Connection.step, ← twins.isCancelled_eq]
  generalize phase_eq : connection.phase = phase at phases ⊢
  generalize other_phase : other.phase = otherPhase at phases ⊢
  cases phases with
  | awaitingHeader length_eq =>
      dsimp only
      split
      · exact .some (twins.close _)
      · exact twins.readHeader phase_eq other_phase length_eq (length_eq ▸ sound.short other_phase)
  | awaitingBody length_eq =>
      dsimp only
      split
      · exact .some (twins.close _)
      · rcases sound.announced other_phase with ⟨length, announced, atMost⟩
        exact twins.readBody phase_eq other_phase length_eq announced (length_eq ▸ atMost)
  | dispatching => exact .some (twins.dispatch ignores phase_eq other_phase)
  | replying length_eq =>
      exact Deadline.rel_within _ _ _ (twins.close _) (twins.put phase_eq other_phase length_eq)
  | closed => exact .none

end Twins

end Connection

end DocumentProtocol
