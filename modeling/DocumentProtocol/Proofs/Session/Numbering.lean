import DocumentProtocol.Proofs.Session.Wire

/-!
# Replies but for their numbers

The connections of a server draw the numbers of their replies from one source, so a number tells
how many replies all of them have drawn before. It is all that a reply tells about the others: if
no responder looks at the backend, what comes of a message is a matter of the message alone but for
the number (`Service.Issues.unnumbered_eq`).

`Deed.delivered` is what the client has of the replies. Two connections whose clients send the same
bytes, one perhaps more of them, have replies of which one sequence continues the other; and if both
have been served to the end, the replies are the same.
-/

namespace DocumentProtocol

variable {Backend : Type}

open Deed

/-! ### Numbers -/

/-- A frame but for its number. -/
def Frame.unnumbered (frame : Frame) : Frame :=
  { frame with header := { frame.header with requestId := 0 } }

@[simp]
theorem Frame.size_unnumbered (frame : Frame) : frame.unnumbered.size = frame.size := rfl

/-- What came of a message but for the number of the reply. -/
def Receipt.unnumbered (receipt : Receipt Backend) : Except ProtocolError (Option Frame) :=
  receipt.answer.map (Option.map Frame.unnumbered)

/-- Whether the results of a responder are the same for every backend. -/
def Responder.IgnoresBackend (responder : Responder Backend) : Prop :=
  ∀ query info first second,
    (responder.handle query info first).1 = (responder.handle query info second).1

def Registry.IgnoresBackend (registry : Registry Backend) : Prop :=
  ∀ responder ∈ registry.responders, responder.IgnoresBackend

theorem Operation.unnumbered_replyFrame (operation : Operation) (document : Document)
    (responseTo first second : Int32) :
    (operation.replyFrame document responseTo first).map (Option.map Frame.unnumbered) =
      (operation.replyFrame document responseTo second).map (Option.map Frame.unnumbered) := by
  cases answered : operation.isAnswered with
  | false =>
      cases operation with
      | insert => rfl
      | _ => cases answered
  | true =>
      simp only [replyFrame_of_isAnswered answered]
      cases document.encode with
      | error error => rfl
      | ok block =>
          change ((Frame.make _ _ _ _).map some).map _ = ((Frame.make _ _ _ _).map some).map _
          simp only [Frame.make]
          split <;> rfl

namespace Service

variable {service : Service Backend}

theorem route_eq (ignores : service.registry.IgnoresBackend) (request : Request)
    (first second : Backend) :
    (service.route request first).1 = (service.route request second).1 := by
  simp only [route, Registry.dispatch]
  split
  · rfl
  · rcases service.registry.exists_isFirst_or_none request.query with ⟨responder, isFirst⟩ | none
    · have mem : responder ∈ service.registry.responders := by
        rcases isFirst with ⟨_, before, behind, responders_eq, _⟩
        simp [responders_eq]
      simp only [Registry.findMatch_of_isFirst isFirst,
        ignores responder mem request.query request.info first second]
    · simp only [Registry.findMatch_of_none none]

theorem routeShared_eq (request : Request) (shared : SharedState Backend) :
    (service.routeShared request shared).1 = (service.route request shared.backend).1 := by
  simp only [routeShared]
  rcases service.route request shared.backend with ⟨routed, backend⟩
  cases routed with
  | ok document => rfl
  | error error =>
      dsimp only
      split <;> rfl

theorem unnumbered_reply (request : Request) (document : Document)
    (first second : SharedState Backend) :
    (reply request document first).1.map (Option.map Frame.unnumbered) =
      (reply request document second).1.map (Option.map Frame.unnumbered) := by
  simp only [reply]
  split
  · apply Operation.unnumbered_replyFrame
  · rfl

/-- What comes of a message does not depend on what is shared, but for the number. -/
theorem unnumbered_answer (ignores : service.registry.IgnoresBackend) (header : Header)
    (body : Bytes) (first second : SharedState Backend) :
    (service.answer header body first).1.map (Option.map Frame.unnumbered) =
      (service.answer header body second).1.map (Option.map Frame.unnumbered) := by
  simp only [answer]
  cases Request.ofMessage header body with
  | error error => rfl
  | ok request =>
      have routed_eq := service.route_eq ignores request first.backend second.backend
      rw [← service.routeShared_eq request first, ← service.routeShared_eq request second]
        at routed_eq
      simp only [answerRequest]
      generalize service.routeShared request first = one at routed_eq ⊢
      generalize service.routeShared request second = another at routed_eq ⊢
      rcases one with ⟨routed, after⟩
      rcases another with ⟨_, otherAfter⟩
      cases routed_eq
      cases answerDocument routed with
      | error error => rfl
      | ok document => apply unnumbered_reply

theorem Issues.unnumbered_eq {receipt other : Receipt Backend}
    (ignores : service.registry.IgnoresBackend) (issues : service.Issues receipt)
    (other_issues : service.Issues other) (frame_eq : receipt.frame = other.frame) :
    receipt.unnumbered = other.unnumbered := by
  rcases issues with ⟨shared, _, _, answer⟩
  rcases other_issues with ⟨otherShared, _, _, otherAnswer⟩
  rw [← frame_eq] at otherAnswer
  have same := unnumbered_answer ignores receipt.frame.header receipt.frame.body shared otherShared
  rwa [answer, otherAnswer] at same

end Service

/-! ### What a client has of the replies -/

namespace Frame

/-- The frames of which all bytes are there when so many bytes of all frames are. -/
def complete (size : Nat) : List Frame → List Frame
  | [] => []
  | frame :: frames =>
      if frame.size ≤ size then frame :: complete (size - frame.size) frames else []

variable {limit size : Nat} {frames : List Frame} {bytes : Bytes}

theorem complete_isPrefix (size : Nat) (frames : List Frame) : complete size frames <+: frames := by
  induction frames generalizing size with
  | nil => exact List.prefix_rfl
  | cons frame frames ih =>
      rw [complete]
      split
      · exact List.cons_prefix_cons.2 ⟨rfl, ih _⟩
      · exact List.nil_prefix

theorem map_unnumbered_complete (size : Nat) (frames : List Frame) :
    (complete size frames).map unnumbered = complete size (frames.map unnumbered) := by
  induction frames generalizing size with
  | nil => rfl
  | cons frame frames ih =>
      rw [complete, List.map_cons, complete, size_unnumbered, ← ih]
      split <;> rfl

theorem complete_length (frames : List Frame) :
    complete (allBytes frames).length frames = frames := by
  induction frames with
  | nil => rfl
  | cons frame frames ih => simp [complete, ih]

/-- Of some bytes of frames, those that do not belong to a complete frame begin the next one. -/
theorem exists_append_of_isPrefix (front : bytes <+: allBytes frames) :
    ∃ begun, bytes = allBytes (complete bytes.length frames) ++ begun ∧
      ∀ next rest, frames = complete bytes.length frames ++ next :: rest →
        begun.length < next.size := by
  induction frames generalizing bytes with
  | nil =>
      have none : bytes = [] := by simpa using front
      exact ⟨[], by simp [none, complete], by simp [complete]⟩
  | cons frame frames ih =>
      rw [allBytes_cons] at front
      by_cases whole : frame.size ≤ bytes.length
      · have head : frame.bytes <+: bytes := by
          apply List.prefix_of_prefix_length_le (List.prefix_append _ _) front
          simpa using whole
        rcases head with ⟨tail, rfl⟩
        rcases ih ((List.prefix_append_right_inj _).1 front) with ⟨begun, tail_eq, short⟩
        have left : (frame.bytes ++ tail).length - frame.size = tail.length := by simp
        refine ⟨begun, ?_, ?_⟩
        · rw [complete, if_pos whole, left, allBytes_cons, List.append_assoc, ← tail_eq]
        · simpa [complete, left] using short
      · refine ⟨bytes, by simp [complete, whole], ?_⟩
        intro next rest
        simp only [complete, if_neg whole, List.nil_append, List.cons.injEq]
        rintro ⟨rfl, _⟩
        exact Nat.not_le.1 whole

end Frame

/-- The replies of which the client has received all bytes. -/
def Deed.delivered (log : List (Deed Backend)) : List Frame :=
  Frame.complete (received log).length (due log)

namespace Connection

/-- All that is written belongs to the replies that have come due. -/
theorem Account.written_isPrefix {connection : Connection} {log : List (Deed Backend)}
    (account : connection.Account log) : Deed.written log <+: Frame.allBytes (due log) := by
  cases account with
  | reading _ stands => rw [stands.written_eq_due]
  | dispatching _ stands => rw [stands.written_eq_due]
  | replying _ stands answer bytes_eq _ =>
      exact ⟨_, stands.written_append_eq_due answer bytes_eq⟩
  | atRest _ stands => rw [stands.written_eq_due]
  | refused _ stands answer => rw [stands.written_eq_due_of_error answer]
  | cutOff _ stands answer bytes_eq _ _ =>
      exact ⟨_, stands.written_append_eq_due answer bytes_eq⟩

end Connection

namespace Socket

variable {service : Service Backend} {socket : Socket} {actions : List Action}
  {log : List (Deed Backend)} {identifier capacity since : Nat}
  (life : (Socket.start identifier capacity since).Life service actions log socket)

include life

/-- What a client has received are the replies delivered to it and the beginning of the next. -/
theorem Life.received_eq :
    ∃ begun, received log = Frame.allBytes (delivered log) ++ begun ∧
      ∀ next rest, due log = delivered log ++ next :: rest → begun.length < next.size := by
  rcases life.delivers with ⟨lost, delivers⟩
  apply Frame.exists_append_of_isPrefix
  apply List.IsPrefix.trans _ life.account.written_isPrefix
  rw [delivers.written_eq, List.append_assoc]
  exact List.prefix_append _ _

/-- The messages that have been answered are the front of those that have been read. -/
theorem Life.answered_isPrefix : (receipts log).map Receipt.frame <+: frames log := by
  rw [life.frames_eq]
  exact List.prefix_append _ _

end Socket

/-! ### Comparing two logs -/

namespace Frame

/-- Whether one of two sequences of frames continues the other. -/
def Comparable (first second : List Frame) : Prop := first <+: second ∨ second <+: first

theorem Comparable.of_isPrefix {first second whole other : List Frame}
    (comparable : Comparable whole other) (front : first <+: whole)
    (other_front : second <+: other) : Comparable first second := by
  rcases comparable with continues | continues
  · exact List.prefix_or_prefix_of_prefix (front.trans continues) other_front
  · exact List.prefix_or_prefix_of_prefix front (other_front.trans continues)

namespace Part

variable {limit : Nat} {stream longer rest leftover : Bytes} {frames others : List Frame}

theorem extend (part : Part limit stream frames rest) (front : stream <+: longer) :
    ∃ rest, Part limit longer frames rest := by
  rcases front with ⟨more, rfl⟩
  refine ⟨rest ++ more, ?_, part.acceptable⟩
  rw [part.bytes_eq, List.append_assoc]

/-- What is read off two streams is the same as far as it goes if the streams are. -/
theorem comparable (part : Part limit stream frames rest)
    (other : Part limit longer others leftover) (front : stream <+: longer) :
    Comparable frames others := by
  rcases part.extend front with ⟨rest, part⟩
  rcases exists_split limit longer with ⟨all, behind, split⟩
  exact List.prefix_or_prefix_of_prefix (part.isPrefix split) (other.isPrefix split)

end Part

end Frame

section Issued

variable {service : Service Backend} (ignores : service.registry.IgnoresBackend)

include ignores

theorem Service.unnumbered_isPrefix {receipts others : List (Receipt Backend)}
    (issued : ∀ receipt ∈ receipts, service.Issues receipt)
    (others_issued : ∀ receipt ∈ others, service.Issues receipt)
    (front : receipts.map Receipt.frame <+: others.map Receipt.frame) :
    receipts.map Receipt.unnumbered <+: others.map Receipt.unnumbered := by
  induction receipts generalizing others with
  | nil => exact List.nil_prefix
  | cons receipt receipts ih =>
      cases others with
      | nil => simp at front
      | cons other others =>
          simp only [List.mem_cons, or_imp, forall_and, forall_eq] at issued others_issued
          simp only [List.map_cons, List.cons_prefix_cons] at front ⊢
          exact ⟨issued.1.unnumbered_eq ignores others_issued.1 front.1,
            ih issued.2 others_issued.2 front.2⟩

theorem Deed.due_isPrefix {log other : List (Deed Backend)}
    (issued : ∀ receipt ∈ receipts log, service.Issues receipt)
    (other_issued : ∀ receipt ∈ receipts other, service.Issues receipt)
    (front : (receipts log).map Receipt.frame <+: (receipts other).map Receipt.frame) :
    (due log).map Frame.unnumbered <+: (due other).map Frame.unnumbered := by
  have due_eq (log : List (Deed Backend)) : (due log).map Frame.unnumbered =
      ((receipts log).map Receipt.unnumbered).filterMap fun answer => answer.toOption.join := by
    rw [due, List.map_filterMap, List.filterMap_map]
    apply List.filterMap_congr
    intro receipt _
    rcases receipt with ⟨frame, backend, error | reply⟩
    · rfl
    · cases reply <;> rfl
  rw [due_eq, due_eq]
  exact (Service.unnumbered_isPrefix ignores issued other_issued front).filterMap _

theorem Deed.due_eq {log other : List (Deed Backend)}
    (issued : ∀ receipt ∈ receipts log, service.Issues receipt)
    (other_issued : ∀ receipt ∈ receipts other, service.Issues receipt)
    (frames_eq : (receipts log).map Receipt.frame = (receipts other).map Receipt.frame) :
    (due log).map Frame.unnumbered = (due other).map Frame.unnumbered :=
  (due_isPrefix ignores issued other_issued (by rw [frames_eq])).eq_of_length_le
    (due_isPrefix ignores other_issued issued (by rw [frames_eq])).length_le

theorem Deed.comparable_due {log other : List (Deed Backend)}
    (issued : ∀ receipt ∈ receipts log, service.Issues receipt)
    (other_issued : ∀ receipt ∈ receipts other, service.Issues receipt)
    (comparable : Frame.Comparable ((receipts log).map Receipt.frame)
      ((receipts other).map Receipt.frame)) :
    Frame.Comparable ((due log).map Frame.unnumbered) ((due other).map Frame.unnumbered) := by
  rcases comparable with front | front
  · exact .inl (due_isPrefix ignores issued other_issued front)
  · exact .inr (due_isPrefix ignores other_issued issued front)

end Issued

theorem Deed.comparable_delivered {log other : List (Deed Backend)}
    (comparable : Frame.Comparable ((due log).map Frame.unnumbered)
      ((due other).map Frame.unnumbered)) :
    Frame.Comparable ((delivered log).map Frame.unnumbered)
      ((delivered other).map Frame.unnumbered) :=
  comparable.of_isPrefix ((Frame.complete_isPrefix _ _).map _) ((Frame.complete_isPrefix _ _).map _)

/-! ### Connections that have been served -/

namespace Socket

/-- Whether a client has all the replies that there will be to what it has sent so far. -/
structure IsServed (socket : Socket) : Prop where
  kept : socket.connection.outbound.isAbandoned = false
  faultless : socket.connection.IsFaultless
  taken : socket.connection.outbound.content = []
  /-- The connection waits for more of a message, or it has ended before its time was over. -/
  done : (socket.stage ≠ .leaving ∧ socket.connection.inbound.content = [] ∧
      ∃ received size, socket.connection.Reads received size ∧ received.length < size) ∨
    ∃ error, socket.connection.phase = .closed (.error error) ∧ error ≠ .timeout

variable {service : Service Backend} {socket other : Socket} {actions others : List Action}
  {log more : List (Deed Backend)} {identifier capacity since : Nat}

/-- A connection that has been served has read all messages up to the first that it refuses. -/
theorem Follows.of_isServed (follows : socket.Follows service.maxMessageSize log)
    (served : socket.IsServed) :
    (∃ leftover, Frame.Split service.maxMessageSize (stream log) (frames log) leftover) ∨
      ∃ receipt error, (receipts log).getLast? = some receipt ∧ receipt.answer = .error error := by
  rcases served.done with ⟨stage_ne, empty, received, size, reads, short⟩ | ⟨error, ended, timely⟩
  · cases follows with
    | running _ _ sound part =>
        have none := reads.next_eq_none sound short empty
        rcases part.split_of_stops (Frame.Stream.stops_of_next_none none) with ⟨leftover, split, _⟩
        exact .inl ⟨leftover, split⟩
    | ended phase_eq _ _ _ => exact absurd ⟨_, phase_eq⟩ reads.not_isClosed
    | aborted stage_eq _ _ _ => exact absurd stage_eq stage_ne
  · cases follows with
    | running _ unended _ _ => exact absurd ⟨_, ended⟩ unended
    | aborted _ unended _ _ => exact absurd ⟨_, ended⟩ unended
    | ended phase_eq _ part cause =>
        rw [ended] at phase_eq
        cases phase_eq
        generalize outcome_eq : Except.error error = outcome at cause
        cases cause with
        | told _ => cases outcome_eq
        | late =>
            cases outcome_eq
            exact absurd rfl timely
        | broken fault_eq => simp [served.faultless.1] at fault_eq
        | severed suffers => exact absurd suffers (served.faultless.not_suffers served.kept _)
        | refused last answer => exact .inr ⟨_, _, last, answer⟩
        | exhausted stops =>
            rcases part.split_of_stops stops with ⟨leftover, split, _⟩
            exact .inl ⟨leftover, split⟩

/-- A connection that has been served has answered all messages that it has read. -/
theorem Life.answered_of_isServed
    (life : (Socket.start identifier capacity since).Life service actions log socket)
    (served : socket.IsServed) : frames log = (receipts log).map Receipt.frame := by
  have idle : socket.connection.phase.current? = none := by
    rcases served.done with ⟨_, _, _, _, reads, _⟩ | ⟨_, ended, _⟩
    · exact reads.current?_eq
    · rw [ended]
      rfl
  rw [life.frames_eq, idle, Option.toList_none, List.append_nil]

/-- A connection that has been served has written all replies, and its client has them. -/
theorem Life.delivered_eq
    (life : (Socket.start identifier capacity since).Life service actions log socket)
    (served : socket.IsServed) : delivered log = due log := by
  have written_eq : written log = Frame.allBytes (due log) := by
    cases life.account with
    | reading _ stands => exact stands.written_eq_due
    | dispatching _ stands => exact stands.written_eq_due
    | atRest _ stands => exact stands.written_eq_due
    | refused _ stands answer => exact stands.written_eq_due_of_error answer
    | replying phase_eq _ _ _ _ =>
        rcases served.done with ⟨_, _, _, _, reads, _⟩ | ⟨_, ended, _⟩
        · cases reads <;> simp_all
        · simp [phase_eq] at ended
    | cutOff phase_eq _ _ _ _ error_eq =>
        rcases served.done with ⟨_, _, _, _, reads, _⟩ | ⟨_, ended, timely⟩
        · exact absurd ⟨_, phase_eq⟩ reads.not_isClosed
        · rw [phase_eq] at ended
          cases ended
          rcases error_eq with late | ⟨_, _, suffers⟩
          · exact absurd late timely
          · exact absurd suffers (served.faultless.not_suffers served.kept _)
  rcases life.delivers with ⟨lost, delivers⟩
  have received_eq := delivers.written_eq
  rw [delivers.kept served.kept, served.taken, List.append_nil, List.append_nil, written_eq]
    at received_eq
  rw [delivered, ← received_eq, Frame.complete_length]

/-- Nothing is read after a message that is refused. -/
theorem nil_of_refused {front tail : List (Except ProtocolError (Option Frame))}
    {error : ProtocolError} (account : socket.connection.Account log)
    (unnumbered_eq : (receipts log).map Receipt.unnumbered = front ++ .error error :: tail) :
    tail = [] := by
  rcases account.exists_stands with ⟨answered, current, begun, stands⟩
  have last_of {part : List (Except ProtocolError (Option Frame))}
      (last_eq : current.toList.map Receipt.unnumbered = part ++ .error error :: tail) :
      tail = [] := by
    have atMost : current.toList.length ≤ 1 := by cases current <;> simp
    have length_eq := congrArg List.length last_eq
    simp only [List.length_map, List.length_append, List.length_cons] at length_eq
    exact List.eq_nil_of_length_eq_zero (by omega)
  rw [stands.receipts_eq, List.map_append, List.append_eq_append_iff] at unnumbered_eq
  rcases unnumbered_eq with ⟨part, _, last_eq⟩ | ⟨part, answered_eq, rest_eq⟩
  · exact last_of last_eq
  · cases part with
    | nil => exact @last_of [] rest_eq.symm
    | cons first part =>
        -- The refused message would be among those that have been answered.
        simp only [List.cons_append, List.cons.injEq] at rest_eq
        have mem : Except.error error ∈ answered.map Receipt.unnumbered := by
          simp [answered_eq, rest_eq.1]
        rcases List.mem_map.1 mem with ⟨receipt, mem, refused⟩
        rcases stands.settled receipt mem with ⟨reply?, answer⟩
        simp [Receipt.unnumbered, answer, Except.map] at refused

/-- A connection that has been served has read as much as any other with the same stream. -/
theorem frames_eq_of_isServed (ignores : service.registry.IgnoresBackend)
    (follows : socket.Follows service.maxMessageSize log)
    (other_follows : other.Follows service.maxMessageSize more)
    (account : other.connection.Account more)
    (issued : ∀ receipt ∈ receipts log, service.Issues receipt)
    (other_issued : ∀ receipt ∈ receipts more, service.Issues receipt)
    (served : socket.IsServed) (answered : frames log = (receipts log).map Receipt.frame)
    (other_answered : frames more = (receipts more).map Receipt.frame)
    (stream_eq : stream log = stream more) (front : frames log <+: frames more) :
    frames log = frames more := by
  rcases follows.of_isServed served with ⟨leftover, split⟩ | ⟨receipt, error, last, refused⟩
  · rw [stream_eq] at split
    rcases other_follows.exists_part with ⟨rest, part⟩
    exact front.eq_of_length_le (part.isPrefix split).length_le
  · rcases List.getLast?_eq_some_iff.1 last with ⟨earlier, receipts_eq⟩
    rw [answered, other_answered] at front ⊢
    rcases Service.unnumbered_isPrefix ignores issued other_issued front with ⟨tail, more_eq⟩
    have refused : receipt.unnumbered = .error error := by
      rw [Receipt.unnumbered, refused]
      rfl
    have split_eq : (receipts more).map Receipt.unnumbered =
        earlier.map Receipt.unnumbered ++ .error error :: tail := by
      rw [← more_eq, receipts_eq]
      simp [refused]
    have tail_eq := nil_of_refused account split_eq
    apply front.eq_of_length
    have length_eq := congrArg List.length more_eq
    simpa [tail_eq] using length_eq

end Socket

end DocumentProtocol
