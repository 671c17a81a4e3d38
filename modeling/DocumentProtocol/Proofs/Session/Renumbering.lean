import DocumentProtocol.Proofs.Frame.Changing
import DocumentProtocol.Proofs.Frame.Whole
import DocumentProtocol.Session.Link

/-!
# Requests with the next numbers

Two clients that make the same requests with numbers that are one apart write streams that differ in
these numbers alone (`Renumbers`). A far end sees the numbers as well, so that what it does may
depend on them. It is parallel if it goes on alike for both clients, as a relation says that is free
to choose (`Link.IsParallel`): it takes the same number of bytes, and answers a request as it
answers the one with the next number.
-/

namespace DocumentProtocol

/-! ### The next number -/

/-- The header with the next number. -/
def Header.renumbered (header : Header) : Header :=
  { header with requestId := header.requestId + 1 }

/-- The frame with the next number. -/
def Frame.renumbered (frame : Frame) : Frame :=
  { frame with header := { frame.header with requestId := frame.header.requestId + 1 } }

namespace Frame

@[simp]
theorem size_renumbered (frame : Frame) : frame.renumbered.size = frame.size := rfl

theorem make_add_one (requestId responseTo opcode : Int32) (body : Bytes) :
    make (requestId + 1) responseTo opcode body =
      (make requestId responseTo opcode body).map renumbered := by
  simp only [make]
  split <;> rfl

end Frame

/--
Whether two streams begin with the same bytes and go on with the same requests, where those of the
first have the next numbers.
-/
structure Renumbers (earlier : Bytes) (requests : List Frame) (first second : Bytes) : Prop where
  first_eq : first = earlier ++ Frame.allBytes (requests.map Frame.renumbered)
  second_eq : second = earlier ++ Frame.allBytes requests
  announced : ∀ request ∈ requests, request.IsAnnounced

/-- What comes after some requests is what was missing of them, and more requests. -/
theorem Renumbers.exists_changes {earlier sent unsent bytes otherSent otherUnsent others : Bytes}
    {requests more : List Frame}
    (before : Renumbers earlier requests (sent ++ unsent) (otherSent ++ otherUnsent))
    (after : Renumbers earlier (requests ++ more) (sent ++ bytes) (otherSent ++ others)) :
    ∃ tail otherTail, bytes = unsent ++ tail ∧ others = otherUnsent ++ otherTail ∧
      Frame.Changes Header.renumbered more tail otherTail := by
  have first_eq := after.first_eq
  have second_eq := after.second_eq
  rw [List.map_append, Frame.allBytes_append, ← List.append_assoc, ← before.first_eq,
    List.append_assoc, List.append_cancel_left_eq] at first_eq
  rw [Frame.allBytes_append, ← List.append_assoc, ← before.second_eq, List.append_assoc,
    List.append_cancel_left_eq] at second_eq
  refine ⟨_, _, first_eq, second_eq, rfl, rfl, ?_⟩
  intro request mem
  exact after.announced request (List.mem_append_right requests mem)

/--
Whether two answers say the same, up to the number of the request that they name. The first names
the request with the next number just when the second names the request with a number.
-/
inductive Frame.Receiver.Answer.AreAlike (number : Int32) :
    Option Frame.Receiver.Answer → Option Frame.Receiver.Answer → Prop where
  | waits : AreAlike number none none
  | failed (error : ProtocolError) : AreAlike number (some (.failed error)) (some (.failed error))
  | ended : AreAlike number (some .ended) (some .ended)
  | frame {first second : Frame} (requestId_eq : first.header.requestId = second.header.requestId)
      (opcode_eq : first.header.opcode = second.header.opcode) (body_eq : first.body = second.body)
      (responseTo_eq : first.header.responseTo = second.header.responseTo ∨
        first.header.responseTo = second.header.responseTo + 1)
      (answers_iff : first.header.responseTo = number + 1 ↔ second.header.responseTo = number) :
      AreAlike number (some (.frame first)) (some (.frame second))

/-! ### Far ends -/

namespace Link

variable {State : Type}

/-- A link that keeps the bytes that the far end has taken. -/
def logged (link : Link State) : Link (Bytes × State) where
  write bytes state :=
    let (rest, far) := link.write bytes state.2
    (rest, state.1 ++ bytes.take (bytes.length - rest.length), far)
  isCut state := link.isCut state.2
  read limit receiver state :=
    let (answer, receiver, far) := link.read limit receiver state.2
    (answer, receiver, state.1, far)

/-- What is taken and what is not are the bytes, if those that are taken come first. -/
theorem logged_append_write {link : Link State} {bytes : Bytes} {state : Bytes × State}
    {taken : Nat} (rest_eq : (link.logged.write bytes state).1 = bytes.drop taken) :
    (link.logged.write bytes state).2.1 ++ (link.logged.write bytes state).1 =
      state.1 ++ bytes := by
  have rest_eq : (link.write bytes state.2).1 = bytes.drop taken := rest_eq
  have taken_eq : bytes.length - (bytes.length - taken) = min taken bytes.length := by omega
  simp only [logged, rest_eq, List.length_drop, taken_eq, ← List.take_eq_take_min,
    List.append_assoc, List.take_append_drop]

/--
Whether a far end goes on alike for two clients that have sent some bytes and then the same
requests, except that those of the first have the next numbers. The relation is between what the
clients have received with what lies behind their links, after some requests.
-/
structure IsParallel (link : Link State) (limit : Nat) (earlier : Bytes)
    (alike : List Frame → Frame.Receiver × Bytes × State → Frame.Receiver × Bytes × State →
      Prop) : Prop where
  /-- As many bytes are taken of one stream as of the other, also where a request ends. -/
  write {requests : List Frame} {next : Option Frame} {first second : Frame.Receiver}
    {far other : Bytes × State} {bytes others : Bytes} :
    alike requests (first, far) (second, other) → bytes.length = others.length →
      Renumbers earlier (requests ++ next.toList) (far.1 ++ bytes) (other.1 ++ others) →
        (∃ taken, (link.logged.write bytes far).1 = bytes.drop taken ∧
          (link.logged.write others other).1 = others.drop taken) ∧
        alike (requests ++ next.toList) (first, (link.logged.write bytes far).2)
          (second, (link.logged.write others other).2)
  isCut {requests : List Frame} {first second : Frame.Receiver} {far other : Bytes × State} :
    alike requests (first, far) (second, other) → link.isCut far.2 = link.isCut other.2
  /-- The answer is to the last request, which has been taken in full. -/
  read {requests : List Frame} {request : Frame} {first second : Frame.Receiver}
    {far other : Bytes × State} :
    alike (requests ++ [request]) (first, far) (second, other) →
      Renumbers earlier (requests ++ [request]) far.1 other.1 →
        Frame.Receiver.Answer.AreAlike request.header.requestId
          (link.logged.read limit first far).1 (link.logged.read limit second other).1 ∧
        alike (requests ++ [request]) (link.logged.read limit first far).2
          (link.logged.read limit second other).2

end Link

end DocumentProtocol
