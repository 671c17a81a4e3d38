import DocumentProtocol.Proofs.Session.Traffic

/-!
# The numbers of replies

All connections of a server draw the numbers of their replies from one counter. The main statement
is that the numbers drawn in a run are 1, 2, 3 and so on in the order in which they are drawn, that
there is one of them for each message that holds a request which expects a reply and none for any
other message, and that a reply carries the number that was drawn for its message. The counter is a
signed word and wraps around; two replies have different numbers unless a whole turn of the counter
lies between them, whichever connections they are on.

`Service.Numbers` says how some messages, answered one after the other, move the counter. A step of
a connection answers one message at most, and no other event of a server touches the counter, so the
statement about a run is an induction over its events.
-/

namespace DocumentProtocol

variable {Backend : Type}

open Deed

/-! ### One message -/

/-- Whether a message holds a request that expects a reply. -/
def Receipt.ExpectsReply (receipt : Receipt Backend) : Prop :=
  ∃ request, receipt.frame.Carries request ∧ request.expectsReply = true

theorem Receipt.expectsReply_iff (receipt : Receipt Backend) :
    receipt.ExpectsReply ↔
      (Request.ofMessage receipt.frame.header receipt.frame.body).toOption.any
        (fun request => request.expectsReply) = true := by
  simp only [ExpectsReply, ← Frame.ofMessage_eq_ok_iff]
  cases Request.ofMessage receipt.frame.header receipt.frame.body <;> simp [Except.toOption]

instance : DecidablePred (@Receipt.ExpectsReply Backend) := fun receipt =>
  decidable_of_iff _ receipt.expectsReply_iff.symm

namespace SharedState

/-- The number that has been drawn from the counter between two states, if one has. -/
def drawn (shared after : SharedState Backend) : List Int32 :=
  if after.nextReplyId = shared.nextReplyId then [] else [shared.nextReplyId]

variable {shared after : SharedState Backend}

theorem drawn_of_eq (same : after.nextReplyId = shared.nextReplyId) : shared.drawn after = [] :=
  if_pos same

theorem drawn_of_eq_add_one (next : after.nextReplyId = shared.nextReplyId + 1) :
    shared.drawn after = [shared.nextReplyId] := by
  rw [drawn, next, if_neg (by simp)]

end SharedState

/--
Whether some messages, answered in this order, draw some numbers and move the counter from one
number to another.
-/
inductive Numbers : Int32 → List (Receipt Backend) → List Int32 → Int32 → Prop where
  | nil {number : Int32} : Numbers number [] [] number
  | silent {number last : Int32} {receipt : Receipt Backend} {receipts : List (Receipt Backend)}
      {numbers : List Int32} (silent : ¬receipt.ExpectsReply) (unanswered : receipt.reply? = none)
      (rest : Numbers number receipts numbers last) :
      Numbers number (receipt :: receipts) numbers last
  | draws {number last : Int32} {receipt : Receipt Backend} {receipts : List (Receipt Backend)}
      {numbers : List Int32} (expects : receipt.ExpectsReply)
      (numbered : ∀ reply, receipt.reply? = some reply → reply.header.requestId = number)
      (rest : Numbers (number + 1) receipts numbers last) :
      Numbers number (receipt :: receipts) (number :: numbers) last

namespace Numbers

variable {first middle last : Int32} {receipts more : List (Receipt Backend)}
  {numbers others : List Int32}

theorem append (numbered : Numbers first receipts numbers middle)
    (rest : Numbers middle more others last) :
    Numbers first (receipts ++ more) (numbers ++ others) last := by
  induction numbered with
  | nil => exact rest
  | silent silent unanswered _ ih => exact .silent silent unanswered (ih rest)
  | draws expects numbered _ ih => exact .draws expects numbered (ih rest)

/-- Where no message is answered the counter must stay. -/
theorem of_eq {shared after : SharedState Backend}
    (same : after.nextReplyId = shared.nextReplyId) :
    Numbers shared.nextReplyId ([] : List (Receipt Backend)) (shared.drawn after)
      after.nextReplyId := by
  rw [SharedState.drawn_of_eq same, same]
  exact .nil

end Numbers

theorem Receipt.expectsReply_iff_of_carries {receipt : Receipt Backend} {request : Request}
    (carries : receipt.frame.Carries request) :
    receipt.ExpectsReply ↔ request.expectsReply = true := by
  rw [expectsReply_iff, Frame.ofMessage_eq_ok_iff.2 carries]
  rfl

theorem Receipt.not_expectsReply_of_refuses {receipt : Receipt Backend} {error : ProtocolError}
    (refuses : receipt.frame.Refuses error) : ¬receipt.ExpectsReply := by
  rw [expectsReply_iff, Frame.ofMessage_of_refuses refuses]
  exact nofun

namespace Service

variable {service : Service Backend} {header : Header} {body : Bytes}
  {shared after : SharedState Backend} {result : Except ProtocolError (Option Frame)}

/-- A message that expects a reply draws a number, which its reply carries if it can be written. -/
theorem numbers_of_awaitsReply {request : Request}
    (carries : (⟨header, body⟩ : Frame).Carries request) (awaits : request.AwaitsReply)
    (answer : service.answer header body shared = (result, after)) :
    Numbers shared.nextReplyId [⟨⟨header, body⟩, shared.backend, result⟩] (shared.drawn after)
      after.nextReplyId := by
  rcases service.exists_resolves request shared.backend with ⟨document, between, resolves⟩
  rcases answer_of_awaitsReply carries resolves rfl awaits with ⟨_, found, _, number_eq⟩
  cases answer.symm.trans found
  rw [SharedState.drawn_of_eq_add_one number_eq, number_eq]
  refine .draws ⟨request, carries, carries.expectsReply_of_awaitsReply awaits⟩ ?_ .nil
  intro reply written
  have answered := Request.isAnswered_of_awaitsReply awaits
  rcases request.exists_reply_or_cannotReply document header.requestId shared.nextReplyId with
    ⟨other, isReply⟩ | ⟨error, cannot⟩
  · rw [Receipt.reply?, Request.replyFrame_of_isReply answered isReply] at written
    cases written
    exact isReply.requestId_eq
  · rw [Receipt.reply?, Request.replyFrame_of_cannotReply answered cannot] at written
    cases written

/-- Answering a message draws a number just if the message expects a reply. -/
theorem numbers_of_answer
    (answer : service.answer header body shared = (result, after)) :
    Numbers shared.nextReplyId [⟨⟨header, body⟩, shared.backend, result⟩] (shared.drawn after)
      after.nextReplyId := by
  rcases (⟨header, body⟩ : Frame).carries_or_refuses with ⟨request, carries⟩ | ⟨error, refuses⟩
  · rcases request.awaitsReply_or_isSilent with awaits | silent
    · exact numbers_of_awaitsReply carries awaits answer
    · rcases service.exists_resolves request shared.backend with ⟨document, between, resolves⟩
      rcases answer_of_isSilent carries resolves rfl silent with ⟨_, found, _, number_eq⟩
      cases answer.symm.trans found
      rw [SharedState.drawn_of_eq number_eq, number_eq]
      refine .silent ?_ rfl .nil
      rw [Receipt.expectsReply_iff_of_carries carries, Request.expectsReply_of_isSilent silent]
      exact nofun
  · rw [Service.answer, Frame.ofMessage_of_refuses refuses] at answer
    cases answer
    rw [SharedState.drawn_of_eq rfl]
    exact .silent (Receipt.not_expectsReply_of_refuses refuses) rfl .nil

end Service

/-! ### One step -/

@[simp]
theorem SharedState.nextReplyId_conclude (shared : SharedState Backend) (error : ProtocolError) :
    (shared.conclude error).nextReplyId = shared.nextReplyId := by
  rw [conclude]
  split <;> rfl

/-- A step of a connection draws numbers for the messages that it answers. -/
theorem Connection.Does.numbers {service : Service Backend} {now : Nat}
    {connection next : Connection} {shared after : SharedState Backend}
    {deeds : List (Deed Backend)} (does : Does service now connection shared deeds next after) :
    Numbers shared.nextReplyId (receipts deeds) (shared.drawn after) after.nextReplyId := by
  cases does with
  | ends _ => exact .of_eq (SharedState.nextReplyId_conclude _ _)
  | refuses _ answer =>
      have numbers := Service.numbers_of_answer answer
      rw [SharedState.drawn] at numbers ⊢
      rwa [SharedState.nextReplyId_conclude]
  | passes _ answer => exact Service.numbers_of_answer answer
  | answers _ answer => exact Service.numbers_of_answer answer
  | takesIn | reads | writes | finishes => exact .of_eq rfl

namespace Server

variable {server after middle : Server Backend} {event : Event} {events past : List Event}

/-- A message is answered in a step of a connection and in no other event. -/
theorem unanswered_of_ne_advance (server : Server Backend) (other : ∀ id, event ≠ .advance id) :
    receipts (allDeeds (server.entries event)) = [] := by
  cases event with
  | advance id => exact absurd rfl (other id)
  | accept =>
      simp only [entries]
      split
      · split <;> rfl
      · rfl
  | receive id size =>
      simp only [entries]
      cases server.socket? id <;> rfl
  | enter =>
      have idle : allDeeds (server.entries .enter) = [] := by simp [entries, allDeeds]
      rw [idle, receipts_nil]
  | stop =>
      have idle : allDeeds (server.entries .stop) = [] := by simp [entries, allDeeds]
      rw [idle, receipts_nil]
  | _ => rfl

theorem nextReplyId_of_ne_advance (stepped : server.step event = some after)
    (other : ∀ id, event ≠ .advance id) :
    after.shared.nextReplyId = server.shared.nextReplyId := by
  cases steps_of_step stepped with
  | accept =>
      simp only [accept]
      split <;> rfl
  | advance => exact absurd rfl (other _)
  | _ => rfl

/-- An event draws numbers for the messages that are answered in it. -/
theorem numbers_of_step (stepped : server.step event = some after) :
    Numbers server.shared.nextReplyId (receipts (allDeeds (server.entries event)))
      (server.shared.drawn after.shared) after.shared.nextReplyId := by
  by_cases advances : ∃ id, event = .advance id
  · rcases advances with ⟨id, rfl⟩
    simp only [step, bind, Option.bind_eq_some_iff] at stepped
    rcases stepped with ⟨connection, found, ⟨next, shared⟩, connection_stepped, after_eq⟩
    cases after_eq
    have numbers := (Connection.does_of_step connection_stepped).numbers
    simpa [entries, found, connection_stepped, allDeeds] using numbers
  · simp only [not_exists] at advances
    rw [unanswered_of_ne_advance server advances]
    exact .of_eq (nextReplyId_of_ne_advance stepped advances)

/-! ### Runs -/

/-- The numbers that are drawn in some events, up to one that cannot happen. -/
def drawn (server : Server Backend) : List Event → List Int32
  | [] => []
  | event :: events =>
      match server.step event with
      | some next => server.shared.drawn next.shared ++ next.drawn events
      | none => []

theorem drawn_concat (run_eq : server.run past = some middle)
    (stepped : middle.step event = some after) :
    server.drawn (past ++ [event]) = server.drawn past ++ middle.shared.drawn after.shared := by
  induction past generalizing server with
  | nil =>
      cases run_eq
      simp [drawn, stepped]
  | cons first past ih =>
      simp only [run, List.foldlM_cons, Option.bind_eq_bind, Option.bind_eq_some_iff] at run_eq
      rcases run_eq with ⟨between, first_stepped, rest⟩
      simp only [List.cons_append, drawn, first_stepped, ih rest, List.append_assoc]

theorem numbers_of_run (run_eq : server.run events = some after) :
    Numbers server.shared.nextReplyId (receipts (allDeeds (server.journal events)))
      (server.drawn events) after.shared.nextReplyId := by
  refine (@run_induction _ _ _ [] _ (fun past middle => server.run past = some middle ∧
    Numbers server.shared.nextReplyId (receipts (allDeeds (server.journal past)))
      (server.drawn past) middle.shared.nextReplyId) ?_ ⟨rfl, .nil⟩ run_eq).2
  rintro past middle event after ⟨past_eq, numbers⟩ stepped
  refine ⟨run_concat past_eq stepped, ?_⟩
  rw [journal_concat past_eq stepped, drawn_concat past_eq stepped, allDeeds, List.flatMap_append,
    receipts_append]
  exact numbers.append (numbers_of_step stepped)

end Server

/-! ### One after the other -/

/-- The messages of some that expect a reply. -/
def expecting (receipts : List (Receipt Backend)) : List (Receipt Backend) :=
  receipts.filter fun receipt => receipt.ExpectsReply

namespace Numbers

variable {last : Int32} {start : Nat} {receipts : List (Receipt Backend)} {numbers : List Int32}

theorem numbers_eq (numbered : Numbers (Int32.ofNat start) receipts numbers last) :
    numbers = (List.range' start (expecting receipts).length).map Int32.ofNat := by
  generalize first_eq : Int32.ofNat start = first at numbered
  induction numbered generalizing start with
  | nil => rfl
  | silent silent _ _ ih =>
      rw [expecting, List.filter_cons_of_neg (by simpa using silent)]
      exact ih first_eq
  | draws expects _ _ ih =>
      subst first_eq
      rw [expecting, List.filter_cons_of_pos (by simpa using expects), List.length_cons,
        List.range'_succ, List.map_cons, ih (Int32.ofNat_add start 1)]
      rfl

/-- A reply carries the number that was drawn for its message. -/
theorem requestId_eq {first : Int32} {index : Nat} {receipt : Receipt Backend} {reply : Frame}
    (numbered : Numbers first receipts numbers last)
    (found : (expecting receipts)[index]? = some receipt) (replied : receipt.reply? = some reply) :
    numbers[index]? = some reply.header.requestId := by
  induction numbered generalizing index with
  | nil => cases found
  | silent silent _ _ ih =>
      rw [expecting, List.filter_cons_of_neg (by simpa using silent)] at found
      exact ih found
  | draws expects number_eq _ ih =>
      rw [expecting, List.filter_cons_of_pos (by simpa using expects)] at found
      cases index with
      | zero =>
          cases found
          rw [List.getElem?_cons_zero, number_eq reply replied]
      | succ index => exact ih found

theorem expectsReply_of_reply? {first : Int32} {receipt : Receipt Backend} {reply : Frame}
    (numbered : Numbers first receipts numbers last) (mem : receipt ∈ receipts)
    (replied : receipt.reply? = some reply) : receipt.ExpectsReply := by
  induction numbered with
  | nil => cases mem
  | silent _ unanswered _ ih =>
      rcases List.mem_cons.1 mem with rfl | mem
      · cases unanswered.symm.trans replied
      · exact ih mem
  | draws expects _ _ ih =>
      rcases List.mem_cons.1 mem with rfl | mem
      · exact expects
      · exact ih mem

end Numbers

/-- How numbers are drawn from 1 on while some messages are answered in this order. -/
structure DrawsInOrder (receipts : List (Receipt Backend)) (numbers : List Int32) : Prop where
  /-- There is one number for each message that expects a reply. -/
  numbers_eq : numbers = (List.range' 1 (expecting receipts).length).map Int32.ofNat
  expects : ∀ receipt ∈ receipts, ∀ reply, receipt.reply? = some reply → receipt.ExpectsReply
  /-- A reply carries the number that was drawn for its message. -/
  carries : ∀ {index : Nat} {receipt : Receipt Backend} {reply : Frame},
    (expecting receipts)[index]? = some receipt → receipt.reply? = some reply →
      numbers[index]? = some reply.header.requestId
  /-- Replies have different numbers unless a whole turn of the counter lies between them. -/
  apart : ∀ {index later : Nat} {receipt other : Receipt Backend} {reply otherReply : Frame},
    (expecting receipts)[index]? = some receipt → receipt.reply? = some reply →
      (expecting receipts)[later]? = some other → other.reply? = some otherReply →
        index < later → later < index + 2 ^ 32 →
          reply.header.requestId ≠ otherReply.header.requestId

theorem Int32.mod_eq_of_ofNat_eq {first second : Nat}
    (same : Int32.ofNat first = Int32.ofNat second) : first % 2 ^ 32 = second % 2 ^ 32 := by
  have bits := congrArg (fun number : Int32 => number.toBitVec.toNat) same
  simpa only [Int32.toBitVec_ofNat', BitVec.toNat_ofNat] using bits

theorem Numbers.drawsInOrder {last : Int32} {receipts : List (Receipt Backend)}
    {numbers : List Int32} (numbered : Numbers 1 receipts numbers last) :
    DrawsInOrder receipts numbers := by
  have from_one : Numbers (Int32.ofNat 1) receipts numbers last := numbered
  have number_eq {index : Nat} {receipt : Receipt Backend} {reply : Frame}
      (found : (expecting receipts)[index]? = some receipt)
      (replied : receipt.reply? = some reply) :
      reply.header.requestId = Int32.ofNat (1 + index) := by
    have drawn := numbered.requestId_eq found replied
    have below := (List.getElem?_eq_some_iff.1 found).1
    rw [from_one.numbers_eq, List.getElem?_map, List.getElem?_range' below, Nat.one_mul] at drawn
    exact (Option.some.inj drawn).symm
  refine ⟨from_one.numbers_eq, ?_, numbered.requestId_eq, ?_⟩
  · intro receipt mem reply replied
    exact numbered.expectsReply_of_reply? mem replied
  · intro index later receipt other reply otherReply found replied later_found later_replied less
      near
    rw [number_eq found replied, number_eq later_found later_replied]
    intro same
    have := Int32.mod_eq_of_ofNat_eq same
    omega

namespace Server

/--
However the connections of a server take turns, the numbers of their replies are drawn from one
counter in order, one for each message that expects a reply and none for any other message.
-/
theorem numbers_are_drawn_in_order {config : Config} {registry : Registry Backend}
    {backend : Backend} {capacity : Nat} {events : List Event} {server : Server Backend}
    (run_eq : (start config registry backend capacity).run events = some server) :
    DrawsInOrder (receipts (allDeeds ((start config registry backend capacity).journal events)))
      ((start config registry backend capacity).drawn events) :=
  (numbers_of_run run_eq).drawsInOrder

/-- The second client is answered first. -/
def crossingEvents : List Event :=
  (List.replicate 2 [.look, .look, .accept, .tally, .enter]).flatten ++
    [.send 0 (Exchange.blank 7 0).bytes, .send 1 (Exchange.blank 8 0).bytes, .advance 0,
      .advance 1, .advance 0, .advance 1, .advance 1, .advance 0]

theorem numbers_are_drawn_in_order_crossing :
    (∃ server, obliging.run crossingEvents = some server) ∧
      obliging.drawn crossingEvents = [1, 2] ∧
      DrawsInOrder (receipts (allDeeds (obliging.journal crossingEvents)))
        (obliging.drawn crossingEvents) := by
  have ran : (obliging.run crossingEvents).isSome = true := by cbv
  rcases Option.isSome_iff_exists.1 ran with ⟨server, run_eq⟩
  exact ⟨⟨server, run_eq⟩, by cbv, numbers_are_drawn_in_order run_eq⟩

end Server

end DocumentProtocol
