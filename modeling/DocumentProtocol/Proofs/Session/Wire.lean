import DocumentProtocol.Proofs.Session.Journal

/-!
# What a connection writes

`Deed.Stands` compares the messages that a connection has answered with the bytes that it has
written: all messages but the last may be settled, their replies written whole and in order, and of
the reply to the last one some bytes may be written. `Connection.Account` says what the last message
is in each phase, and above all in which ways it can be left over when the connection has ended. A
step keeps the account and nothing else touches it. A message that has been read is answered next;
until then it is the message at hand of its connection (`Socket.Life.frames_eq`).

What the client has received is the front of what was written. As the account is kept in whatever
way a life goes on, a reply that is begun is the only thing that a connection can go on with, and a
connection that has stopped within one stays within it.
-/

namespace DocumentProtocol

variable {Backend : Type}

open Deed

namespace Deed

/-- How the messages that have been answered compare to the bytes that have been written. -/
structure Stands (log : List (Deed Backend)) (answered : List (Receipt Backend))
    (current : Option (Receipt Backend)) (begun : Bytes) : Prop where
  receipts_eq : receipts log = answered ++ current.toList
  settled : ∀ receipt ∈ answered, ∃ reply?, receipt.answer = .ok reply?
  written_eq : written log = Frame.allBytes (answered.filterMap Receipt.reply?) ++ begun
  sizes_eq : sizes log = (answered.filterMap Receipt.reply?).map Frame.size

namespace Stands

variable {log deeds : List (Deed Backend)} {answered : List (Receipt Backend)}
  {current : Option (Receipt Backend)} {receipt : Receipt Backend} {begun : Bytes}

/-- A deed that is neither answering nor writing changes nothing here. -/
theorem keep (stands : Stands log answered current begun) (unanswered : receipts deeds = [])
    (unwritten : written deeds = []) (unsized : sizes deeds = []) :
    Stands (log ++ deeds) answered current begun where
  receipts_eq := by rw [receipts_append, unanswered, List.append_nil, stands.receipts_eq]
  settled := stands.settled
  written_eq := by rw [written_append, unwritten, List.append_nil, stands.written_eq]
  sizes_eq := by rw [sizes_append, unsized, List.append_nil, stands.sizes_eq]

theorem answer (stands : Stands log answered none []) (receipt_eq : receipts deeds = [receipt])
    (unwritten : written deeds = []) (unsized : sizes deeds = []) :
    Stands (log ++ deeds) answered (some receipt) [] where
  receipts_eq := by simp [stands.receipts_eq, receipt_eq]
  settled := stands.settled
  written_eq := by rw [written_append, unwritten, List.append_nil, stands.written_eq]
  sizes_eq := by rw [sizes_append, unsized, List.append_nil, stands.sizes_eq]

theorem write (stands : Stands log answered current begun) (bytes : Bytes) :
    Stands (log ++ [.wrote bytes]) answered current (begun ++ bytes) where
  receipts_eq := by simp [stands.receipts_eq]
  settled := stands.settled
  written_eq := by simp [stands.written_eq]
  sizes_eq := by simp [stands.sizes_eq]

/-- A message that brings no reply is settled once it is answered. -/
theorem pass (stands : Stands log answered (some receipt) []) (answer : receipt.answer = .ok none) :
    Stands log (answered ++ [receipt]) none [] := by
  have silent : receipt.reply? = none := by rw [Receipt.reply?, answer]
  refine ⟨by simpa using stands.receipts_eq, ?_, ?_, ?_⟩
  · simpa [or_imp, forall_and] using ⟨stands.settled, none, answer⟩
  · simpa [silent] using stands.written_eq
  · simpa [silent] using stands.sizes_eq

/-- A message that brings a reply is settled once this is written. -/
theorem finish {reply : Frame} {pending : Bytes}
    (stands : Stands log answered (some receipt) begun)
    (answer : receipt.answer = .ok (some reply)) (bytes_eq : reply.bytes = begun ++ pending) :
    Stands (log ++ [.wrote pending, .replied reply.size]) (answered ++ [receipt]) none [] := by
  have due : receipt.reply? = some reply := by rw [Receipt.reply?, answer]
  refine ⟨by simpa using stands.receipts_eq, ?_, ?_, ?_⟩
  · simpa [or_imp, forall_and] using ⟨stands.settled, some reply, answer⟩
  · simp [stands.written_eq, due, bytes_eq]
  · simp [stands.sizes_eq, due]

/-- Where no message is at hand, all replies that have come due are written. -/
theorem written_eq_due (stands : Stands log answered none []) :
    written log = Frame.allBytes (due log) := by
  rw [stands.written_eq, due, stands.receipts_eq, Option.toList_none, List.append_nil,
    List.append_nil]

theorem written_append_eq_due {reply : Frame} {rest : Bytes}
    (stands : Stands log answered (some receipt) begun)
    (answer : receipt.answer = .ok (some reply)) (bytes_eq : reply.bytes = begun ++ rest) :
    written log ++ rest = Frame.allBytes (due log) := by
  have due_eq : receipt.reply? = some reply := by rw [Receipt.reply?, answer]
  simp [stands.written_eq, due, stands.receipts_eq, due_eq, bytes_eq]

theorem written_eq_due_of_error {error : ProtocolError}
    (stands : Stands log answered (some receipt) []) (answer : receipt.answer = .error error) :
    written log = Frame.allBytes (due log) := by
  have due_eq : receipt.reply? = none := by rw [Receipt.reply?, answer]
  simp [stands.written_eq, due, stands.receipts_eq, due_eq]

/-- A reply that is not finished is the one that goes on being written. -/
theorem of_append {reply : Frame} {more : List (Deed Backend)} {later : List (Receipt Backend)}
    {last : Option (Receipt Backend)} {onward : Bytes}
    (stands : Stands log answered (some receipt) begun)
    (answer : receipt.answer = .ok (some reply)) (unsized : sizes more = [])
    (afterwards : Stands (log ++ more) later last onward) :
    last = some receipt ∧ receipts more = [] ∧ onward = begun ++ written more := by
  have due : receipt.reply? = some reply := by rw [Receipt.reply?, answer]
  have read_eq := afterwards.receipts_eq
  rw [receipts_append, stands.receipts_eq, Option.toList_some] at read_eq
  have sizes_eq := afterwards.sizes_eq
  rw [sizes_append, unsized, List.append_nil, stands.sizes_eq] at sizes_eq
  have number_eq : (answered.filterMap Receipt.reply?).length =
      (later.filterMap Receipt.reply?).length := by
    simpa using congrArg List.length sizes_eq
  -- If the message at hand were settled, one more reply would be written.
  have unsettled (rest : List (Receipt Backend)) : later ≠ answered ++ receipt :: rest := by
    rintro rfl
    simp [due] at number_eq
  cases last with
  | none =>
      refine absurd ?_ (unsettled (receipts more))
      simpa using read_eq.symm
  | some last =>
      rcases List.eq_nil_or_concat (receipts more) with unread | ⟨front, other, more_eq⟩
      · rw [unread, List.append_nil, Option.toList_some] at read_eq
        rcases List.append_inj' read_eq rfl with ⟨rfl, same⟩
        refine ⟨by simpa using same.symm, unread, ?_⟩
        have written_eq := afterwards.written_eq
        rw [written_append, stands.written_eq, List.append_assoc] at written_eq
        exact (List.append_cancel_left written_eq).symm
      · refine absurd ?_ (unsettled front)
        rw [more_eq, Option.toList_some, List.concat_eq_append, ← List.append_assoc] at read_eq
        simpa using (List.append_inj' read_eq rfl).1.symm

end Stands

end Deed

namespace Connection

/-- What a connection is about with the message that it has answered last. -/
inductive Account (connection : Connection) (log : List (Deed Backend)) : Prop where
  | reading {answered : List (Receipt Backend)} {received : Bytes} {size : Nat}
      (reads : connection.Reads received size) (stands : Stands log answered none []) :
      Account connection log
  | dispatching {answered : List (Receipt Backend)} {header : Header} {body : Bytes}
      (phase_eq : connection.phase = .dispatching header body)
      (stands : Stands log answered none []) : Account connection log
  | replying {answered : List (Receipt Backend)} {receipt : Receipt Backend} {reply : Frame}
      {begun pending : Bytes} {since : Nat}
      (phase_eq : connection.phase = .replying pending reply.size since)
      (stands : Stands log answered (some receipt) begun)
      (answer : receipt.answer = .ok (some reply)) (bytes_eq : reply.bytes = begun ++ pending)
      (present : pending ≠ []) : Account connection log
  | atRest {answered : List (Receipt Backend)} {outcome : Except ProtocolError Unit}
      (phase_eq : connection.phase = .closed outcome) (stands : Stands log answered none []) :
      Account connection log
  | refused {answered : List (Receipt Backend)} {receipt : Receipt Backend}
      {error : ProtocolError} (phase_eq : connection.phase = .closed (outcomeOf error))
      (stands : Stands log answered (some receipt) []) (answer : receipt.answer = .error error) :
      Account connection log
  /-- Some bytes of the reply are not written and will never be. -/
  | cutOff {answered : List (Receipt Backend)} {receipt : Receipt Backend} {reply : Frame}
      {begun lost : Bytes} {error : ProtocolError}
      (phase_eq : connection.phase = .closed (.error error))
      (stands : Stands log answered (some receipt) begun)
      (answer : receipt.answer = .ok (some reply)) (bytes_eq : reply.bytes = begun ++ lost)
      (present : lost ≠ [])
      (error_eq : error = .timeout ∨
        ∃ fault, error = fault.toError ∧ connection.outbound.Suffers fault) :
      Account connection log

variable {service : Service Backend} {now : Nat} {connection next : Connection}
  {shared after : SharedState Backend} {log deeds : List (Deed Backend)}

theorem Account.exists_stands (account : connection.Account log) :
    ∃ answered current begun, Stands log answered current begun := by
  cases account with
  | reading _ stands => exact ⟨_, _, _, stands⟩
  | dispatching _ stands => exact ⟨_, _, _, stands⟩
  | replying _ stands _ _ _ => exact ⟨_, _, _, stands⟩
  | atRest _ stands => exact ⟨_, _, _, stands⟩
  | refused _ stands _ => exact ⟨_, _, _, stands⟩
  | cutOff _ stands _ _ _ _ => exact ⟨_, _, _, stands⟩

/-- A connection that reads is done with all that it has answered. -/
theorem Account.of_reads {received : Bytes} {size : Nat} (account : connection.Account log)
    (reads : connection.Reads received size) : ∃ answered, Stands log answered none [] := by
  cases account with
  | reading _ stands => exact ⟨_, stands⟩
  | dispatching _ stands => exact ⟨_, stands⟩
  | replying phase_eq _ _ _ _ => cases reads <;> simp_all
  | atRest phase_eq _ => exact absurd ⟨_, phase_eq⟩ reads.not_isClosed
  | refused phase_eq _ _ => exact absurd ⟨_, phase_eq⟩ reads.not_isClosed
  | cutOff phase_eq _ _ _ _ _ => exact absurd ⟨_, phase_eq⟩ reads.not_isClosed

theorem Account.of_dispatching {header : Header} {body : Bytes} (account : connection.Account log)
    (phase_eq : connection.phase = .dispatching header body) :
    ∃ answered, Stands log answered none [] := by
  cases account with
  | reading _ stands => exact ⟨_, stands⟩
  | dispatching _ stands => exact ⟨_, stands⟩
  | _ => simp_all

theorem Account.of_replying {pending : Bytes} {size since : Nat} (account : connection.Account log)
    (phase_eq : connection.phase = .replying pending size since) :
    ∃ answered receipt reply begun, Stands log answered (some receipt) begun ∧
      receipt.answer = .ok (some reply) ∧ reply.bytes = begun ++ pending ∧ size = reply.size ∧
      pending ≠ [] := by
  cases account with
  | reading reads _ => cases reads <;> simp_all
  | replying other stands answer bytes_eq present =>
      rw [phase_eq] at other
      cases other
      exact ⟨_, _, _, _, stands, answer, bytes_eq, rfl, present⟩
  | _ => simp_all

/-- While a connection has not ended, it has yet to write what is pending of the replies. -/
theorem Account.written_pending (account : connection.Account log)
    (running : ¬connection.IsClosed) :
    Deed.written log ++ connection.phase.pending = Frame.allBytes (due log) := by
  cases account with
  | reading reads stands =>
      have none_pending : connection.phase.pending = [] := by
        cases reads with
        | header phase_eq => rw [phase_eq, Phase.pending]; simp
        | body phase_eq => rw [phase_eq, Phase.pending]; simp
      rw [none_pending, List.append_nil, stands.written_eq_due]
  | dispatching phase_eq stands =>
      rw [phase_eq, Phase.pending, stands.written_eq_due]
      · exact List.append_nil _
      · simp
  | replying phase_eq stands answer bytes_eq _ =>
      rw [phase_eq]
      exact stands.written_append_eq_due answer bytes_eq
  | atRest phase_eq _ => exact absurd ⟨_, phase_eq⟩ running
  | refused phase_eq _ _ => exact absurd ⟨_, phase_eq⟩ running
  | cutOff phase_eq _ _ _ _ _ => exact absurd ⟨_, phase_eq⟩ running

/-- What a connection has answered and written is left as it is by all but its own steps. -/
theorem Account.keep (account : connection.Account log)
    (phase_eq : next.phase = connection.phase)
    (severed : ∀ fault, connection.outbound.Suffers fault → next.outbound.Suffers fault)
    (unanswered : receipts deeds = []) (unwritten : Deed.written deeds = [])
    (unsized : sizes deeds = []) : next.Account (log ++ deeds) := by
  cases account with
  | reading reads stands =>
      have stands := stands.keep unanswered unwritten unsized
      cases reads with
      | header other => exact .reading (.header (phase_eq.trans other)) stands
      | body other => exact .reading (.body (phase_eq.trans other)) stands
  | dispatching other stands =>
      exact .dispatching (phase_eq.trans other) (stands.keep unanswered unwritten unsized)
  | replying other stands answer bytes_eq present =>
      exact .replying (phase_eq.trans other) (stands.keep unanswered unwritten unsized) answer
        bytes_eq present
  | atRest other stands =>
      exact .atRest (phase_eq.trans other) (stands.keep unanswered unwritten unsized)
  | refused other stands answer =>
      exact .refused (phase_eq.trans other) (stands.keep unanswered unwritten unsized) answer
  | cutOff other stands answer bytes_eq present error_eq =>
      exact .cutOff (phase_eq.trans other) (stands.keep unanswered unwritten unsized) answer
        bytes_eq present (error_eq.imp_right fun ⟨fault, fault_eq, suffers⟩ =>
          ⟨fault, fault_eq, severed fault suffers⟩)

/-- A connection that ends without looking at a message loses at most the reply at hand. -/
theorem Account.fault {error : ProtocolError} (account : connection.Account log)
    (fault : connection.Fault service now error) :
    (connection.ended error).Account (log ++ [.ended (outcomeOf error)]) := by
  have of_reads {received : Bytes} {size : Nat} (reads : connection.Reads received size) :
      (connection.ended error).Account (log ++ [.ended (outcomeOf error)]) := by
    rcases account.of_reads reads with ⟨answered, stands⟩
    exact .atRest rfl (stands.keep rfl rfl rfl)
  cases fault with
  | cancelled reads _ => exact of_reads reads
  | badHeader phase_eq _ _ _ => exact of_reads (.header phase_eq)
  | broken reads _ _ _ => exact of_reads reads
  | hungUp reads _ _ _ _ => exact of_reads reads
  | idle phase_eq _ _ _ _ => exact of_reads (.header phase_eq)
  | severed phase_eq suffers =>
      rcases account.of_replying phase_eq with
        ⟨answered, receipt, reply, begun, stands, answer, bytes_eq, _, present⟩
      rw [outcomeOf_toError]
      exact .cutOff (congrArg Phase.closed (outcomeOf_toError _)) (stands.keep rfl rfl rfl) answer
        bytes_eq present (.inr ⟨_, rfl, suffers⟩)
  | stalled phase_eq _ _ _ _ =>
      rcases account.of_replying phase_eq with
        ⟨answered, receipt, reply, begun, stands, answer, bytes_eq, _, present⟩
      exact .cutOff rfl (stands.keep rfl rfl rfl) answer bytes_eq present (.inl rfl)

/-- A step keeps account of what it answers and writes. -/
theorem Account.does (account : connection.Account log)
    (does : Does service now connection shared deeds next after) : next.Account (log ++ deeds) := by
  cases does with
  | ends fault => exact account.fault fault
  | takesIn _ reads goesOn _ =>
      rcases reads with ⟨_, _, reads⟩
      rcases goesOn with ⟨_, _, goesOn⟩
      rcases account.of_reads reads with ⟨answered, stands⟩
      exact .reading goesOn (stands.keep rfl rfl rfl)
  | reads completes =>
      rcases completes.exists_reads with ⟨_, _, reads⟩
      rcases account.of_reads reads with ⟨answered, stands⟩
      exact .dispatching rfl (stands.keep rfl rfl rfl)
  | refuses phase_eq _ =>
      rcases account.of_dispatching phase_eq with ⟨answered, stands⟩
      exact .refused rfl (stands.answer rfl rfl rfl) rfl
  | passes phase_eq _ =>
      rcases account.of_dispatching phase_eq with ⟨answered, stands⟩
      exact .reading (.header rfl) ((stands.answer rfl rfl rfl).pass rfl)
  | @answers header body reply _ phase_eq _ =>
      rcases account.of_dispatching phase_eq with ⟨answered, stands⟩
      refine .replying rfl (stands.answer rfl rfl rfl) rfl rfl ?_
      intro empty
      have size_eq := congrArg List.length empty
      simp [Frame.size, Header.size] at size_eq
  | @writes pending size since phase_eq _ _ long =>
      rcases account.of_replying phase_eq with
        ⟨answered, receipt, reply, begun, stands, answer, bytes_eq, rfl, present⟩
      refine .replying rfl (stands.write _) answer ?_ ?_
      · rw [bytes_eq, List.append_assoc, List.take_append_drop]
      · intro empty
        exact Nat.not_le.2 long (List.drop_eq_nil_iff.1 empty)
  | finishes phase_eq _ _ =>
      rcases account.of_replying phase_eq with
        ⟨answered, receipt, reply, begun, stands, answer, bytes_eq, rfl, present⟩
      exact .reading (.header rfl) (stands.finish answer bytes_eq)

/-- A reply that is begun, and what is left of it as long as it is not finished. -/
theorem Account.finishes {answered : List (Receipt Backend)} {receipt : Receipt Backend}
    {reply : Frame} {begun : Bytes} {more : List (Deed Backend)}
    (stands : Stands log answered (some receipt) begun)
    (answer : receipt.answer = .ok (some reply)) (account : connection.Account (log ++ more))
    (unsized : sizes more = []) :
    connection.phase.current? = none ∧ receipts more = [] ∧
      ∃ left, reply.bytes = begun ++ Deed.written more ++ left ∧ left ≠ [] := by
  cases account with
  | reading _ afterwards =>
      exact absurd (stands.of_append answer unsized afterwards).1 (by simp)
  | dispatching _ afterwards =>
      exact absurd (stands.of_append answer unsized afterwards).1 (by simp)
  | atRest _ afterwards =>
      exact absurd (stands.of_append answer unsized afterwards).1 (by simp)
  | refused _ afterwards refused =>
      rcases stands.of_append answer unsized afterwards with ⟨same, _, _⟩
      cases same
      exact absurd (answer.symm.trans refused) (by simp)
  | replying phase_eq afterwards still bytes_eq present =>
      rcases stands.of_append answer unsized afterwards with ⟨same, unanswered, rfl⟩
      cases same
      cases answer.symm.trans still
      exact ⟨by simp [phase_eq, Phase.current?], unanswered, _, bytes_eq, present⟩
  | cutOff phase_eq afterwards still bytes_eq present _ =>
      rcases stands.of_append answer unsized afterwards with ⟨same, unanswered, rfl⟩
      cases same
      cases answer.symm.trans still
      exact ⟨by simp [phase_eq, Phase.current?], unanswered, _, bytes_eq, present⟩

end Connection

namespace Socket

variable {service : Service Backend} {socket middle next : Socket} {action : Action}
  {actions : List Action} {log deeds : List (Deed Backend)} {identifier capacity since : Nat}

/-- All turns but the steps of a connection leave alone what it has answered and written. -/
theorem Turn.account (turn : socket.Turn service action deeds next)
    (account : socket.connection.Account log) : next.connection.Account (log ++ deeds) := by
  cases turn with
  | advance _ stepped => exact account.does (Connection.does_of_step stepped)
  | send sent =>
      rcases Server.of_sent sent with ⟨_, rfl⟩
      exact account.keep rfl (fun _ suffers => suffers) rfl rfl rfl
  | lose => exact account.keep rfl (Connection.rests_loseClient _).severed rfl rfl rfl
  | failOutbound fault =>
      exact account.keep rfl (Connection.rests_failOutbound _ fault).severed rfl rfl rfl
  | _ => exact account.keep rfl (fun _ suffers => suffers) rfl rfl rfl

theorem Life.account
    (life : (Socket.start identifier capacity since).Life service actions log next) :
    next.connection.Account log := by
  induction life with
  | start =>
      have stands : Stands ([] : List (Deed Backend)) [] none [] := ⟨rfl, by simp, rfl, rfl⟩
      exact .reading (.header rfl) stands
  | turn _ turn ih => exact turn.account ih

/-- A message that has been read has been answered, or is the one at hand. -/
theorem Life.frames_eq
    (life : (Socket.start identifier capacity since).Life service actions log next) :
    frames log = (receipts log).map Receipt.frame ++ next.connection.phase.current?.toList := by
  induction life with
  | start => rfl
  | turn _ turn ih =>
      rw [frames_append, receipts_append, ih]
      cases turn with
      | advance _ stepped =>
          rw [List.append_assoc, (Connection.does_of_step stepped).frames_eq, List.map_append,
            List.append_assoc]
      | send sent =>
          rcases Server.of_sent sent with ⟨_, rfl⟩
          simp
      | receive size => simp
      | _ => simp [Connection.finishInbound, Connection.loseClient, Connection.failInbound,
          Connection.failOutbound, Connection.cancel, Connection.abort]

/-- The outcome of a connection is logged once, when it ends. -/
theorem Life.outcomes_eq
    (life : (Socket.start identifier capacity since).Life service actions log next) :
    outcomes log = next.connection.phase.outcome?.toList := by
  induction life with
  | start => rfl
  | turn _ turn ih =>
      rw [outcomes_append, ih]
      cases turn with
      | @advance now connection shared after stage_eq stepped =>
          have transition := Connection.transition_of_step stepped
          rw [transition.outcome?_eq_none, (Connection.does_of_step stepped).outcomes_eq]
          rfl
      | send sent =>
          rcases Server.of_sent sent with ⟨_, rfl⟩
          simp
      | receive size => simp
      | _ => exact List.append_nil _

/-- Whether a client has received what was written, up to what is under way or lost. -/
structure Delivers (socket : Socket) (log : List (Deed Backend)) (lost : Bytes) : Prop where
  written_eq : written log = received log ++ socket.connection.outbound.content ++ lost
  kept : socket.connection.outbound.isAbandoned = false → lost = []

theorem Turn.delivers {lost : Bytes} (turn : socket.Turn service action deeds next)
    (delivers : socket.Delivers log lost) : ∃ lost, next.Delivers (log ++ deeds) lost := by
  rcases delivers with ⟨written_eq, kept⟩
  cases turn with
  | @advance now connection shared after _ stepped =>
      have keeps := (Connection.transition_of_step stepped).keeps
      have does := Connection.does_of_step stepped
      refine ⟨lost, ?_, ?_⟩
      · cases gone : socket.connection.outbound.isAbandoned with
        | false =>
            rw [kept gone, List.append_nil] at written_eq
            simp [written_eq, kept gone, does.content_eq, does.received_eq]
        | true =>
            simp [written_eq, does.written_eq_nil gone, does.content_eq, does.received_eq]
      · intro still
        exact kept (keeps.isAbandoned_eq.symm.trans still)
  | send sent =>
      rcases Server.of_sent sent with ⟨_, rfl⟩
      exact ⟨lost, by simpa using written_eq, kept⟩
  | receive size =>
      refine ⟨lost, ?_, kept⟩
      simpa [Pipe.skip] using written_eq
  | lose =>
      refine ⟨socket.connection.outbound.content ++ lost, ?_, ?_⟩
      · simpa [Connection.loseClient, Pipe.abandon] using written_eq
      · intro kept
        cases kept
  | enter _ => exact ⟨lost, by simpa using written_eq, kept⟩
  | finish => exact ⟨lost, by simpa [Connection.finishInbound] using written_eq, kept⟩
  | failInbound fault =>
      exact ⟨lost, by simpa [Connection.failInbound] using written_eq, kept⟩
  | failOutbound fault =>
      exact ⟨lost, by simpa [Connection.failOutbound, Pipe.fail] using written_eq, kept⟩
  | cancel => exact ⟨lost, by simpa [Connection.cancel] using written_eq, kept⟩
  | leave _ => exact ⟨lost, by simpa [Connection.abort, Pipe.finish] using written_eq, kept⟩

theorem Life.delivers
    (life : (Socket.start identifier capacity since).Life service actions log next) :
    ∃ lost, next.Delivers log lost := by
  induction life with
  | start => exact ⟨[], rfl, fun _ => rfl⟩
  | turn _ turn ih =>
      rcases ih with ⟨lost, delivers⟩
      exact turn.delivers delivers

/--
How the bytes that a connection has written fall into replies: those to the messages that it has
answered, whole and in order, and the beginning of the reply to the last one.
-/
structure WritesInOrder (service : Service Backend) (socket : Socket) (log : List (Deed Backend))
    (answered : List (Receipt Backend)) (current : Option (Receipt Backend)) (begun : Bytes) :
    Prop where
  receipts_eq : receipts log = answered ++ current.toList
  /-- All messages that have been read are answered, but for one that is at hand. -/
  frames_eq : frames log =
    (receipts log).map Receipt.frame ++ socket.connection.phase.current?.toList
  settled : ∀ receipt ∈ answered, ∃ reply?, receipt.answer = .ok reply?
  written_eq : written log = Frame.allBytes (answered.filterMap Receipt.reply?) ++ begun
  sizes_eq : sizes log = (answered.filterMap Receipt.reply?).map Frame.size
  delivered : ∃ lost, socket.Delivers log lost
  of_begun : begun ≠ [] → ∃ receipt reply rest, current = some receipt ∧
    receipt.answer = .ok (some reply) ∧ reply.bytes = begun ++ rest ∧ rest ≠ []
  /-- A connection that has ended within a reply was cut off. -/
  of_ended : begun ≠ [] → ∀ outcome, socket.connection.phase = .closed outcome →
    outcome = .error .timeout ∨ outcome = .error .connectionClosed ∨
      outcome = .error .io ∧ socket.connection.outbound.fault? = some .other
  /-- Whatever happens to a connection that has ended or was aborted, it does no more. -/
  stays : socket.IsStopped → ∀ later more next, socket.Life service later more next →
    frames more = [] ∧ receipts more = [] ∧ written more = []
  /-- Until the reply at hand is finished, no message is read and no other reply is written. -/
  finishes : ∀ receipt reply, current = some receipt → receipt.answer = .ok (some reply) →
    ∀ later more next, socket.Life service later more next → sizes more = [] →
      frames more = [] ∧ receipts more = [] ∧
        ∃ left, reply.bytes = begun ++ written more ++ left ∧ left ≠ []

theorem Life.writesInOrder {answered : List (Receipt Backend)} {current : Option (Receipt Backend)}
    {begun : Bytes}
    (life : (Socket.start identifier capacity since).Life service actions log socket)
    (stands : Stands log answered current begun)
    (of_begun : begun ≠ [] → ∃ receipt reply rest, current = some receipt ∧
      receipt.answer = .ok (some reply) ∧ reply.bytes = begun ++ rest ∧ rest ≠ [])
    (of_ended : begun ≠ [] → ∀ outcome, socket.connection.phase = .closed outcome →
      outcome = .error .timeout ∨ outcome = .error .connectionClosed ∨
        outcome = .error .io ∧ socket.connection.outbound.fault? = some .other) :
    socket.WritesInOrder service log answered current begun where
  receipts_eq := stands.receipts_eq
  frames_eq := life.frames_eq
  settled := stands.settled
  written_eq := stands.written_eq
  sizes_eq := stands.sizes_eq
  delivered := life.delivers
  of_begun := of_begun
  of_ended := of_ended
  stays stopped _ _ _ rest := by
    rcases rest.of_isStopped stopped with ⟨_, unread, unanswered, unwritten, _⟩
    exact ⟨unread, unanswered, unwritten⟩
  finishes receipt reply current_eq answer _ _ _ rest unsized := by
    subst current_eq
    have whole := life.trans rest
    rcases Connection.Account.finishes stands answer whole.account unsized with
      ⟨none_at_hand, unanswered, unfinished⟩
    refine ⟨?_, unanswered, unfinished⟩
    -- The messages that have been read are as many as before: they are all answered.
    have frames_eq := whole.frames_eq
    rw [frames_append, receipts_append, unanswered, none_at_hand, life.frames_eq, List.append_nil,
      Option.toList_none, List.append_nil, List.append_assoc, List.append_right_eq_self]
      at frames_eq
    exact (List.append_eq_nil_iff.1 frames_eq).2

/-- The error of writing into a pipe is that of a client that has left, or of a pipe that failed. -/
theorem toError_of_suffers {pipe : Pipe} {fault : StreamFault} (suffers : pipe.Suffers fault) :
    fault.toError = .connectionClosed ∨ fault.toError = .io ∧ pipe.fault? = some .other := by
  rcases suffers with ⟨_, rfl⟩ | fault_eq
  · exact .inl rfl
  · cases fault with
    | other => exact .inr ⟨rfl, fault_eq⟩
    | _ => exact .inl rfl

/--
Whatever the client and the server do and whenever it happens, the bytes that a connection has
written are the replies to the messages that it has read, whole and in their order, and the
beginning of the next one. The messages are the front of the stream that the client sends, and what
is written for each is what the service makes of it. A connection that stops within a reply has
timed out, has lost its client or its pipe, or was aborted, and stays within it.
-/
theorem Life.writes_in_order
    (life : (Socket.start identifier capacity since).Life service actions log socket) :
    (∃ rest, Frame.Part service.maxMessageSize (stream log) (frames log) rest) ∧
      (∀ receipt ∈ receipts log, service.Issues receipt) ∧
      ∃ answered current begun, socket.WritesInOrder service log answered current begun := by
  refine ⟨life.follows.exists_part, life.issues, ?_⟩
  cases life.account with
  | reading _ stands => exact ⟨_, _, _, life.writesInOrder stands (by simp) (by simp)⟩
  | dispatching _ stands => exact ⟨_, _, _, life.writesInOrder stands (by simp) (by simp)⟩
  | atRest _ stands => exact ⟨_, _, _, life.writesInOrder stands (by simp) (by simp)⟩
  | refused _ stands _ => exact ⟨_, _, _, life.writesInOrder stands (by simp) (by simp)⟩
  | replying phase_eq stands answer bytes_eq present =>
      refine ⟨_, _, _, life.writesInOrder stands ?_ ?_⟩
      · intro _
        exact ⟨_, _, _, rfl, answer, bytes_eq, present⟩
      · intro _ outcome closed
        rw [phase_eq] at closed
        cases closed
  | cutOff phase_eq stands answer bytes_eq present error_eq =>
      refine ⟨_, _, _, life.writesInOrder stands ?_ ?_⟩
      · intro _
        exact ⟨_, _, _, rfl, answer, bytes_eq, present⟩
      · intro _ outcome closed
        rw [phase_eq] at closed
        cases closed
        rcases error_eq with rfl | ⟨fault, rfl, suffers⟩
        · exact .inl rfl
        · right
          refine (toError_of_suffers suffers).imp (congrArg Except.error) ?_
          rintro ⟨io, failed⟩
          exact ⟨congrArg Except.error io, failed⟩

/-- A server whose pipes take in a header at a time. -/
def narrow : Server Unit :=
  .start {} ⟨[⟨"any", Predicate.any, Registry.always []⟩]⟩ () 16

/-- A client sends a message and takes nothing of the reply until the time is over. -/
def narrowEvents : List Server.Event :=
  [.look, .look, .accept, .tally, .enter, .send 0 ((Exchange.blank 7 0).bytes.take 16), .advance 0,
    .send 0 ((Exchange.blank 7 0).bytes.drop 16), .advance 0, .advance 0, .advance 0, .tick 30000,
    .advance 0]

/-- Of the reply to the message, only the header is written. -/
theorem writes_in_order_narrow :
    ∃ actions log socket, (Socket.start 0 16 0).Life narrow.service actions log socket ∧
      socket.connection.phase = .closed (.error .timeout) ∧ sizes log = [] ∧
      written log = (Exchange.blank 1 7).bytes.take 16 ∧
      ∃ answered current begun, socket.WritesInOrder narrow.service log answered current begun := by
  have ran : (narrow.run narrowEvents).map (fun server => server.sockets.map fun socket =>
      (socket.id, socket.connection.phase)) = some [(0, .closed (.error .timeout))] := by cbv
  rcases Option.map_eq_some_iff.1 ran with ⟨server, run_eq, sockets_eq⟩
  rcases List.map_eq_singleton_iff.1 sockets_eq with ⟨socket, only, same⟩
  rw [Prod.mk.injEq] at same
  rcases Server.tells_of_mem run_eq (by rw [only]; exact List.mem_singleton_self socket) with
    ⟨since, actions, tells⟩
  rcases tells with ⟨story_eq, life⟩
  rw [same.1] at story_eq life
  have arrived : (Entry.story 0 (narrow.journal narrowEvents)).head? = some (.arrive 0) := by cbv
  have since_eq : some (Action.arrive 0) = some (.arrive since) :=
    arrived.symm.trans (congrArg List.head? story_eq)
  cases since_eq
  exact ⟨actions, _, socket, life, same.2, by cbv, by cbv, life.writes_in_order.2.2⟩

end Socket

end DocumentProtocol
