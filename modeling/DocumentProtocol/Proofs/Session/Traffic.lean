import DocumentProtocol.Proofs.Session.Wire

/-!
# The counters of a server and its journal

The counters of a server count what has happened on its connections, and nothing else enters them:
not the order of the deeds, nor on which connection each of them was done. `Metrics.Shows` says for
each counter which deeds it counts, and the main statement adds how the messages that one connection
has read compare to its replies.

A counter is followed through a run by the weight that it gives to each event. The weights of the
events of one deed add up to what the deed is worth, so that the sum over a log can be read off the
log.
-/

namespace DocumentProtocol

variable {Backend : Type}

open Deed

/-! ### Weights -/

/-- Which deeds the counters of a server show. -/
structure Metrics.Shows (service : Service Backend) (metrics : Metrics)
    (deeds : List (Deed Backend)) : Prop where
  requestsReceived_eq : metrics.requestsReceived = .ofNat (frames deeds).length
  bytesReceived_eq : metrics.bytesReceived =
    .ofNat ((frames deeds).map fun frame => frame.header.length.toInt.toNat).sum
  repliesSent_eq : metrics.repliesSent = .ofNat (sizes deeds).length
  bytesSent_eq : metrics.bytesSent = .ofNat (sizes deeds).sum
  unmatchedRequests_eq : metrics.unmatchedRequests =
    .ofNat ((receipts deeds).countP fun receipt => service.IsUnmatched receipt)
  handlerErrors_eq : metrics.handlerErrors =
    .ofNat ((receipts deeds).countP fun receipt => service.IsFailed receipt)
  protocolErrors_eq : metrics.protocolErrors =
    .ofNat ((outcomes deeds).countP fun outcome => Connection.IsFault outcome)

namespace Server

/-- What has been done on the connections of a server, all in one log. -/
def allDeeds (journal : List (Entry Backend)) : List (Deed Backend) := journal.flatMap Entry.deeds

variable {server after middle : Server Backend} {event : Event} {events past : List Event}

/-- What is done to the pipes of a connection counts nothing. -/
theorem uncounted_of_changes {id : Nat} {change : Connection → Option Connection}
    (changes : event.Changes id change) :
    (allDeeds (server.entries event)).flatMap (Deed.events server.service) = [] := by
  cases changes with
  | receive size =>
      simp only [entries]
      cases server.socket? id <;> simp [allDeeds, Deed.events]
  | _ => simp [entries, allDeeds, Deed.events]

/-- An event counts the deeds on the connections, and beside them at most a connection. -/
theorem counter_of_step {counter : Metrics → UInt64} {weight : Metrics.Event → Nat}
    (counts : Metrics.Counts counter weight) (stepped : server.step event = some after) :
    counter after.shared.metrics = counter server.shared.metrics +
      .ofNat (((allDeeds (server.entries event)).flatMap (Deed.events server.service)).map
        weight).sum := by
  cases steps_of_step stepped with
  | accept =>
      simp only [accept]
      split
      · rename_i room
        have quiet : allDeeds (server.entries .accept) = [] := by
          simp only [entries, room, ↓reduceIte]
          split <;> rfl
        simp [quiet]
      · rename_i full
        simp [entries, full, allDeeds, count, SharedState.count, counts.record_eq,
          counts.rejected_eq]
  | tally =>
      simp [entries, allDeeds, tally, count, SharedState.count, counts.record_eq,
        counts.opened_eq]
  | enter entering found =>
      simp [entries, found, allDeeds, count, put, SharedState.count, counts.record_eq,
        counts.activated_eq]
  | advance found connection_stepped =>
      have counted := (Connection.does_of_step connection_stepped).metrics_eq
      simp only [entries, found, connection_stepped, allDeeds, Option.toList_some,
        List.flatMap_cons, List.flatMap_nil, List.map_cons, List.map_nil, List.append_nil]
      rw [counted, counts.recordAll_eq]
  | leave =>
      simp [entries, allDeeds, count, put, SharedState.count, counts.record_eq, counts.closed_eq]
  | change changes =>
      rw [uncounted_of_changes changes]
      simp [put]
  | look | join | release | tick => simp [entries, allDeeds]
  | stop =>
      have quiet : allDeeds (server.entries .stop) = [] := by simp [entries, allDeeds]
      simp [quiet, stop]

/-- A counter shows what the deeds in the journal weigh. -/
theorem counter_of_run {counter : Metrics → UInt64} {weight : Metrics.Event → Nat}
    (counts : Metrics.Counts counter weight) (run_eq : server.run events = some after) :
    counter after.shared.metrics = counter server.shared.metrics +
      .ofNat (((allDeeds (server.journal events)).flatMap (Deed.events server.service)).map
        weight).sum := by
  refine (@run_induction _ _ _ [] _ (fun past middle => server.run past = some middle ∧
    counter middle.shared.metrics = counter server.shared.metrics +
      .ofNat (((allDeeds (server.journal past)).flatMap (Deed.events server.service)).map
        weight).sum) ?_ ⟨rfl, by simp [journal, allDeeds]⟩ run_eq).2
  rintro past middle event after ⟨past_eq, counted⟩ stepped
  refine ⟨run_concat past_eq stepped, ?_⟩
  have service_eq := (continues_of_run past_eq).service_eq
  rw [counter_of_step counts stepped, counted, journal_concat past_eq stepped, service_eq]
  simp [allDeeds, UInt64.add_assoc]

/-- The counters of a server that was started show what the journal tells, and no order of it. -/
theorem shows_of_run {config : Config} {registry : Registry Backend} {backend : Backend}
    {capacity : Nat} (run_eq : (start config registry backend capacity).run events = some server)
    {deeds : List (Deed Backend)}
    (same : deeds.Perm (allDeeds ((start config registry backend capacity).journal events))) :
    server.shared.metrics.Shows (Service.ofConfig config registry) deeds := by
  have counted {counter : Metrics → UInt64} {weight : Metrics.Event → Nat}
      (counts : Metrics.Counts counter weight) : counter server.shared.metrics =
        .ofNat ((deeds.flatMap (Deed.events (Service.ofConfig config registry))).map
          weight).sum := by
    rw [((same.flatMap_right _).map _).sum_nat, counter_of_run counts run_eq]
    exact (congrArg (· + _) counts.initial_eq).trans (UInt64.zero_add _)
  constructor
  · rw [counted Metrics.counts_arrivals, weight_eq]
    simp [Metrics.Event.arrivals, List.map_const']
  · rw [counted Metrics.counts_arrivedBytes, weight_eq]
    simp [Metrics.Event.arrivedBytes, List.map_const']
  · rw [counted Metrics.counts_departures, weight_eq]
    simp [Metrics.Event.departures, List.map_const']
  · rw [counted Metrics.counts_departedBytes, weight_eq]
    simp [Metrics.Event.departedBytes, List.map_const']
  · rw [counted Metrics.counts_misses, weight_eq]
    simp [Metrics.Event.misses, List.map_const']
  · rw [counted Metrics.counts_failures, weight_eq]
    simp [Metrics.Event.failures, List.map_const']
  · rw [counted Metrics.counts_faults, weight_eq]
    simp [Metrics.Event.faults, List.map_const']

/-! ### Connection by connection -/

/-- The deeds in a journal are those of its connections. -/
theorem perm_allDeeds (journal : List (Entry Backend)) {number : Nat}
    (below : ∀ entry ∈ journal, entry.id < number) :
    ((List.range number).flatMap fun id => Entry.log id journal).Perm (allDeeds journal) := by
  induction journal with
  | nil => simp [Entry.log, Entry.ofId, allDeeds]
  | cons entry journal ih =>
      simp only [List.mem_cons, or_imp, forall_and, forall_eq] at below
      have log_eq (id : Nat) : Entry.log id (entry :: journal) =
          (if entry.id = id then entry.deeds else []) ++ Entry.log id journal := by
        by_cases same : entry.id = id <;> simp [Entry.log, Entry.ofId, same]
      have own (number : Nat) : ((List.range number).flatMap fun id =>
          if entry.id = id then entry.deeds else []) =
            if entry.id < number then entry.deeds else [] := by
        induction number with
        | zero => simp
        | succ number ih =>
            rw [List.range_succ, List.flatMap_append, ih, List.flatMap_singleton]
            rcases Nat.lt_trichotomy entry.id number with less | same | more
            · simp [less, Nat.lt_succ_of_lt less, Nat.ne_of_lt less]
            · simp [same]
            · simp [Nat.lt_asymm more, Nat.ne_of_gt more, Nat.not_lt.2 more]
      have parts := List.flatMap_append_perm (List.range number)
        (fun id => if entry.id = id then entry.deeds else []) (fun id => Entry.log id journal)
      rw [own, if_pos below.1] at parts
      simp only [log_eq]
      exact parts.symm.trans ((ih below.2).append_left _)

/-- What is told in a journal has happened on a connection that the server has accepted. -/
theorem lt_accepted_of_entry {config : Config} {registry : Registry Backend} {backend : Backend}
    {capacity : Nat} (run_eq : (start config registry backend capacity).run events = some server)
    {entry : Entry Backend}
    (mem : entry ∈ (start config registry backend capacity).journal events) :
    entry.id < server.accepted := by
  have distinct : server.ledger.IsDistinct :=
    ((KeepsBooks.start config registry backend capacity).run run_eq).distinct
  cases hosts_of_run run_eq entry.id with
  | absent untold _ =>
      have told : entry ∈ Entry.ofId entry.id
          ((start config registry backend capacity).journal events) := by
        simpa [Entry.ofId] using mem
      rw [untold] at told
      cases told
  | present _ id_eq mem =>
      rw [← id_eq]
      exact lt_accepted_of_mem distinct mem
  | gone _ past _ => exact past

end Server

/-- Whether a message holds a request that expects no reply. -/
def Frame.IsSilent (frame : Frame) : Prop :=
  ∃ request, frame.Carries request ∧ request.expectsReply = false

theorem Frame.isSilent_iff (frame : Frame) :
    frame.IsSilent ↔ (Request.ofMessage frame.header frame.body).toOption.any
      (fun request => !request.expectsReply) = true := by
  simp only [IsSilent, ← Frame.ofMessage_eq_ok_iff]
  cases Request.ofMessage frame.header frame.body <;> simp [Except.toOption]

instance : DecidablePred Frame.IsSilent := fun frame => decidable_of_iff _ frame.isSilent_iff.symm

section Silent

variable {service : Service Backend} {receipt : Receipt Backend}
  {answered : List (Receipt Backend)}

/-- A message is answered with silence if it holds a request that expects this. -/
theorem Service.Issues.isSilent_iff (issues : service.Issues receipt) :
    receipt.frame.IsSilent ↔ receipt.answer = .ok none := by
  have unique {request : Request} (carries : receipt.frame.Carries request) :
      receipt.frame.IsSilent ↔ request.expectsReply = false := by
    refine ⟨?_, fun silent => ⟨request, carries, silent⟩⟩
    rintro ⟨other, other_carries, silent⟩
    have same := (Frame.ofMessage_eq_ok_iff.2 carries).symm.trans
      (Frame.ofMessage_eq_ok_iff.2 other_carries)
    cases same
    exact silent
  cases Service.treats_of_issues issues with
  | refused refuses answer_eq =>
      simp only [answer_eq, reduceCtorEq, iff_false]
      rintro ⟨request, carries, _⟩
      have other := Frame.ofMessage_of_refuses refuses
      rw [Frame.ofMessage_eq_ok_iff.2 carries] at other
      cases other
  | silent carries _ silent answer_eq =>
      simp only [unique carries, Request.expectsReply_of_isSilent silent, answer_eq]
  | unwritable carries _ awaits _ answer_eq =>
      simp [unique carries, carries.expectsReply_of_awaitsReply awaits, answer_eq]
  | answered carries _ awaits _ answer_eq =>
      simp [unique carries, carries.expectsReply_of_awaitsReply awaits, answer_eq]

/-- Messages that are settled have their replies, but for those that expect none. -/
theorem Service.length_of_settled (issued : ∀ receipt ∈ answered, service.Issues receipt)
    (settled : ∀ receipt ∈ answered, ∃ reply?, receipt.answer = .ok reply?) :
    answered.length = (answered.filterMap Receipt.reply?).length +
      (answered.map Receipt.frame).countP (fun frame => frame.IsSilent) := by
  induction answered with
  | nil => rfl
  | cons receipt answered ih =>
      simp only [List.mem_cons, or_imp, forall_and, forall_eq] at issued settled
      rcases settled.1 with ⟨reply?, answer_eq⟩
      have silent := issued.1.isSilent_iff
      rw [List.length_cons, ih issued.2 settled.2, List.filterMap_cons, List.map_cons,
        List.countP_cons]
      cases reply? with
      | none => simp [Receipt.reply?, answer_eq, silent, Nat.add_assoc]
      | some reply =>
          simp [Receipt.reply?, answer_eq, silent]
          omega

end Silent

/-- How the messages, the replies and the outcome of a connection compare at any time. -/
structure Connection.Balances (limit : Nat) (connection : Connection) (log : List (Deed Backend))
    (answered : List (Receipt Backend)) (current : Option (Receipt Backend)) (begun : Bytes)
    (unsettled : Option Frame) : Prop where
  part : ∃ rest, Frame.Part limit (stream log) (frames log) rest
  /-- All messages that have been read are answered, but for one that is at hand. -/
  frames_eq : frames log = (receipts log).map Receipt.frame ++ connection.phase.current?.toList
  stands : Stands log answered current begun
  length_eq : (frames log).length = (sizes log).length +
    (frames log).countP (fun frame => frame.IsSilent) + unsettled.toList.length
  /-- A message without its reply is the last one: it is at hand, or the connection ended on it. -/
  of_unsettled : ∀ frame, unsettled = some frame → (frames log).getLast? = some frame ∧
    (connection.phase.current? = some frame ∨
      (∃ pending size since, connection.phase = .replying pending size since) ∨
      connection.IsClosed)
  outcomes_eq : outcomes log = connection.phase.outcome?.toList

namespace Socket

variable {service : Service Backend} {socket : Socket} {actions : List Socket.Action}
  {log : List (Deed Backend)} {identifier capacity since : Nat}
  (life : (Socket.start identifier capacity since).Life service actions log socket)

include life

/-- The accounts of a connection balance if only the last message may be without its reply. -/
theorem Life.balances_of_last {answered : List (Receipt Backend)}
    {current : Option (Receipt Backend)} {begun : Bytes} (last : Option Frame)
    (stands : Stands log answered current begun)
    (frames_eq : frames log = answered.map Receipt.frame ++ last.toList)
    (whereabouts : ∀ frame, last = some frame → socket.connection.phase.current? = some frame ∨
      (∃ pending size since, socket.connection.phase = .replying pending size since) ∨
        socket.connection.IsClosed) :
    socket.connection.Balances service.maxMessageSize log answered current begun
      (last.filter fun frame => ¬frame.IsSilent) where
  part := life.follows.exists_part
  frames_eq := life.frames_eq
  stands := stands
  length_eq := by
    have issued := life.issues
    rw [stands.receipts_eq] at issued
    have settled := Service.length_of_settled
      (fun receipt mem => issued receipt (List.mem_append_left _ mem)) stands.settled
    rw [frames_eq, stands.sizes_eq, List.length_append, List.length_map, settled,
      List.countP_append, List.length_map]
    cases last with
    | none => simp
    | some frame => by_cases silent : frame.IsSilent <;> simp [Option.filter, silent, Nat.add_assoc]
  of_unsettled := by
    intro frame unsettled
    rcases Option.filter_eq_some_iff.1 unsettled with ⟨rfl, _⟩
    exact ⟨by simp [frames_eq], whereabouts frame rfl⟩
  outcomes_eq := life.outcomes_eq

/-- The accounts of a connection balance throughout its life. -/
theorem Life.balances : ∃ answered current begun unsettled,
    socket.connection.Balances service.maxMessageSize log answered current begun unsettled := by
  cases life.account with
  | reading reads stands =>
      exact ⟨_, _, _, _, life.balances_of_last none stands
        (by simpa [stands.receipts_eq, reads.current?_eq] using life.frames_eq) (by simp)⟩
  | @dispatching answered header body phase_eq stands =>
      refine ⟨_, _, _, _, life.balances_of_last (some ⟨header, body⟩) stands
        (by simpa [stands.receipts_eq, phase_eq, Phase.current?] using life.frames_eq) ?_⟩
      rintro frame ⟨⟩
      left
      rw [phase_eq, Phase.current?]
  | @replying answered receipt reply begun pending since phase_eq stands _ _ _ =>
      exact ⟨_, _, _, _, life.balances_of_last (some receipt.frame) stands
        (by simpa [stands.receipts_eq, phase_eq, Phase.current?] using life.frames_eq)
        fun _ _ => .inr (.inl ⟨_, _, _, phase_eq⟩)⟩
  | atRest phase_eq stands =>
      exact ⟨_, _, _, _, life.balances_of_last none stands
        (by simpa [stands.receipts_eq, phase_eq, Phase.current?] using life.frames_eq) (by simp)⟩
  | @refused answered receipt error phase_eq stands _ =>
      exact ⟨_, _, _, _, life.balances_of_last (some receipt.frame) stands
        (by simpa [stands.receipts_eq, phase_eq, Phase.current?] using life.frames_eq)
        fun _ _ => .inr (.inr ⟨_, phase_eq⟩)⟩
  | @cutOff answered receipt reply begun lost error phase_eq stands _ _ _ _ =>
      exact ⟨_, _, _, _, life.balances_of_last (some receipt.frame) stands
        (by simpa [stands.receipts_eq, phase_eq, Phase.current?] using life.frames_eq)
        fun _ _ => .inr (.inr ⟨_, phase_eq⟩)⟩

end Socket

namespace Server

/-- How the counters of a server and the accounts of its connections compare to the journal. -/
structure KeepsCount (service : Service Backend) (capacity : Nat) (server : Server Backend)
    (journal : List (Entry Backend)) : Prop where
  /-- The counters depend on what was done, not on the order in which it was. -/
  shows : ∀ deeds, deeds.Perm (allDeeds journal) → server.shared.metrics.Shows service deeds
  perm : ((List.range server.accepted).flatMap fun id => Entry.log id journal).Perm
    (allDeeds journal)
  protocolErrors_eq : server.shared.metrics.protocolErrors =
    .ofNat ((List.range server.accepted).countP fun id =>
      ∃ outcome ∈ outcomes (Entry.log id journal), Connection.IsFault outcome)
  balances : ∀ id, Entry.ofId id journal = [] ∨
    ∃ since actions socket answered current begun unsettled,
      Entry.Tells service capacity id journal since actions socket ∧
      socket.connection.Balances service.maxMessageSize (Entry.log id journal) answered current
        begun unsettled

variable {server : Server Backend} {events : List Event}

section Run

variable {config : Config} {registry : Registry Backend} {backend : Backend} {capacity : Nat}
  (run_eq : (start config registry backend capacity).run events = some server)

include run_eq

theorem balances_of_run (id : Nat) :
    let journal := (start config registry backend capacity).journal events
    Entry.ofId id journal = [] ∨ ∃ since actions socket answered current begun unsettled,
      Entry.Tells (Service.ofConfig config registry) capacity id journal since actions socket ∧
      socket.connection.Balances (Service.ofConfig config registry).maxMessageSize
        (Entry.log id journal) answered current begun unsettled := by
  intro journal
  rcases untold_or_tells run_eq id with untold | ⟨_, _, _, tells⟩
  · exact .inl untold
  · rcases tells.life.balances with ⟨answered, current, begun, unsettled, balances⟩
    exact .inr ⟨_, _, _, _, _, _, _, tells, balances⟩

/-- A connection has one outcome at most. -/
theorem countP_outcomes (p : Except ProtocolError Unit → Prop) [DecidablePred p] (id : Nat) :
    let journal := (start config registry backend capacity).journal events
    (outcomes (Entry.log id journal)).countP (fun outcome => p outcome) =
      if ∃ outcome ∈ outcomes (Entry.log id journal), p outcome then 1 else 0 := by
  intro journal
  rcases balances_of_run run_eq id with untold | ⟨_, _, socket, _, _, _, _, _, balances⟩
  · simp only [journal, Entry.log, untold]
    simp
  · rw [balances.outcomes_eq]
    cases socket.connection.phase.outcome? with
    | none => simp
    | some outcome => by_cases holds : p outcome <;> simp [holds]

/--
However the connections of a server take turns, its counters show what has been done on them and
nothing else: the messages read and their sizes, the replies written and theirs, the requests that
nothing came of, and the connections that ended with a fault. On each connection all messages but
the last have their replies, unless they expect none, and the last has its own unless it is at hand.
-/
theorem counters_follow_journal :
    server.KeepsCount (Service.ofConfig config registry) capacity
      ((start config registry backend capacity).journal events) where
  shows _ same := shows_of_run run_eq same
  perm := perm_allDeeds _ fun _ mem => lt_accepted_of_entry run_eq mem
  protocolErrors_eq := by
    have perm := perm_allDeeds _ fun _ mem => lt_accepted_of_entry run_eq mem
    rw [(shows_of_run run_eq perm).protocolErrors_eq]
    congr 1
    induction List.range server.accepted with
    | nil => simp
    | cons id ids ih =>
        rw [List.flatMap_cons, outcomes_append, List.countP_append, ih, List.countP_cons,
          countP_outcomes run_eq]
        simp [Nat.add_comm]
  balances := balances_of_run run_eq

end Run

/-- A server that answers whatever it is asked. -/
def obliging : Server Unit :=
  .start {} ⟨[⟨"any", Predicate.any, Registry.always []⟩]⟩ () 100

/--
The first client gets its reply, the second sends a header that announces too little, the pipe of
the third fails, and the task of the fourth fails while it answers a message.
-/
def obligingEvents : List Event :=
  (List.replicate 4 [.look, .look, .accept, .tally, .enter]).flatten ++
    [.send 0 (Exchange.blank 7 0).bytes, .send 1 (List.replicate 16 0), .failInbound 2 .other,
      .send 3 (Exchange.blank 7 0).bytes, .advance 0, .advance 1, .advance 0, .advance 0,
      .advance 2, .advance 3, .advance 0, .advance 3, .leave 3 .panicked]

theorem counters_follow_journal_obliging :
    ∃ server, obliging.run obligingEvents = some server ∧
      server.shared.metrics.requestsReceived = 2 ∧ server.shared.metrics.repliesSent = 1 ∧
      server.shared.metrics.protocolErrors = 2 ∧
      server.KeepsCount obliging.service 100 (obliging.journal obligingEvents) := by
  have ran : (obliging.run obligingEvents).map (fun server =>
      (server.shared.metrics.requestsReceived, server.shared.metrics.repliesSent,
        server.shared.metrics.protocolErrors)) = some (2, 1, 2) := by cbv
  rcases Option.map_eq_some_iff.1 ran with ⟨server, run_eq, counters_eq⟩
  simp only [Prod.mk.injEq] at counters_eq
  exact ⟨server, run_eq, counters_eq.1, counters_eq.2.1, counters_eq.2.2,
    counters_follow_journal run_eq⟩

end Server

end DocumentProtocol
