import DocumentProtocol.Proofs.Responder.Fallback
import DocumentProtocol.Proofs.Session.Conversation
import DocumentProtocol.Proofs.Session.Gate

/-!
# The limits that a server advertises

The answer to a handshake states how large messages and documents may be. It states them as signed
words, while a configuration may give any numbers, so what is stated is clamped and what is enforced
is not.

The main statement is that the two never differ for a client. A length in a header is a signed word
itself, and every document on the wire announces its own length in one; so nothing that a limit is
applied to is above the largest signed word, and below it the clamped number and the number are the
same bound.
-/

namespace DocumentProtocol

variable {Backend : Type}

/-! ### Clamped numbers -/

namespace ServerInfo

theorem toInt_clamp (number : Nat) :
    (clamp number).toInt = (min number (Bytes.wordLimit - 1) : Nat) := by
  apply Bytes.toInt_ofNat
  apply Nat.lt_of_le_pred (by decide)
  exact Nat.min_le_right _ _

/-- A size below the end of signed words keeps a number just when it keeps the clamped number. -/
theorem le_clamp_iff {size number : Nat} (fits : size < Bytes.wordLimit) :
    (size : Int) ≤ (clamp number).toInt ↔ size ≤ number := by
  rw [toInt_clamp]
  simp only [Bytes.wordLimit] at fits ⊢
  omega

/-- Whether the answer to a handshake states these limits. -/
structure States (answer : Document) (messageLimit documentLimit : Int32) : Prop where
  message_eq : answer.find? "maxMessageSizeBytes" = some (.int32 messageLimit)
  document_eq : answer.find? "maxBsonObjectSize" = some (.int32 documentLimit)

theorem states_handshakeDocument (info : ServerInfo) (now : Int64) :
    States (info.handshakeDocument now) info.maxMessageSize info.maxDocumentSize :=
  ⟨rfl, rfl⟩

end ServerInfo

/-! ### The handshake -/

namespace Registry

/-- A registry with the built-in responders somewhere among others. -/
def around (earlier : Registry Backend) (info : ServerInfo) (clock : Backend → Int64)
    (later : List (Responder Backend)) : Registry Backend :=
  ⟨(earlier.registerDefaults info clock).responders ++ later⟩

/-- A handshake that no earlier responder takes is answered with the limits of the server. -/
theorem dispatch_of_isHandshake {earlier : Registry Backend} {query : Document}
    (untaken : ∀ responder ∈ earlier.responders, responder.accepts query = false)
    (asked : query.IsHandshake) (info : ServerInfo) (clock : Backend → Int64)
    (later : List (Responder Backend)) (request : RequestInfo) (backend : Backend) :
    (earlier.around info clock later).dispatch query request backend =
      (.ok (info.handshakeDocument (clock backend)), backend) := by
  have skipped : (earlier.responders.find? fun responder => responder.accepts query) = none := by
    apply List.find?_eq_none.2
    intro responder mem
    simp [untaken responder mem]
  have found : (earlier.around info clock later).findMatch query =
      .ok ⟨"handshake", Predicate.isHandshake, greet info clock⟩ := by
    simp only [findMatch, around, registerDefaults, registerNamed, List.append_assoc,
      List.find?_append, skipped, List.cons_append, List.nil_append, List.find?_cons,
      Predicate.isHandshake_iff.2 asked]
    rfl
  rw [dispatch, found]
  rfl

/-- No responder's answer is that of the size gate. -/
theorem dispatch_ne_documentTooLarge (registry : Registry Backend) (query : Document)
    (request : RequestInfo) (backend after : Backend) (size limit : Nat) :
    registry.dispatch query request backend ≠ (.error (.documentTooLarge size limit), after) := by
  intro same
  simp only [dispatch, findMatch] at same
  split at same
  · rename_i error failed
    split at failed
    · cases failed
    · cases failed
      cases same
  · rename_i responder _
    cases answered : (responder.handle query request backend).1 with
    | ok document =>
        have first := congrArg Prod.fst same
        simp [answered, Except.mapError] at first
    | error failure =>
        have first := congrArg Prod.fst same
        simp [answered, Except.mapError] at first

end Registry

/-! ### What is enforced -/

/-- Whether the sixteen bytes of a header that a connection awaits have arrived. -/
inductive Connection.HasHeader (connection : Connection) (header : Header) (missing : Nat) :
    Prop where
  | mk {received : Bytes} {since : Nat}
      (phase_eq : connection.phase = .awaitingHeader received since)
      (running : connection.isCancelled = false)
      (missing_eq : missing = Header.size - received.length)
      (sound : missing = 0 ∨ connection.inbound.fault? = none)
      (enough : Header.size ≤ (received ++ connection.inbound.content.take missing).length)
      (header_eq : header = Header.ofBytes (received ++ connection.inbound.content.take missing))

theorem Connection.HasHeader.step_eq {connection : Connection} {header : Header} {missing : Nat}
    (has : connection.HasHeader header missing) (service : Service Backend) (now : Nat)
    (shared : SharedState Backend) :
    connection.step service now shared = some
      (match header.bodyLength service.maxMessageSize with
      | .error error => (connection.ended error, shared.conclude error)
      | .ok _ => (connection.goOn missing (.awaitingBody header []), shared)) := by
  rcases connection with ⟨phase, inbound, outbound, isCancelled⟩
  rcases has with ⟨rfl, rfl, rfl, sound, enough, rfl⟩
  rename_i received since
  have all : Header.size ≤ (received ++ inbound.content).length := by
    simp only [List.length_append, List.length_take] at enough ⊢
    omega
  have complete := Pipe.read_eq_complete (sound.imp_left Nat.le_of_sub_eq_zero) all
  have taken : ∀ late : Connection × SharedState Backend, ∀ result,
      Deadline.withinOptional service.idleTimeout since now late (some result) = some result := by
    intro late result
    exact Deadline.withinOptional_eq_some_iff.2 (.inl rfl)
  simp only [step, readHeader, take, complete, taken, acceptHeader, Bool.false_eq_true,
    ↓reduceIte]
  cases (Header.ofBytes _).bodyLength service.maxMessageSize <;> rfl

namespace Service

/-- Whether the connections of a service hold their clients to just these limits. -/
structure Enforces (service : Service Backend) (messageLimit documentLimit : Int32) : Prop where
  /-- A header that announces no less than itself passes just when it keeps the limit. -/
  passes_iff : ∀ header : Header, Header.size ≤ header.length.toInt →
    ((∃ length, header.bodyLength service.maxMessageSize = .ok length) ↔
      header.length ≤ messageLimit)
  /-- The connection then goes on to the body, -/
  awaits : ∀ (connection : Connection) (header : Header) (missing : Nat),
    connection.HasHeader header missing → Header.size ≤ header.length.toInt →
      header.length ≤ messageLimit → ∀ now shared,
        connection.step service now shared =
          some (connection.goOn missing (.awaitingBody header []), shared)
  /-- and ends with the size of the message otherwise. -/
  ends : ∀ (connection : Connection) (header : Header) (missing : Nat),
    connection.HasHeader header missing → messageLimit < header.length →
      Header.size ≤ header.length.toInt → ∀ now shared,
        connection.step service now shared =
          some (connection.ended (.oversizedFrame header.length.toInt.toNat),
            shared.conclude (.oversizedFrame header.length.toInt.toNat))
  /-- The registry answers a request just when its largest document keeps the limit; -/
  admits_iff : ∀ (frame : Frame) (request : Request), frame.Carries request → ∀ shared,
    (service.Admits frame request shared ↔
      (request.info.largestDocument : Int) ≤ documentLimit.toInt)
  /-- otherwise nobody is asked, and the client is told the size. -/
  declines : ∀ (frame : Frame) (request : Request), frame.Carries request →
    documentLimit.toInt < request.info.largestDocument → ∀ shared,
      service.Declines frame request (HandlerError.objectTooLarge request.info.largestDocument
        service.maxDocumentSize).toDocument shared

variable {service : Service Backend}

/-- The length of a header keeps a limit just when it keeps the clamped limit. -/
theorem le_clamp_iff_length {header : Header} (enough : Header.size ≤ header.length.toInt)
    (limit : Nat) :
    header.length ≤ ServerInfo.clamp limit ↔ header.length.toInt.toNat ≤ limit := by
  have fits : header.length.toInt.toNat < Bytes.wordLimit := by
    have bound := header.length.toInt_lt
    simp only [Bytes.wordLimit]
    omega
  rw [← ServerInfo.le_clamp_iff fits, Int32.le_iff_toInt_le]
  have length_eq : (header.length.toInt.toNat : Int) = header.length.toInt := by
    simp only [Header.size] at enough
    omega
  rw [length_eq]

theorem largestDocument_lt {frame : Frame} {request : Request} (carries : frame.Carries request) :
    request.info.largestDocument < Bytes.wordLimit := by
  rcases carries.exists_delivers with ⟨blocks, delivers⟩
  rw [carries.largest_eq delivers]
  exact delivers.largest_lt

theorem admits_iff_le {frame : Frame} {request : Request} (carries : frame.Carries request)
    (shared : SharedState Backend) :
    service.Admits frame request shared ↔
      request.info.largestDocument ≤ service.maxDocumentSize := by
  constructor
  · intro admits
    apply Nat.not_lt.1
    intro above
    have routed := admits.route_eq
    rw [route, if_pos above] at routed
    exact service.registry.dispatch_ne_documentTooLarge _ _ _ _ _ _ routed.symm
  · intro within
    exact admits_of_within carries within shared

theorem passes_iff_le {header : Header} (enough : Header.size ≤ header.length.toInt) :
    (∃ length, header.bodyLength service.maxMessageSize = .ok length) ↔
      header.length.toInt.toNat ≤ service.maxMessageSize := by
  simp only [Header.size] at enough
  constructor
  · rintro ⟨length, announced⟩
    have announced := Header.bodyLength_eq_ok_iff.1 announced
    omega
  · intro within
    refine ⟨header.length.toInt.toNat - Header.size, ?_⟩
    apply Header.bodyLength_eq_ok_iff.2
    simp only [Header.size]
    omega

/-- Clamped limits are enforced as if they had not been clamped. -/
theorem enforces_clamped (service : Service Backend) :
    service.Enforces (ServerInfo.clamp service.maxMessageSize)
      (ServerInfo.clamp service.maxDocumentSize) where
  passes_iff := by
    intro header enough
    rw [passes_iff_le enough, le_clamp_iff_length enough]
  awaits := by
    intro connection header missing has enough within now shared
    have kept := (le_clamp_iff_length enough _).1 within
    rcases (passes_iff_le enough).2 kept with ⟨length, announced⟩
    rw [has.step_eq, announced]
  ends := by
    intro connection header missing has above enough now shared
    have exceeds : service.maxMessageSize < header.length.toInt.toNat := by
      apply Nat.not_le.1
      intro within
      have kept := (le_clamp_iff_length enough _).2 within
      exact absurd above (Int32.not_lt.2 kept)
    have refused : header.bodyLength service.maxMessageSize =
        .error (.oversizedFrame header.length.toInt.toNat) := by
      apply Header.bodyLength_eq_oversizedFrame_iff.2
      simp only [Header.size] at enough ⊢
      omega
    rw [has.step_eq, refused]
  admits_iff := by
    intro frame request carries shared
    rw [admits_iff_le carries, ServerInfo.le_clamp_iff (largestDocument_lt carries)]
  declines := by
    intro frame request carries above shared
    have fits := largestDocument_lt carries
    apply declines_of_above carries rfl fits
    apply Nat.not_le.1
    intro within
    have kept := (ServerInfo.le_clamp_iff fits).2 within
    omega

/--
A server with the built-in responders answers a handshake with two limits that its connections
enforce exactly, whatever numbers its configuration gives: a header passes just when its length
keeps the first, and a request that was read goes to the registry just when its largest document
keeps the second.
-/
theorem advertised_limits_are_enforced (config : Config) (earlier : Registry Backend)
    (later : List (Responder Backend)) (clock : Backend → Int64) :
    (∀ query request backend, query.IsHandshake →
      (∀ responder ∈ earlier.responders, responder.accepts query = false) →
        ∃ answer, (earlier.around (.ofTransport config.transport) clock later).dispatch query
            request backend = (.ok answer, backend) ∧
          ServerInfo.States answer (ServerInfo.ofTransport config.transport).maxMessageSize
            (ServerInfo.ofTransport config.transport).maxDocumentSize) ∧
      (ofConfig config (earlier.around (.ofTransport config.transport) clock later)).Enforces
        (ServerInfo.ofTransport config.transport).maxMessageSize
        (ServerInfo.ofTransport config.transport).maxDocumentSize := by
  refine ⟨?_, enforces_clamped _⟩
  intro query request backend asked untaken
  refine ⟨_, Registry.dispatch_of_isHandshake untaken asked _ clock later request backend, ?_⟩
  exact ServerInfo.states_handshakeDocument (.ofTransport config.transport) (clock backend)

/-- A limit for messages above all signed words, and one that the empty document exceeds. -/
def lopsided : Config := { transport := { maxMessageSize := 1099511627776, maxDocumentSize := 4 } }

/-- The largest signed word stands for no limit at all, and the other limit is what it is. -/
theorem advertised_limits_are_enforced_lopsided :
    ∃ answer,
      (({} : Registry Unit).around (.ofTransport lopsided.transport) (fun _ => 0) []).dispatch
        [("hello", .boolean true)] {} () = (.ok answer, ()) ∧
      ServerInfo.States answer 2147483647 4 ∧
      (∀ header : Header, Header.size ≤ header.length.toInt →
        ∃ length, header.bodyLength 1099511627776 = .ok length) ∧
      ∃ request, (Exchange.blank 7 0).Carries request ∧ ∀ shared,
        (ofConfig lopsided
          (({} : Registry Unit).around (.ofTransport lopsided.transport) (fun _ => 0) [])).Declines
            (Exchange.blank 7 0) request (HandlerError.objectTooLarge 5 4).toDocument shared := by
  have asked : Document.IsHandshake [("hello", .boolean true)] := by
    decide
  have carries : (Exchange.blank 7 0).Carries
      ⟨.msg, [], { requestId := 7, flags := 0, largestDocument := 5 }⟩ :=
    ⟨.msg, by decide, by cbv⟩
  have untaken : ∀ responder ∈ ({} : Registry Unit).responders,
      responder.accepts [("hello", .boolean true)] = false := by
    simp
  have messageLimit_eq : (ServerInfo.ofTransport lopsided.transport).maxMessageSize =
      2147483647 := by
    decide
  have documentLimit_eq : (ServerInfo.ofTransport lopsided.transport).maxDocumentSize = 4 := by
    decide
  rcases advertised_limits_are_enforced lopsided ({} : Registry Unit) [] (fun _ => 0) with
    ⟨advertises, enforces⟩
  rw [messageLimit_eq, documentLimit_eq] at advertises enforces
  rcases advertises _ {} () asked untaken with ⟨answer, dispatched, states⟩
  refine ⟨answer, dispatched, states, ?_, _, carries, ?_⟩
  · intro header enough
    apply (enforces.passes_iff header enough).2
    apply Int32.le_iff_toInt_le.2
    have bound := header.length.toInt_lt
    have largest : (2147483647 : Int32).toInt = 2147483647 := by decide
    omega
  · intro shared
    exact enforces.declines _ _ carries (by decide) shared

end Service

end DocumentProtocol
