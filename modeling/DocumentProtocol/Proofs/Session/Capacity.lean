import DocumentProtocol.Proofs.Config.Bounds
import DocumentProtocol.Proofs.Session.Gate

/-!
# Documents that can be delivered

A valid configuration has a limit for documents that is not above the limit for messages. A message
with nothing but a document is longer than the document by `Message.overhead`, so the largest
documents need not fit into a message: of two limits that are close together, the one for messages
counts.

The main statement is that a document within the limit for documents is never turned away for its
size once its message has been read, and that its message is read just when the document keeps the
limit for messages, less the overhead.
-/

namespace DocumentProtocol

namespace Message

/-- What a message with one document holds beside it: the header, flags and the kind of section. -/
def overhead : Nat := Header.size + 5

variable {document : Document} {requestId : Int32}

theorem body_alone (survives : document.Survives) :
    body 0 document [] = .ok (Bytes.ofUInt32 0 ++ Section.bodyKind :: document.bytes) := by
  simp only [body, survives.encode_eq, sequencesBytes, bind, Except.bind, pure, Except.pure,
    List.append_nil]
  rfl

theorem encode_alone (survives : document.Survives) :
    encode requestId 0 document [] = Frame.make requestId 0 Opcode.msg.code
      (Bytes.ofUInt32 0 ++ Section.bodyKind :: document.bytes) := by
  rw [encode, body_alone survives]
  rfl

theorem length_alone (document : Document) :
    Header.size + (Bytes.ofUInt32 0 ++ Section.bodyKind :: document.bytes).length =
      document.bytes.length + overhead := by
  simp only [List.length_append, List.length_cons, Bytes.length_ofUInt32, overhead]
  omega

/-- A message with one document can be made unless its length does not fit the header. -/
theorem exists_encode_alone_iff (requestId : Int32) (survives : document.Survives) :
    (∃ frame, encode requestId 0 document [] = .ok frame) ↔
      document.bytes.length + overhead < Bytes.wordLimit := by
  rw [encode_alone survives, Frame.exists_make_iff, length_alone]

theorem length_of_encode_alone {frame : Frame} (survives : document.Survives)
    (written : encode requestId 0 document [] = .ok frame) :
    frame.header.length.toInt = (document.bytes.length + overhead : Nat) ∧
      document.bytes.length + overhead = Header.size + frame.body.length := by
  rw [encode_alone survives] at written
  rcases Frame.make_eq_ok_iff.1 written with ⟨length_eq, _, _, _, body_eq⟩
  rw [Frame.size, body_eq, length_alone] at length_eq
  rw [body_eq, length_alone]
  exact ⟨length_eq, rfl⟩

theorem carries_of_encode_alone {frame : Frame} (survives : document.Survives)
    (written : encode requestId 0 document [] = .ok frame) :
    frame.Carries (posed requestId 0 document []) := by
  rw [encode_alone survives] at written
  rcases Frame.make_eq_ok_iff.1 written with ⟨_, requestId_eq, _, opcode_eq, body_eq⟩
  refine ⟨.msg, opcode_eq.symm, ?_⟩
  rw [requestId_eq, body_eq]
  exact decode_of_body requestId (by decide) survives (by simp) (body_alone survives)

end Message

namespace Service

variable {Backend : Type}

/-- Whether the message of a frame passes the limit for messages. -/
def AcceptsHeader (service : Service Backend) (frame : Frame) : Prop :=
  frame.header.bodyLength service.maxMessageSize = .ok frame.body.length

/-- Whether the request of a frame has a document for its query and goes to the registry. -/
def RoutesQuery (service : Service Backend) (frame : Frame) (document : Document) : Prop :=
  ∃ request, frame.Carries request ∧ request.query = document ∧
    ∀ shared, service.Admits frame request shared

variable {service : Service Backend} {document : Document} {requestId : Int32} {frame : Frame}

theorem acceptsHeader_iff (survives : document.Survives)
    (written : Message.encode requestId 0 document [] = .ok frame) :
    service.AcceptsHeader frame ↔
      document.bytes.length + Message.overhead ≤ service.maxMessageSize := by
  rcases Message.length_of_encode_alone survives written with ⟨length_eq, size_eq⟩
  rw [AcceptsHeader, Header.bodyLength_eq_ok_iff, length_eq, ← size_eq]
  simp

theorem bodyLength_of_above {limit : Nat} (survives : document.Survives)
    (written : Message.encode requestId 0 document [] = .ok frame)
    (above : limit < document.bytes.length + Message.overhead) :
    frame.header.bodyLength limit =
      .error (.oversizedFrame (document.bytes.length + Message.overhead)) := by
  rcases Message.length_of_encode_alone survives written with ⟨length_eq, size_eq⟩
  exact Header.bodyLength_eq_oversizedFrame_iff.2 ⟨by omega, above, length_eq⟩

theorem routesQuery_of_within (survives : document.Survives)
    (within : document.bytes.length ≤ service.maxDocumentSize)
    (written : Message.encode requestId 0 document [] = .ok frame) :
    service.RoutesQuery frame document := by
  have carries := Message.carries_of_encode_alone survives written
  refine ⟨_, carries, rfl, ?_⟩
  have alone : (Message.posed requestId 0 document []).info.largestDocument =
      document.bytes.length := by
    simp [Message.posed, Message.given, Document.longest]
  exact admits_of_within carries (alone.le.trans within)

/--
Under a valid configuration, a document within the limit for documents can be delivered just when
its message keeps the limit for messages. Otherwise the message is refused by its length; but the
request in it would not be refused for the size of its document.
-/
theorem documents_are_delivered_within (config : Config) (registry : Registry Backend)
    (requestId : Int32) (document : Document) (valid : config.problems = [])
    (survives : document.Survives)
    (within : document.bytes.length ≤ config.transport.maxDocumentSize) :
    (document.bytes.length + Message.overhead ≤ config.transport.maxMessageSize →
      ∃ frame, Message.encode requestId 0 document [] = .ok frame ∧
        (ofConfig config registry).AcceptsHeader frame ∧
        (ofConfig config registry).RoutesQuery frame document) ∧
    (config.transport.maxMessageSize < document.bytes.length + Message.overhead →
      ∀ frame, Message.encode requestId 0 document [] = .ok frame →
        frame.header.bodyLength config.transport.maxMessageSize =
          .error (.oversizedFrame (document.bytes.length + Message.overhead)) ∧
        (ofConfig config registry).RoutesQuery frame document) := by
  have bounded := (Config.problems_eq_nil_iff.1 valid).transport
  constructor
  · intro fits
    have short := Nat.lt_of_le_of_lt fits bounded.message.2
    rcases (Message.exists_encode_alone_iff requestId survives).2 short with
      ⟨frame, written⟩
    exact ⟨frame, written, (acceptsHeader_iff survives written).2 fits,
      routesQuery_of_within survives within written⟩
  · intro above frame written
    exact ⟨bodyLength_of_above survives written above,
      routesQuery_of_within survives within written⟩

/-- Two limits that leave no room between them. -/
def tight : Config := { transport := { maxMessageSize := 1024, maxDocumentSize := 1024 } }

/-- A document of thirteen bytes more than some zeros. -/
def zeros (count : Nat) : Document := [("a", .binary 0 (List.replicate count 0))]

theorem length_zeros (count : Nat) : (zeros count).bytes.length = count + 13 := by
  have name : (Text.encode "a").length = 1 := by decide
  rw [Document.length_bytes]
  simp only [zeros, Value.fieldsBytes, Value.length_fieldBytes, Value.payload, name,
    Document.binaryPayload, List.append_nil, reduceIte, List.length_append, List.length_cons,
    Bytes.length_ofInt32, List.length_replicate, show (0 : UInt8) ≠ 2 by decide]
  omega

theorem survives_zeros {count : Nat} (small : count < 2048) : (zeros count).Survives := by
  apply Document.survives_iff.2
  refine ⟨rfl, ?_⟩
  rw [length_zeros]
  simp only [Bytes.wordLimit]
  omega

theorem valid_tight : tight.problems = [] := by
  decide

/-- The longest document that is delivered is shorter than the limit by the overhead. -/
theorem documents_are_delivered_within_tight :
    (∃ frame, Message.encode 7 0 (zeros 990) [] = .ok frame ∧
        (ofConfig tight ({} : Registry Unit)).AcceptsHeader frame ∧
        (ofConfig tight ({} : Registry Unit)).RoutesQuery frame (zeros 990)) ∧
      ∃ frame, Message.encode 7 0 (zeros 991) [] = .ok frame ∧
        frame.header.bodyLength 1024 = .error (.oversizedFrame 1025) ∧
        (ofConfig tight ({} : Registry Unit)).RoutesQuery frame (zeros 991) := by
  have size_eq (count : Nat) : (zeros count).bytes.length + Message.overhead = count + 34 := by
    rw [length_zeros]
    simp only [Message.overhead, Header.size]
  have within {count : Nat} (small : count ≤ 1011) :
      (zeros count).bytes.length ≤ tight.transport.maxDocumentSize := by
    rw [length_zeros]
    simp only [tight]
    omega
  constructor
  · have survives : (zeros 990).Survives := survives_zeros (by decide)
    apply (documents_are_delivered_within tight {} 7 (zeros 990) valid_tight survives
      (within (by decide))).1
    rw [size_eq]
    decide
  · have survives : (zeros 991).Survives := survives_zeros (by decide)
    have short : (zeros 991).bytes.length + Message.overhead < Bytes.wordLimit := by
      rw [size_eq]
      decide
    rcases (Message.exists_encode_alone_iff 7 survives).2 short with
      ⟨frame, written⟩
    have above : tight.transport.maxMessageSize <
        (zeros 991).bytes.length + Message.overhead := by
      rw [size_eq]
      decide
    have refused := (documents_are_delivered_within tight ({} : Registry Unit) 7 (zeros 991)
      valid_tight survives (within (by decide))).2 above frame written
    rw [size_eq] at refused
    exact ⟨frame, written, refused⟩

/-- A document of exactly the limit is not delivered. -/
theorem largest_document_is_not_delivered :
    ¬∀ (config : Config) (registry : Registry Unit) (requestId : Int32) (document : Document),
      config.problems = [] → document.Survives →
        document.bytes.length ≤ config.transport.maxDocumentSize →
          ∃ frame, Message.encode requestId 0 document [] = .ok frame ∧
            (ofConfig config registry).AcceptsHeader frame ∧
            (ofConfig config registry).RoutesQuery frame document := by
  intro delivered
  have survives : (zeros 1011).Survives := survives_zeros (by decide)
  have within : (zeros 1011).bytes.length ≤ tight.transport.maxDocumentSize := by
    rw [length_zeros]
    decide
  rcases delivered tight {} 7 (zeros 1011) valid_tight survives within with
    ⟨frame, written, accepted, _⟩
  have fits := (acceptsHeader_iff survives written).1 accepted
  rw [length_zeros] at fits
  exact absurd fits (by decide)

end Service

end DocumentProtocol
