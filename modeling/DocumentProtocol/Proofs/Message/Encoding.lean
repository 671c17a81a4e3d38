import DocumentProtocol.Proofs.Document.Survival
import DocumentProtocol.Proofs.Message.Grammar
import DocumentProtocol.Proofs.Message.Reply

/-!
# Sectioned messages come back

The main statement is that a sectioned message that could be written is read as the request it was
written for, provided that its documents survive and its identifiers hold no zero. Nothing is asked
of the identifiers beyond that: one may come twice, or be a name of the document or the name under
which the database stands, and a sequence may be empty.

The writer's sizes are not compared with the positions of the reader. The bytes of a section are
shown to spell it, the bytes of a body are therefore spelled by the sections in a row, and the
grammar of messages says what the reader makes of that.
-/

namespace DocumentProtocol

namespace Message

theorem checksum_and_clear (flags : UInt32) :
    flags &&& ~~~checksumFlag &&& checksumFlag = 0 := by
  rw [UInt32.and_assoc]
  exact UInt32.and_zero

namespace DocumentSequence

/-- Whether a sequence of documents can be written and read as itself. -/
structure Survives (sequence : DocumentSequence) : Prop where
  free : Text.holdsZero sequence.identifier = false
  survive : ∀ document ∈ sequence.documents, document.Survives

def toSection (sequence : DocumentSequence) : Section :=
  .sequence sequence.identifier (sequence.documents.map Document.block)

theorem joinTo_toSection (query : Document) (sequence : DocumentSequence) :
    sequence.toSection.joinTo query =
      query.insert sequence.identifier (.array (sequence.documents.map .document)) := by
  rw [toSection, Section.joinTo, Document.documents_map_block]

/-- The bytes that are written of a sequence spell it. -/
theorem spelled_of_sequenceBytes {sequence : DocumentSequence} {bytes : Bytes}
    (survives : sequence.Survives) (written : sequenceBytes sequence = .ok bytes) :
    Section.Spelled sequence.toSection bytes := by
  simp only [sequenceBytes, Document.encodeAll_of_survives survives.survive, bind, Except.bind]
    at written
  split at written
  · cases written
  · rename_i small
    simp only [pure, Except.pure, Except.ok.injEq] at written
    subst written
    rw [List.append_assoc]
    apply Section.Spelled.sequence _ survives.free (Document.row_of_survives survives.survive)
    rw [Bytes.toInt_ofNat (Nat.not_le.1 small), Text.length_terminated]

theorem row_of_sequencesBytes {sequences : List DocumentSequence} {bytes : Bytes}
    (survive : ∀ sequence ∈ sequences, sequence.Survives)
    (written : sequencesBytes sequences = .ok bytes) :
    Section.Row bytes (sequences.map toSection) := by
  induction sequences generalizing bytes with
  | nil =>
      cases written
      exact .nil
  | cons first others ih =>
      simp only [sequencesBytes, Except.bind_eq_ok_iff] at written
      rcases written with ⟨front, first_eq, rest, rest_eq, written⟩
      cases written
      have spelled := spelled_of_sequenceBytes (survive first (by simp)) first_eq
      exact .cons spelled (ih (fun sequence mem => survive sequence (by simp [mem])) rest_eq)

end DocumentSequence

/-- The sections of a message with a document and sequences. -/
def sectionsOf (document : Document) (sequences : List DocumentSequence) : List Section :=
  .body document.block :: sequences.map DocumentSequence.toSection

theorem spelled_of_body {flags : UInt32} {document : Document} {sequences : List DocumentSequence}
    {bytes : Bytes} (survives : document.Survives)
    (survive : ∀ sequence ∈ sequences, sequence.Survives)
    (written : body flags document sequences = .ok bytes) :
    Spelled (flags &&& ~~~checksumFlag) (sectionsOf document sequences) [] bytes := by
  simp only [body, survives.encode_eq, Except.bind_eq_ok_iff] at written
  rcases written with ⟨front, front_eq, rest, rest_eq, written⟩
  cases front_eq
  cases written
  have row := DocumentSequence.row_of_sequencesBytes survive rest_eq
  have first := Section.Spelled.body survives.decode_eq
  refine ⟨⟨_, .cons first row, ?_⟩, ?_⟩
  · simp
  · rw [trailerSize, if_pos (checksum_and_clear flags)]
    rfl

/-- All documents that a message is made of. -/
def given (document : Document) (sequences : List DocumentSequence) : List Document :=
  document :: sequences.flatMap DocumentSequence.documents

/-- Whether a request is the one that a message with some flags and documents was written for. -/
structure Conveys (requestId : Int32) (flags : UInt32) (document : Document)
    (sequences : List DocumentSequence) (request : Request) : Prop where
  operation_eq : request.operation = .msg
  /-- The sequences join the document one after the other. -/
  query_eq : request.query = sequences.foldl
    (fun query sequence =>
      query.insert sequence.identifier (.array (sequence.documents.map .document)))
    document
  info_eq : request.info =
    { requestId := requestId
      flags := flags &&& ~~~checksumFlag
      database := (request.query.find? databaseKey).bind Value.text?
      sequenceIds := sequences.map DocumentSequence.identifier
      checksum := none
      moreToCome := flags &&& ~~~checksumFlag &&& moreToComeFlag ≠ 0
      largestDocument := request.info.largestDocument }
  /-- The largest document is the longest one in writing. -/
  le_largest : ∀ member ∈ given document sequences, ∀ bytes, member.encode = .ok bytes →
    bytes.length ≤ request.info.largestDocument
  exists_largest : ∃ member ∈ given document sequences, ∃ bytes, member.encode = .ok bytes ∧
    bytes.length = request.info.largestDocument

section Meaning

variable (document : Document) (sequences : List DocumentSequence)

variable {document} in
theorem query_sectionsOf (survives : document.Survives) :
    query (sectionsOf document sequences) = sequences.foldl
      (fun query sequence =>
        query.insert sequence.identifier (.array (sequence.documents.map .document)))
      document := by
  have first : Section.joinTo [] (.body document.block) = document := survives.insertAll_eq
  simp only [query, sectionsOf, List.foldl_cons, first, List.foldl_map,
    DocumentSequence.joinTo_toSection]

theorem identifiers_sectionsOf :
    (sectionsOf document sequences).filterMap Section.identifier? =
      sequences.map DocumentSequence.identifier := by
  have identifier :
      Section.identifier? ∘ DocumentSequence.toSection = some ∘ DocumentSequence.identifier := rfl
  rw [sectionsOf, List.filterMap_cons_none rfl, List.filterMap_map, identifier,
    List.filterMap_eq_map]

theorem blocks_sectionsOf :
    (sectionsOf document sequences).flatMap Section.blocks =
      (given document sequences).map Document.block := by
  have first : Section.blocks (.body document.block) = [document.block] := rfl
  have blocks (sequence : DocumentSequence) :
      sequence.toSection.blocks = sequence.documents.map Document.block := rfl
  simp only [sectionsOf, given, List.flatMap_cons, first, List.flatMap_map, blocks,
    List.singleton_append, List.map_cons, List.map_flatMap]

theorem largest_sectionsOf :
    some (((sectionsOf document sequences).map Section.largest).foldl max 0) =
      ((given document sequences).map fun member => member.bytes.length).max? := by
  have sizes : ((given document sequences).map Document.block).map Block.size =
      (given document sequences).map fun member => member.bytes.length := by
    rw [List.map_map]
    rfl
  rw [Section.foldl_max_largest, blocks_sectionsOf, sizes, List.foldl_max, Nat.zero_max]
  simp [given, List.max?_cons]

variable {document sequences}

/-- What the sections of a message mean is what the message was written for. -/
theorem conveys_requestOf (requestId : Int32) (flags : UInt32) (survives : document.Survives)
    (survive : ∀ sequence ∈ sequences, sequence.Survives) :
    Conveys requestId flags document sequences
      (requestOf requestId (flags &&& ~~~checksumFlag) (sectionsOf document sequences) []) := by
  have largest := largest_sectionsOf document sequences
  rcases List.max?_eq_some_iff.1 largest.symm with ⟨mem, atMost⟩
  refine
    { operation_eq := rfl
      query_eq := query_sectionsOf sequences survives
      info_eq := ?_
      le_largest := ?_
      exists_largest := ?_ }
  · simp only [requestOf, identifiers_sectionsOf, checksumOf, if_pos (checksum_and_clear flags)]
  · intro member member_mem bytes written
    rw [Document.eq_bytes_of_encode written]
    exact atMost _ (List.mem_map_of_mem member_mem)
  · rcases List.mem_map.1 mem with ⟨member, member_mem, length_eq⟩
    have written : member.Survives := by
      rcases List.mem_cons.1 member_mem with rfl | inside
      · exact survives
      · rcases List.mem_flatMap.1 inside with ⟨sequence, sequence_mem, inside⟩
        exact (survive sequence sequence_mem).survive member inside
    exact ⟨member, member_mem, _, written.encode_eq, length_eq⟩

end Meaning

/--
A message that could be written has its own size as its length, and its body is read as the request
it was written for.
-/
theorem decode_of_encode (requestId : Int32) (flags : UInt32) (document : Document)
    (sequences : List DocumentSequence) (frame : Frame) (survives : document.Survives)
    (survive : ∀ sequence ∈ sequences, Text.holdsZero sequence.identifier = false ∧
      ∀ member ∈ sequence.documents, member.Survives)
    (written : encode requestId flags document sequences = .ok frame) :
    frame.header.length.toInt = Header.size + frame.body.length ∧
      ∃ request, decode requestId frame.body = .ok request ∧
        Conveys requestId flags document sequences request := by
  have survive : ∀ sequence ∈ sequences, sequence.Survives := by
    intro sequence mem
    exact ⟨(survive sequence mem).1, (survive sequence mem).2⟩
  simp only [encode, Except.bind_eq_ok_iff] at written
  rcases written with ⟨bytes, bytes_eq, made⟩
  rcases Frame.make_eq_ok_iff.1 made with ⟨length_eq, _, _, _, body_eq⟩
  refine ⟨by simpa [Frame.size] using length_eq, _, ?_,
    conveys_requestOf requestId flags survives survive⟩
  rw [body_eq]
  apply decode_of_spelled
  exact spelled_of_body survives survive bytes_eq

def colliding : Document := [("insert", .string "c"), ("$db", .string "d")]

/-- Sequences of which two have one identifier, one has a reserved name and holds nothing. -/
def collidingSequences : List DocumentSequence :=
  [⟨"insert", [[("a", .int32 1)], []]⟩, ⟨"$db", []⟩, ⟨"insert", [[("insert", .null)]]⟩]

theorem decode_of_encode_colliding :
    colliding.Survives ∧
      (∀ sequence ∈ collidingSequences, Text.holdsZero sequence.identifier = false ∧
        ∀ member ∈ sequence.documents, member.Survives) ∧
      ∃ frame, encode 7 3 colliding collidingSequences = .ok frame ∧
        frame.header.length.toInt = Header.size + frame.body.length ∧
        ∃ request, decode 7 frame.body = .ok request ∧
          Conveys 7 3 colliding collidingSequences request := by
  have survives : colliding.Survives := by decide
  have survive : ∀ sequence ∈ collidingSequences, Text.holdsZero sequence.identifier = false ∧
      ∀ member ∈ sequence.documents, member.Survives := by decide
  have encodes : ∃ frame, encode 7 3 colliding collidingSequences = .ok frame := by
    cbv
    exact ⟨_, rfl⟩
  rcases encodes with ⟨frame, written⟩
  exact ⟨survives, survive, frame, written,
    decode_of_encode 7 3 colliding collidingSequences frame survives survive written⟩

end Message

end DocumentProtocol
