import DocumentProtocol.Proofs.Message.Delivery

/-!
# Names that hold a zero

The names in a request, the collection of a legacy request and the identifiers of a message, are
written with a terminating zero and without a look at what they hold. The reader takes a name to end
at its first zero, and reads on behind that.

The sizes of the sections of a message are written beside the identifiers, so that the sections are
found where they were written, and only the documents of a sequence may be others. In a legacy
request all fields behind the name are displaced. The main statement is that a name comes back as
what is before its first zero, so that it comes back whole just when it holds none, and that all
else comes back too in this case. The forged requests at the end show that nothing can be said about
it otherwise.
-/

namespace DocumentProtocol

/-! ### Texts -/

namespace Text

/-- The characters of a text before its first zero. -/
def beforeZero (text : String) : String :=
  String.ofList (text.toList.takeWhile fun character => character ≠ '\x00')

theorem holdsZero_beforeZero (text : String) : holdsZero (beforeZero text) = false := by
  rw [holdsZero_eq_false_iff, beforeZero, String.toList_ofList]
  intro mem
  simpa using List.mem_takeWhile_imp mem

theorem beforeZero_eq_self_iff {text : String} :
    beforeZero text = text ↔ holdsZero text = false := by
  constructor
  · intro whole
    rw [← whole]
    exact holdsZero_beforeZero text
  · intro free
    rw [holdsZero_eq_false_iff] at free
    have all : text.toList.takeWhile (fun character => character ≠ '\x00') = text.toList := by
      rw [List.takeWhile_eq_self_iff]
      intro character mem
      have other : character ≠ '\x00' := by
        rintro rfl
        exact free mem
      simpa using other
    rw [beforeZero, all, String.ofList_toList]

/-- What is written of a text begins with what is written of the part before its first zero. -/
theorem exists_terminated_append (text : String) (rest : Bytes) :
    ∃ behind, terminated text ++ rest = terminated (beforeZero text) ++ behind := by
  by_cases free : holdsZero text = false
  · exact ⟨rest, by rw [beforeZero_eq_self_iff.2 free]⟩
  · rw [holdsZero_eq_false_iff, not_not] at free
    rcases List.eq_append_cons_of_mem free with ⟨before, after, split, absent⟩
    have cut : (beforeZero text).toList = before := by
      rw [beforeZero, split, String.toList_ofList]
      exact takeWhile_ne_append absent after
    have zero : String.utf8EncodeChar '\x00' = [0] := by decide
    refine ⟨after.flatMap String.utf8EncodeChar ++ [0] ++ rest, ?_⟩
    simp [terminated, encode_eq_flatMap, cut, split, zero]

/-- A name is read off the front of some bytes as what is before its first zero. -/
theorem eq_beforeZero {text found : String} {rest behind : Bytes}
    (free : holdsZero found = false)
    (same : terminated text ++ rest = terminated found ++ behind) :
    found = beforeZero text := by
  rcases exists_terminated_append text rest with ⟨other, split⟩
  have first := Field.text_append (holdsZero_beforeZero text) other
  rw [← split, same, Field.text_append free] at first
  cases first
  rfl

theorem eq_of_free {text : String} {rest behind : Bytes} (free : holdsZero text = false)
    (same : terminated text ++ rest = terminated (beforeZero text) ++ behind) :
    rest = behind := by
  rw [beforeZero_eq_self_iff.2 free] at same
  exact List.append_cancel_left same

end Text

/-! ### Numbers and documents -/

namespace Bytes

theorem ofUInt32_injective : Function.Injective ofUInt32 :=
  Function.LeftInverse.injective toUInt32_ofUInt32

theorem ofInt32_injective : Function.Injective ofInt32 :=
  Function.LeftInverse.injective toInt32_ofInt32

end Bytes

theorem Block.row_nil_iff {blocks : List Block} : Row [] blocks ↔ blocks = [] := by
  constructor
  · intro row
    have read := Document.decodeAll_eq_ok_iff.2 row
    rw [Document.decodeAll, if_pos rfl] at read
    cases read
    rfl
  · rintro rfl
    exact .nil

namespace Document

/-- Whether a block is what the bytes of a document are read as. -/
def ReadsInto (document : Document) (block : Block) : Prop :=
  ∃ bytes, encode document = .ok bytes ∧ decode bytes = .ok block.document ∧
    bytes.length = block.size

/-- A document that survives is read as itself. -/
theorem ReadsInto.eq_block {document : Document} {block : Block} (reads : document.ReadsInto block)
    (survives : document.Survives) : block = document.block := by
  rcases reads with ⟨bytes, written, decoded, size_eq⟩
  rcases block with ⟨found, size⟩
  have bytes_eq := eq_bytes_of_encode written
  rw [bytes_eq, survives.decode_eq] at decoded
  rw [bytes_eq] at size_eq
  simp only [Except.ok.injEq] at decoded size_eq
  subst decoded size_eq
  rfl

theorem encodeAll_eq_ok {documents : List Document} {bytes : Bytes}
    (written : encodeAll documents = .ok bytes) :
    bytes = rowBytes documents ∧ ∀ document ∈ documents, encode document = .ok document.bytes := by
  induction documents generalizing bytes with
  | nil =>
      cases written
      simp [rowBytes]
  | cons first others ih =>
      simp only [encodeAll, Except.bind_eq_ok_iff] at written
      rcases written with ⟨front, front_eq, rest, rest_eq, written⟩
      cases written
      cases eq_bytes_of_encode front_eq
      rcases ih rest_eq with ⟨rfl, written⟩
      refine ⟨by simp [rowBytes], ?_⟩
      intro document mem
      rcases List.mem_cons.1 mem with rfl | mem
      · exact front_eq
      · exact written document mem

/-- A document that is short enough is all of what is read where it was written. -/
theorem eq_of_append {document found : Document} {own rest behind : Bytes}
    (small : document.bytes.length < Bytes.wordLimit) (decoded : decode own = .ok found)
    (same : document.bytes ++ rest = own ++ behind) : document.bytes = own ∧ rest = behind := by
  have written := announcedSize_append (announcedSize_bytes small) rest
  have read := announcedSize_append (announcedSize_of_decode decoded) behind
  rw [← same, written] at read
  apply List.append_inj same
  simpa using read

theorem readsInto_of_row {documents : List Document} {blocks : List Block}
    (small : (rowBytes documents).length < Bytes.wordLimit)
    (written : ∀ document ∈ documents, encode document = .ok document.bytes)
    (row : Block.Row (rowBytes documents) blocks) : List.Forall₂ ReadsInto documents blocks := by
  induction documents generalizing blocks with
  | nil =>
      have none := Block.row_nil_iff.1 row
      subst none
      exact .nil
  | cons first others ih =>
      have split : rowBytes (first :: others) = first.bytes ++ rowBytes others := by
        simp [rowBytes]
      rw [split, List.length_append] at small
      generalize whole : rowBytes (first :: others) = bytes at row
      rw [split] at whole
      cases row with
      | nil =>
          have length := congrArg List.length whole
          simp [Document.bytes, length_enclose] at length
      | cons decoded row =>
          rcases eq_of_append (by omega) decoded whole with ⟨rfl, rfl⟩
          have rest := ih (by omega) (fun document mem => written document (by simp [mem])) row
          exact .cons ⟨_, written first (by simp), decoded, rfl⟩ rest

end Document

/-! ### Legacy requests -/

namespace Query

/-- What a query comes back as. -/
structure ComesBack (requestId : Int32) (collection : String) (skip limit : Int32)
    (query : Document) (request : Request) : Prop where
  collection_eq : request.info.collection = some (Text.beforeZero collection)
  request_eq : Text.holdsZero collection = false → ∃ block, query.ReadsInto block ∧
    request = requestOf requestId 0 collection skip limit block

theorem comesBack_of_encode {requestId : Int32} {collection : String} {skip limit : Int32}
    {query : Document} {frame : Frame} {request : Request}
    (written : encode requestId collection skip limit query = .ok frame)
    (read : decode requestId frame.body = .ok request) :
    ComesBack requestId collection skip limit query request := by
  rcases encode_eq_ok_iff.1 written with ⟨own, own_eq, made⟩
  cases Document.eq_bytes_of_encode own_eq
  rcases Frame.make_eq_ok_iff.1 made with ⟨length_eq, _, _, _, body_eq⟩
  have small := Frame.body_lt length_eq
  simp only [body_eq, front, List.append_assoc] at read small
  constructor
  · rcases decode_eq_ok_iff.1 read with ⟨_, found, _, _, _, spelled, rfl⟩
    rcases spelled.bytes_eq with ⟨_, _, _, _, whole⟩
    have behind := (List.append_inj whole (by simp)).2
    rw [← Text.eq_beforeZero spelled.free behind]
    rfl
  · intro free
    have announced : Document.announcedSize query.bytes = .ok query.bytes.length := by
      apply Document.announcedSize_bytes
      simp only [List.length_append] at small
      omega
    simp only [decode, Field.uint32_append, Field.text_append free, Field.int32_append, announced,
      Except.mapError, bind, Except.bind, List.take_length] at read
    cases decoded : Document.decode query.bytes with
    | error error =>
        rw [decoded] at read
        cases read
    | ok found =>
        rw [decoded] at read
        cases read
        exact ⟨⟨found, query.bytes.length⟩, ⟨_, own_eq, decoded, rfl⟩, rfl⟩

end Query

namespace Insert

/-- What an insert comes back as. -/
structure ComesBack (requestId : Int32) (flags : UInt32) (collection : String)
    (documents : List Document) (request : Request) : Prop where
  collection_eq : request.info.collection = some (Text.beforeZero collection)
  request_eq : Text.holdsZero collection = false → ∃ first others,
    List.Forall₂ Document.ReadsInto documents (first :: others) ∧
      request = requestOf requestId flags collection first others

theorem comesBack_of_encode {requestId : Int32} {flags : UInt32} {collection : String}
    {documents : List Document} {frame : Frame} {request : Request}
    (written : encode requestId flags collection documents = .ok frame)
    (read : decode requestId frame.body = .ok request) :
    ComesBack requestId flags collection documents request := by
  rcases encode_eq_ok_iff.1 written with ⟨own, own_eq, made⟩
  rcases Document.encodeAll_eq_ok own_eq with ⟨rfl, each⟩
  rcases Frame.make_eq_ok_iff.1 made with ⟨length_eq, _, _, _, body_eq⟩
  have small := Frame.body_lt length_eq
  simp only [body_eq, List.append_assoc] at read small
  rcases decode_eq_ok_iff.1 read with ⟨found_flags, found, first, others, spelled, rfl⟩
  rcases spelled.bytes_eq with ⟨rest, row, whole⟩
  rcases List.append_inj whole (by simp) with ⟨flags_eq, behind⟩
  have found_eq := Text.eq_beforeZero spelled.free behind
  constructor
  · rw [← found_eq]
    rfl
  · intro free
    have same : flags = found_flags := Bytes.ofUInt32_injective flags_eq
    rw [found_eq] at behind
    rw [← Text.eq_of_free free behind] at row
    rw [Text.beforeZero_eq_self_iff.2 free] at found_eq
    subst same found_eq
    refine ⟨first, others, Document.readsInto_of_row ?_ each row, rfl⟩
    simp only [List.length_append] at small
    omega

end Insert

/-! ### Messages -/

namespace Message

/-- What a sequence comes back as. -/
def DocumentSequence.ComesBack (sequence : DocumentSequence) (found : Section) : Prop :=
  ∃ blocks, found = .sequence (Text.beforeZero sequence.identifier) blocks ∧
    (Text.holdsZero sequence.identifier = false →
      List.Forall₂ Document.ReadsInto sequence.documents blocks)

theorem sequenceBytes_eq_ok {sequence : DocumentSequence} {bytes : Bytes}
    (written : sequenceBytes sequence = .ok bytes) :
    (∀ document ∈ sequence.documents, document.encode = .ok document.bytes) ∧
      ∃ size, size = 4 + (Text.terminated sequence.identifier).length +
          (Document.rowBytes sequence.documents).length ∧
        size < Bytes.wordLimit ∧
        bytes = Section.sequenceKind :: (Bytes.ofInt32 (Int32.ofNat size) ++
          (Text.terminated sequence.identifier ++ Document.rowBytes sequence.documents)) := by
  simp only [sequenceBytes, Except.bind_eq_ok_iff] at written
  rcases written with ⟨documents, documents_eq, written⟩
  rcases Document.encodeAll_eq_ok documents_eq with ⟨rfl, each⟩
  split at written
  · cases written
  · rename_i fits
    cases written
    exact ⟨each, _, rfl, Nat.not_le.1 fits, by simp⟩

/-- A sequence is found where it was written, whatever its identifier holds. -/
theorem comesBack_of_spelled {sequence : DocumentSequence} {own front rest behind : Bytes}
    {found : Section} (written : sequenceBytes sequence = .ok own)
    (spelled : Section.Spelled found front) (same : own ++ rest = front ++ behind) :
    sequence.ComesBack found ∧ rest = behind := by
  rcases sequenceBytes_eq_ok written with ⟨each, size, size_eq, small, rfl⟩
  cases spelled with
  | body =>
      simp only [List.cons_append, List.cons.injEq] at same
      cases same.1
  | @sequence number identifier bytes blocks number_eq free row =>
      simp only [List.cons_append, List.append_assoc, List.cons.injEq, true_and] at same
      -- The size in front of the identifier says where the sequence ends, whatever comes between.
      rcases List.append_inj same (by simp) with ⟨number_same, inside⟩
      have number_same : number.toInt = size := by
        rw [← Bytes.ofInt32_injective number_same, Bytes.toInt_ofNat small]
      simp only [← List.append_assoc] at inside
      rcases List.append_inj inside (by simp at size_eq ⊢; omega) with ⟨inside, rest_eq⟩
      refine ⟨⟨blocks, ?_, ?_⟩, rest_eq⟩
      · rw [Text.eq_beforeZero free inside]
      · intro whole
        rw [Text.eq_beforeZero free inside] at inside
        rw [← Text.eq_of_free whole inside] at row
        exact Document.readsInto_of_row (by omega) each row

theorem comesBack_of_row {sequences : List DocumentSequence} {bytes : Bytes}
    {sections : List Section} (written : sequencesBytes sequences = .ok bytes)
    (row : Section.Row bytes sections) :
    List.Forall₂ DocumentSequence.ComesBack sequences sections := by
  induction sequences generalizing bytes sections with
  | nil =>
      cases written
      have none := Section.row_nil_iff.1 row
      subst none
      exact .nil
  | cons first others ih =>
      simp only [sequencesBytes, Except.bind_eq_ok_iff] at written
      rcases written with ⟨own, own_eq, rest, rest_eq, written⟩
      cases written
      generalize whole : own ++ rest = bytes at row
      cases row with
      | nil =>
          rcases sequenceBytes_eq_ok own_eq with ⟨_, _, _, _, rfl⟩
          cases whole
      | cons spelled row =>
          rcases comesBack_of_spelled own_eq spelled whole with ⟨comesBack, rfl⟩
          exact .cons comesBack (ih rest_eq row)

/-- The document of a message is found where it was written. -/
theorem readsInto_of_spelled {document : Document} {front rest behind : Bytes} {found : Section}
    (written : document.encode = .ok document.bytes)
    (small : document.bytes.length < Bytes.wordLimit) (spelled : Section.Spelled found front)
    (same : Section.bodyKind :: (document.bytes ++ rest) = front ++ behind) :
    ∃ block, found = .body block ∧ document.ReadsInto block ∧ rest = behind := by
  cases spelled with
  | body decoded =>
      simp only [List.cons_append, List.cons.injEq, true_and] at same
      rcases Document.eq_of_append small decoded same with ⟨rfl, rfl⟩
      exact ⟨_, rfl, ⟨_, written, decoded, rfl⟩, rfl⟩
  | sequence =>
      simp only [List.cons_append, List.cons.injEq] at same
      cases same.1

/-- What a message comes back as. -/
structure ComesBack (requestId : Int32) (flags : UInt32) (document : Document)
    (sequences : List DocumentSequence) (request : Request) : Prop where
  sequenceIds_eq : request.info.sequenceIds =
    sequences.map fun sequence => Text.beforeZero sequence.identifier
  request_eq : ∃ block sections, document.ReadsInto block ∧
    List.Forall₂ DocumentSequence.ComesBack sequences sections ∧
    request = requestOf requestId (flags &&& ~~~checksumFlag) (.body block :: sections) []

theorem identifiers_of_comesBack {sequences : List DocumentSequence} {sections : List Section}
    (comeBack : List.Forall₂ DocumentSequence.ComesBack sequences sections) :
    sections.filterMap Section.identifier? =
      sequences.map fun sequence => Text.beforeZero sequence.identifier := by
  induction comeBack with
  | nil => rfl
  | cons first _ ih =>
      rcases first with ⟨blocks, rfl, _⟩
      rw [List.map_cons, ← ih]
      rfl

theorem comesBack_of_encode {requestId : Int32} {flags : UInt32} {document : Document}
    {sequences : List DocumentSequence} {frame : Frame} {request : Request}
    (written : encode requestId flags document sequences = .ok frame)
    (read : decode requestId frame.body = .ok request) :
    ComesBack requestId flags document sequences request := by
  simp only [encode, body, Except.bind_eq_ok_iff] at written
  rcases written with ⟨bytes, ⟨own, own_eq, others, others_eq, bytes_eq⟩, made⟩
  cases bytes_eq
  cases Document.eq_bytes_of_encode own_eq
  rcases Frame.make_eq_ok_iff.1 made with ⟨length_eq, _, _, _, body_eq⟩
  have small := Frame.body_lt length_eq
  rw [body_eq] at read small
  rcases spelled_of_decode read with ⟨found_flags, sections, trailer, spelled, rfl⟩
  rcases spelled.bytes_eq with ⟨inside, row, whole⟩
  have trailer_length := spelled.trailer_length
  simp only [List.append_assoc, List.cons_append] at whole small
  rcases List.append_inj whole (by simp) with ⟨flags_eq, behind⟩
  have same := Bytes.ofUInt32_injective flags_eq
  subst same
  rw [trailerSize, if_pos (checksum_and_clear flags), List.length_eq_zero_iff] at trailer_length
  rw [trailer_length, List.append_nil] at behind
  subst trailer_length
  cases row with
  | nil => cases behind
  | cons first row =>
      have short : document.bytes.length < Bytes.wordLimit := by
        simp only [List.length_append, List.length_cons] at small
        omega
      rcases readsInto_of_spelled own_eq short first behind with ⟨block, rfl, reads, rfl⟩
      have comeBack := comesBack_of_row others_eq row
      refine ⟨?_, block, _, reads, comeBack, rfl⟩
      have identifiers := identifiers_of_comesBack comeBack
      rwa [← List.filterMap_cons_none (a := .body block) rfl] at identifiers

end Message

/-! ### Requests of all kinds -/

/-- The names that a request has been read with. -/
def Request.names (request : Request) : List String :=
  request.info.collection.toList ++ request.info.sequenceIds

/-- A request as it is given to be written. -/
inductive Draft where
  | query (collection : String) (skip limit : Int32) (document : Document)
  | insert (flags : UInt32) (collection : String) (documents : List Document)
  | msg (flags : UInt32) (document : Document) (sequences : List Message.DocumentSequence)

namespace Draft

def operation : Draft → Operation
  | .query _ _ _ _ => .query
  | .insert _ _ _ => .insert
  | .msg _ _ _ => .msg

/-- The names that are written with a terminating zero. -/
def names : Draft → List String
  | .query collection _ _ _ => [collection]
  | .insert _ collection _ => [collection]
  | .msg _ _ sequences => sequences.map Message.DocumentSequence.identifier

def encode (requestId : Int32) : Draft → Except ProtocolError Frame
  | .query collection skip limit document => Query.encode requestId collection skip limit document
  | .insert flags collection documents => Insert.encode requestId flags collection documents
  | .msg flags document sequences => Message.encode requestId flags document sequences

/-- What a request that was written comes back as. -/
def ComesBack (requestId : Int32) : Draft → Request → Prop
  | .query collection skip limit document =>
      Query.ComesBack requestId collection skip limit document
  | .insert flags collection documents => Insert.ComesBack requestId flags collection documents
  | .msg flags document sequences => Message.ComesBack requestId flags document sequences

variable {draft : Draft} {requestId : Int32} {request : Request} {frame : Frame}

theorem comesBack_of_encode (written : draft.encode requestId = .ok frame)
    (read : draft.operation.decode requestId frame.body = .ok request) :
    draft.ComesBack requestId request := by
  cases draft with
  | query collection skip limit document => exact Query.comesBack_of_encode written read
  | insert flags collection documents => exact Insert.comesBack_of_encode written read
  | msg flags document sequences => exact Message.comesBack_of_encode written read

/-- Each name comes back as what is before its first zero. -/
theorem names_of_comesBack (read : draft.operation.decode requestId frame.body = .ok request)
    (comesBack : draft.ComesBack requestId request) :
    request.names = draft.names.map Text.beforeZero := by
  cases draft with
  | query collection skip limit document =>
      rcases Query.decode_eq_ok_iff.1 read with ⟨_, _, _, _, _, _, rfl⟩
      rw [Request.names, comesBack.collection_eq]
      rfl
  | insert flags collection documents =>
      rcases Insert.decode_eq_ok_iff.1 read with ⟨_, _, _, _, _, rfl⟩
      rw [Request.names, comesBack.collection_eq]
      rfl
  | msg flags document sequences =>
      rcases comesBack.request_eq with ⟨_, _, _, _, request_eq⟩
      rw [Request.names, comesBack.sequenceIds_eq, names, List.map_map, request_eq]
      rfl

end Draft

/--
Names end at their first zero. Whenever a request could be written and its body is read again, the
names are those that were given, each cut off there; so they are the same names just when none of
them holds a zero. If none does, the request is the one that was given, with the documents that its
bytes are read as. In a message this holds of each sequence by itself.
-/
theorem names_end_at_zero (draft : Draft) (requestId : Int32) (frame : Frame) (request : Request)
    (written : draft.encode requestId = .ok frame)
    (read : draft.operation.decode requestId frame.body = .ok request) :
    (request.names = draft.names ↔ ∀ name ∈ draft.names, Text.holdsZero name = false) ∧
      draft.ComesBack requestId request := by
  have comesBack := Draft.comesBack_of_encode written read
  refine ⟨?_, comesBack⟩
  have kept : draft.names.map Text.beforeZero = draft.names.map id ↔
      ∀ name ∈ draft.names, Text.beforeZero name = name := List.map_inj_left
  rw [List.map_id] at kept
  rw [Draft.names_of_comesBack read comesBack, kept]
  simp only [Text.beforeZero_eq_self_iff]

/-! ### Forged requests -/

namespace Forged

/-- A name that goes on, behind its first zero, with two numbers and an empty document. -/
def collection : String := "a\x00\x00\x00\x00\x00\x00\x00\x00\x00\x05\x00\x00\x00\x00"

/-- A name that goes on with an empty document that its own terminator completes. -/
def shortCollection : String := "a\x00\x05\x00\x00\x00"

def ping : Document := [("ping", .int32 1)]

theorem decode_empty : Document.decode [5, 0, 0, 0, 0] = .ok [] := by
  have survives : Document.Survives [] := by decide
  exact survives.decode_eq

theorem row_empty : Block.Row [5, 0, 0, 0, 0] [⟨[], 5⟩] :=
  .cons decode_empty .nil

/-- The query for `ping` is read as an empty query with other counts. -/
theorem query_spelled :
    ∃ frame, Query.encode 1 collection 3 (-1) ping = .ok frame ∧
      Query.Spelled 0 "a" 0 0 ⟨[], 5⟩ frame.body := by
  refine ⟨_, rfl, ?_⟩
  exact ⟨by decide, [5, 0, 0, 0, 0],
    [0] ++ Bytes.ofInt32 3 ++ Bytes.ofInt32 (-1) ++ ping.bytes, decode_empty, rfl, by decide⟩

/-- An insert of nothing is read as an insert of the empty document. -/
theorem insert_spelled :
    ∃ frame, Insert.encode 1 0 shortCollection [] = .ok frame ∧
      Insert.Spelled 0 "a" [⟨[], 5⟩] frame.body := by
  refine ⟨_, rfl, ?_⟩
  exact ⟨by decide, _, row_empty, by decide⟩

/-- An empty sequence is read as a sequence of one document. -/
theorem message_spelled :
    ∃ frame, Message.encode 1 0 [] [⟨shortCollection, []⟩] = .ok frame ∧
      Message.Spelled 0 [.body ⟨[], 5⟩, .sequence "a" [⟨[], 5⟩]] [] frame.body := by
  have first : Section.Spelled (.body ⟨[], 5⟩) [0, 5, 0, 0, 0, 0] := .body decode_empty
  have size_eq : (11 : Int32).toInt = (4 + ((Text.encode "a").length + 1) + 5 : Nat) := by decide
  have second := Section.Spelled.sequence size_eq (by decide) row_empty
  exact ⟨_, rfl, ⟨_, .cons first (.cons second .nil), by decide⟩, by decide⟩

/--
A query comes back for another collection with other counts and another document, an insert of no
document as an insert of one, and an empty sequence with a document and under another identifier.
-/
theorem requests_are_forged :
    (∃ frame request, Query.encode 1 collection 3 (-1) ping = .ok frame ∧
      Query.decode 1 frame.body = .ok request ∧ request.query = [] ∧
      request.info.collection = some "a" ∧ request.info.skip = some 0 ∧
      request.info.limit = some 0) ∧
    (∃ frame request, Insert.encode 1 0 shortCollection [] = .ok frame ∧
      Insert.decode 1 frame.body = .ok request ∧ request.query = [] ∧
      request.info.collection = some "a") ∧
    ∃ frame request, Message.encode 1 0 [] [⟨shortCollection, []⟩] = .ok frame ∧
      Message.decode 1 frame.body = .ok request ∧
      request.query = [("a", .array [.document []])] ∧ request.info.sequenceIds = ["a"] := by
  rcases query_spelled with ⟨queryFrame, queryWritten, query⟩
  rcases insert_spelled with ⟨insertFrame, insertWritten, insert⟩
  rcases message_spelled with ⟨messageFrame, messageWritten, message⟩
  exact ⟨⟨queryFrame, _, queryWritten, Query.decode_of_spelled 1 query, rfl, rfl, rfl, rfl⟩,
    ⟨insertFrame, _, insertWritten, Insert.decode_of_spelled 1 insert, rfl, rfl⟩,
    ⟨messageFrame, _, messageWritten, Message.decode_of_spelled message, rfl, rfl⟩⟩

end Forged

/-- The name of the forged query is cut off, and an innocent query comes back. -/
theorem names_end_at_zero_forged :
    (∃ frame request, Query.encode 1 Forged.collection 3 (-1) Forged.ping = .ok frame ∧
      Query.decode 1 frame.body = .ok request ∧ request.names ≠ [Forged.collection]) ∧
    ∃ frame request, Query.encode 1 "d.c" 3 (-1) Forged.ping = .ok frame ∧
      Query.decode 1 frame.body = .ok request ∧
      request = Query.requestOf 1 0 "d.c" 3 (-1) Forged.ping.block := by
  have survives : Forged.ping.Survives := by decide
  constructor
  · rcases Forged.query_spelled with ⟨frame, written, spelled⟩
    have read := Query.decode_of_spelled 1 spelled
    refine ⟨frame, _, written, read, ?_⟩
    have named := (names_end_at_zero (.query Forged.collection 3 (-1) Forged.ping) 1 frame _
      written read).1
    intro same
    have free := named.1 same Forged.collection (List.mem_singleton_self _)
    revert free
    decide
  · have body : Query.body "d.c" 3 (-1) Forged.ping = .ok _ := rfl
    have written : Query.encode 1 "d.c" 3 (-1) Forged.ping = .ok _ := rfl
    have read := Query.decode_of_body 1 (by decide) survives body
    refine ⟨_, _, written, read, ?_⟩
    have comesBack := (names_end_at_zero (.query "d.c" 3 (-1) Forged.ping) 1 _ _ written read).2
    rcases comesBack.request_eq (by decide) with ⟨block, reads, same⟩
    rw [same, reads.eq_block survives]

end DocumentProtocol
