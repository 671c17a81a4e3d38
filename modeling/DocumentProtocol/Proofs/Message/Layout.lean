import DocumentProtocol.Proofs.Message.Legacy

/-!
# The layout of legacy requests

`Query.Spelled` and `Insert.Spelled` say which bytes the body of a legacy request is written in. The
readers accept just these bodies, and the request is then the one that the fields and the documents
make up.

The two layouts end differently. The documents of an insert fill the rest of its body. Behind the
document of a query there may be anything, which is left alone, so that one query can be written in
many ways.
-/

namespace DocumentProtocol

/-- What is in front of a mark is found again if it does not hold the mark. -/
theorem Text.takeWhile_ne_append {mark : Char} {before : List Char} (absent : mark ∉ before)
    (after : List Char) : (before ++ mark :: after).takeWhile (· ≠ mark) = before := by
  have keep : ∀ character ∈ before, decide (character ≠ mark) = true := by
    intro character mem
    simp only [ne_eq, decide_eq_true_eq]
    rintro rfl
    exact absent mem
  rw [List.takeWhile_append_of_pos keep]
  simp

namespace Field

/-- A field that can be written is read off just the bytes that begin with what is written. -/
theorem fixed_eq_ok_iff_append {α : Type} {size : Nat} {value : Bytes → α} {write : α → Bytes}
    (length_eq : ∀ found, (write found).length = size)
    (value_write : ∀ found, value (write found) = found)
    (write_value : ∀ bytes, bytes.length = size → write (value bytes) = bytes)
    {bytes rest : Bytes} {found : α} :
    fixed size value bytes = .ok (found, rest) ↔ bytes = write found ++ rest := by
  constructor
  · intro read
    rcases fixed_eq_ok_iff.1 read with ⟨enough, rfl, rfl⟩
    have taken : (bytes.take size).length = size := by
      rw [List.length_take, Nat.min_eq_left enough]
    rw [write_value _ taken, List.take_append_drop]
  · rintro rfl
    exact fixed_append (length_eq found) (value_write found) rest

theorem uint32_eq_ok_iff {bytes rest : Bytes} {number : UInt32} :
    uint32 bytes = .ok (number, rest) ↔ bytes = Bytes.ofUInt32 number ++ rest :=
  fixed_eq_ok_iff_append Bytes.length_ofUInt32 Bytes.toUInt32_ofUInt32
    fun _ length_eq => Bytes.ofUInt32_toUInt32 length_eq

theorem int32_eq_ok_iff {bytes rest : Bytes} {number : Int32} :
    int32 bytes = .ok (number, rest) ↔ bytes = Bytes.ofInt32 number ++ rest :=
  fixed_eq_ok_iff_append Bytes.length_ofInt32 Bytes.toInt32_ofInt32
    fun _ length_eq => Bytes.ofInt32_toInt32 length_eq

theorem int64_eq_ok_iff {bytes rest : Bytes} {number : Int64} :
    int64 bytes = .ok (number, rest) ↔ bytes = Bytes.ofInt64 number ++ rest :=
  fixed_eq_ok_iff_append Bytes.length_ofInt64 Bytes.toInt64_ofInt64
    fun _ length_eq => Bytes.ofInt64_toInt64 length_eq

end Field

namespace Document

/-- Some bytes begin with a document of some size just when a document of this size stands there. -/
theorem decode_take_iff {bytes : Bytes} {document : Document} {size : Nat} :
    announcedSize bytes = .ok size ∧ decode (bytes.take size) = .ok document ↔
      ∃ front rest, decode front = .ok document ∧ front.length = size ∧ bytes = front ++ rest := by
  constructor
  · rintro ⟨announced, decoded⟩
    have size_le := (announcedSize_eq_ok announced).2
    refine ⟨bytes.take size, bytes.drop size, decoded, ?_, (List.take_append_drop size bytes).symm⟩
    rw [List.length_take, Nat.min_eq_left size_le]
  · rintro ⟨front, rest, decoded, rfl, rfl⟩
    refine ⟨announcedSize_append (announcedSize_of_decode decoded) rest, ?_⟩
    rwa [List.take_left' rfl]

end Document

/-! ### The legacy query -/

namespace Query

/-- The bytes of a legacy query: its fields, the block of its document, and whatever follows. -/
structure Spelled (flags : UInt32) (collection : String) (skip limit : Int32) (block : Block)
    (body : Bytes) : Prop where
  free : Text.holdsZero collection = false
  bytes_eq : ∃ bytes rest, Document.decode bytes = .ok block.document ∧
    bytes.length = block.size ∧
    body = Bytes.ofUInt32 flags ++ (Text.terminated collection ++ (Bytes.ofInt32 skip ++
      (Bytes.ofInt32 limit ++ (bytes ++ rest))))

def requestOf (requestId : Int32) (flags : UInt32) (collection : String) (skip limit : Int32)
    (block : Block) : Request where
  operation := .query
  query := block.document
  info :=
    { requestId := requestId
      flags := flags
      collection := some collection
      skip := some skip
      limit := some limit
      isCommand := isCommandName collection
      database := Request.databaseOf? collection
      largestDocument := block.size }

/-- A legacy query is read from just the bodies that are spelled as one. -/
theorem decode_eq_ok_iff {requestId : Int32} {body : Bytes} {request : Request} :
    decode requestId body = .ok request ↔
      ∃ flags collection skip limit block, Spelled flags collection skip limit block body ∧
        request = requestOf requestId flags collection skip limit block := by
  simp only [decode, Except.bind_eq_ok_iff, Except.mapError_eq_ok_iff, Prod.exists,
    Field.uint32_eq_ok_iff, Field.int32_eq_ok_iff, Field.text_eq_ok_iff]
  constructor
  · rintro ⟨flags, _, rfl, collection, _, ⟨rfl, free⟩, skip, _, rfl, limit, rest, rfl, size,
      announced, query, taken, read⟩
    rcases Document.decode_take_iff.1 ⟨announced, taken⟩ with ⟨bytes, behind, decoded, size_eq, rfl⟩
    cases read
    exact ⟨flags, collection, skip, limit, ⟨query, size⟩,
      ⟨free, bytes, behind, decoded, size_eq, rfl⟩, rfl⟩
  · rintro ⟨flags, collection, skip, limit, ⟨query, size⟩,
      ⟨free, bytes, behind, decoded, size_eq, rfl⟩, rfl⟩
    rcases Document.decode_take_iff.2 ⟨bytes, behind, decoded, size_eq, rfl⟩ with
      ⟨announced, taken⟩
    exact ⟨flags, _, rfl, collection, _, ⟨rfl, free⟩, skip, _, rfl, limit, _, rfl, size, announced,
      query, taken, rfl⟩

theorem decode_of_spelled (requestId : Int32) {flags : UInt32} {collection : String}
    {skip limit : Int32} {block : Block} {body : Bytes}
    (spelled : Spelled flags collection skip limit block body) :
    decode requestId body = .ok (requestOf requestId flags collection skip limit block) :=
  decode_eq_ok_iff.2 ⟨flags, collection, skip, limit, block, spelled, rfl⟩

/-- The bytes of a legacy query up to the end of its document. -/
def front (flags : UInt32) (collection : String) (skip limit : Int32) (document : Bytes) : Bytes :=
  Bytes.ofUInt32 flags ++ Text.terminated collection ++ Bytes.ofInt32 skip ++
    Bytes.ofInt32 limit ++ document

/-- A legacy query is written as its front alone. -/
theorem encode_eq_ok_iff {requestId : Int32} {collection : String} {skip limit : Int32}
    {query : Document} {frame : Frame} :
    encode requestId collection skip limit query = .ok frame ↔
      ∃ document, Document.encode query = .ok document ∧
        Frame.make requestId 0 Opcode.query.code (front 0 collection skip limit document) =
          .ok frame := by
  simp only [encode, Query.body, Except.bind_eq_ok_iff]
  constructor
  · rintro ⟨_, ⟨document, written, body_eq⟩, made⟩
    cases body_eq
    exact ⟨document, written, made⟩
  · rintro ⟨document, written, made⟩
    exact ⟨_, ⟨document, written, rfl⟩, made⟩

end Query

/-! ### The legacy insert -/

namespace Insert

/-- The bytes of a legacy insert: its fields and its documents in a row. -/
structure Spelled (flags : UInt32) (collection : String) (blocks : List Block) (body : Bytes) :
    Prop where
  free : Text.holdsZero collection = false
  bytes_eq : ∃ bytes, Block.Row bytes blocks ∧
    body = Bytes.ofUInt32 flags ++ (Text.terminated collection ++ bytes)

def requestOf (requestId : Int32) (flags : UInt32) (collection : String) (first : Block)
    (others : List Block) : Request where
  operation := .insert
  query := first.document
  info :=
    { requestId := requestId
      flags := flags
      collection := some collection
      database := Request.databaseOf? collection
      extraDocuments := Block.documents others
      largestDocument := Block.largest (first :: others) }

/-- A legacy insert is read from just the bodies that are spelled as one with a document. -/
theorem decode_eq_ok_iff {requestId : Int32} {body : Bytes} {request : Request} :
    decode requestId body = .ok request ↔
      ∃ flags collection first others, Spelled flags collection (first :: others) body ∧
        request = requestOf requestId flags collection first others := by
  simp only [decode, Except.bind_eq_ok_iff, Prod.exists, Field.uint32_eq_ok_iff,
    Field.text_eq_ok_iff, Document.decodeAll_eq_ok_iff]
  constructor
  · rintro ⟨flags, _, rfl, collection, bytes, ⟨rfl, free⟩, blocks, row, read⟩
    cases blocks with
    | nil => cases read
    | cons first others =>
        cases read
        exact ⟨flags, collection, first, others, ⟨free, bytes, row, rfl⟩, rfl⟩
  · rintro ⟨flags, collection, first, others, ⟨free, bytes, row, rfl⟩, rfl⟩
    exact ⟨flags, _, rfl, collection, bytes, ⟨rfl, free⟩, _, row, rfl⟩

theorem decode_of_spelled (requestId : Int32) {flags : UInt32} {collection : String}
    {first : Block} {others : List Block} {body : Bytes}
    (spelled : Spelled flags collection (first :: others) body) :
    decode requestId body = .ok (requestOf requestId flags collection first others) :=
  decode_eq_ok_iff.2 ⟨flags, collection, first, others, spelled, rfl⟩

theorem encode_eq_ok_iff {requestId : Int32} {flags : UInt32} {collection : String}
    {documents : List Document} {frame : Frame} :
    encode requestId flags collection documents = .ok frame ↔
      ∃ bytes, Document.encodeAll documents = .ok bytes ∧
        Frame.make requestId 0 Opcode.insert.code
          (Bytes.ofUInt32 flags ++ Text.terminated collection ++ bytes) = .ok frame := by
  simp only [encode, Insert.body, Except.bind_eq_ok_iff]
  constructor
  · rintro ⟨_, ⟨bytes, written, body_eq⟩, made⟩
    cases body_eq
    exact ⟨bytes, written, made⟩
  · rintro ⟨bytes, written, made⟩
    exact ⟨_, ⟨bytes, written, rfl⟩, made⟩

end Insert

end DocumentProtocol
