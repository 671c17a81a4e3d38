import DocumentProtocol.Proofs.Checked.Frame
import DocumentProtocol.Proofs.Checked.Section
import DocumentProtocol.Proofs.Message.Counted
import DocumentProtocol.Proofs.Message.Delivery

/-!
# Messages in a buffer

The readers of whole bodies and of frames, with every step at which a machine could fail: the
boundary and the trailer of a message, the rest behind the fields of a legacy body, the header of a
frame and the length that it announces.

The main statement, `Buffer.readings_meet_no_mishap`, says of any buffer in any address space that
each of these computations yields what its reader finds, a value or an error: every part and every
byte that is taken is there, no sum leaves the space, no difference is below zero, and every walk
comes to an end in steps of at least five bytes. So there are never more documents in a body than it
has fifths of its bytes.
-/

namespace DocumentProtocol

namespace Section

theorem Spelled.length_le {written : Section} {bytes : Bytes} (spelled : Spelled written bytes) :
    Document.minimumSize * written.blocks.length ≤ bytes.length := by
  cases spelled with
  | body decoded =>
      have atLeast := Document.length_of_decode decoded
      simp only [blocks, List.length_cons, List.length_nil]
      omega
  | sequence size_eq free row =>
      have atLeast := row.length_le
      simp only [blocks, List.length_cons, List.length_append]
      omega

theorem Row.length_le {bytes : Bytes} {sections : List Section} (row : Row bytes sections) :
    Document.minimumSize * (sections.flatMap blocks).length ≤ bytes.length := by
  induction row with
  | nil => simp
  | cons spelled row ih =>
      have first := spelled.length_le
      rw [List.flatMap_cons, List.length_append, List.length_append, Nat.mul_add]
      omega

end Section

namespace Operation.Delivers

theorem length_le {operation : Operation} {body : Bytes} {blocks : List Block}
    (delivers : operation.Delivers body blocks) :
    Document.minimumSize * blocks.length ≤ body.length := by
  cases delivers with
  | query spelled =>
      rcases spelled.bytes_eq with ⟨own, rest, decoded, _, rfl⟩
      have atLeast := Document.length_of_decode decoded
      simp only [List.length_append, List.length_cons, List.length_nil]
      omega
  | msg spelled =>
      rcases spelled.bytes_eq with ⟨bytes, row, rfl⟩
      have atLeast := row.length_le
      simp only [List.length_append]
      omega
  | insert spelled =>
      rcases spelled.bytes_eq with ⟨bytes, row, rfl⟩
      have atLeast := row.length_le
      simp only [List.length_append]
      omega

end Operation.Delivers

theorem LegacyReply.length_le {body : Bytes} {reply : LegacyReply}
    (decoded : decode body = .ok reply) :
    Document.minimumSize * reply.documents.length ≤ body.length := by
  rcases decode_eq_ok_iff.1 decoded with ⟨announced, pieces, rfl, cut, _⟩
  rcases cut.exists_row with ⟨blocks, row, documents_eq, _⟩
  have atLeast := row.length_le
  have number := congrArg List.length documents_eq
  simp only [Block.documents, List.length_map] at number
  rw [List.length_append, ← number]
  omega

namespace Buffer

open Checked

variable {space : AddressSpace}

/-! ### The sectioned message -/

/-- Where the sections of a body end that begin at some position. -/
def boundary (flags : UInt32) (body : Buffer space) (position : Nat) : Checked Nat :=
  if flags &&& Message.checksumFlag = 0 then pure body.bytes.length
  else
    match (sub? body.bytes.length Message.checksumSize).filter (position ≤ ·) with
    | some stop => pure stop
    | none => throw (.malformed .checksumSize)

def trailer (flags : UInt32) (body : Buffer space) (position : Nat) :
    Checked (Option UInt32) := do
  let remaining ← sub body.bytes.length position
  if flags &&& Message.checksumFlag = 0 then
    if remaining ≠ 0 then throw (.malformed .trailingBytes) else return none
  else if remaining ≠ Message.checksumSize then throw (.malformed .checksumSize)
  else
    let (checksum, _) ← body.uint32 position
    return some checksum

def message (requestId : Int32) (body : Buffer space) : Checked Request := do
  let (flags, position) ← body.uint32 0
  let boundary ← body.boundary flags position
  let (sections, stop) ← body.scan boundary position
  let checksum ← body.trailer flags stop
  let query := Message.query sections
  return {
    operation := .msg
    query := query
    info := {
      requestId := requestId
      flags := flags
      database := (query.find? Message.databaseKey).bind Value.text?
      sequenceIds := sections.filterMap Section.identifier?
      checksum := checksum
      moreToCome := flags &&& Message.moreToComeFlag ≠ 0
      largestDocument := (sections.map Section.largest).foldl max 0 } }

theorem yields_boundary (flags : UInt32) (body : Buffer space) :
    Yields (body.boundary flags 4) (Message.boundary flags body.bytes) := by
  rw [boundary, Message.boundary]
  split
  · exact .pure _
  · by_cases short : body.bytes.length < 4 + Message.checksumSize
    · have none_eq : (sub? body.bytes.length Message.checksumSize).filter (4 ≤ ·) = none := by
        grind [sub?]
      rw [none_eq, if_pos short]
      exact .throw _
    · have some_eq : (sub? body.bytes.length Message.checksumSize).filter (4 ≤ ·) =
          some (body.bytes.length - Message.checksumSize) := by
        grind [sub?]
      rw [some_eq, if_neg short]
      exact .pure _

theorem yields_trailer (flags : UInt32) (body : Buffer space) {position : Nat}
    (inside : position ≤ body.bytes.length) :
    Yields (body.trailer flags position) (Message.trailer flags body.bytes position) := by
  rw [trailer, Message.trailer]
  apply yields_sub_bind inside
  dsimp only
  split
  · split
    · exact .throw _
    · exact .pure _
  · split
    · exact .throw _
    · change Yields _ ((fun found => some found.1) <$> Field.uint32 (body.bytes.drop position))
      rw [map_eq_pure_bind]
      apply Yields.read_bind (Field.trims_fixed _ _) (body.yields_uint32 position)
      intro checksum _ _ _
      exact .pure _

theorem yields_message (requestId : Int32) (body : Buffer space) :
    Yields (body.message requestId) (Message.decode requestId body.bytes) := by
  rw [message, Message.decode]
  apply Yields.read_first_bind (Field.trims_fixed _ _) (body.yields_uint32 0)
  intro flags position read inside
  rw [Field.readAt_fixed (by decide)] at read
  split at read
  · rename_i enough
    cases read
    apply Yields.bind (yields_boundary _ body)
    intro boundary found
    rcases Message.boundary_bounds enough found with ⟨atLeast, atMost⟩
    apply Yields.bind (yields_scan body atMost 4)
    rintro ⟨sections, stop⟩ scanned
    rcases (Message.scan_eq_ok_iff atMost atLeast).1 scanned with ⟨_, rfl⟩
    exact Yields.bind (yields_trailer _ body atMost) fun checksum _ => .pure _
  · cases read

/-! ### Legacy bodies -/

def query (requestId : Int32) (body : Buffer space) : Checked Request := do
  let (flags, position) ← body.uint32 0
  let (collection, position) ← body.text position
  let (skip, position) ← body.int32 position
  let (limit, position) ← body.int32 position
  let rest ← body.part position body.bytes.length
  let size ← ofExcept ((Document.announcedSize rest.bytes).mapError
    fun _ => .malformed .missingDocument)
  let own ← rest.part 0 size
  let query ← ofExcept (Document.decode own.bytes)
  return Query.requestOf requestId flags collection skip limit ⟨query, size⟩

def insert (requestId : Int32) (body : Buffer space) : Checked Request := do
  let (flags, position) ← body.uint32 0
  let (collection, position) ← body.text position
  let rest ← body.part position body.bytes.length
  match ← rest.documents with
  | [] => throw (.malformed .missingDocument)
  | first :: others => return Insert.requestOf requestId flags collection first others

def legacyReply (body : Buffer space) : Checked LegacyReply := do
  let (flags, position) ← body.int32 0
  let (cursorId, position) ← body.int64 position
  let (startingFrom, position) ← body.int32 position
  let (announced, position) ← body.int32 position
  let rest ← body.part position body.bytes.length
  let blocks ← rest.documents
  if announced.toInt ≠ blocks.length then
    throw (.malformed (.documentCount announced blocks.length))
  else return ⟨flags, cursorId, startingFrom, Block.documents blocks⟩

/-- The request that a body in the layout of an operation holds. -/
def request (operation : Operation) (requestId : Int32) (body : Buffer space) : Checked Request :=
  match operation with
  | .query => body.query requestId
  | .msg => body.message requestId
  | .insert => body.insert requestId

theorem yields_query (requestId : Int32) (body : Buffer space) :
    Yields (body.query requestId) (Query.decode requestId body.bytes) := by
  rw [query, Query.decode]
  apply Yields.read_first_bind (Field.trims_fixed _ _) (body.yields_uint32 0)
  intro flags position _ _
  apply Yields.read_bind Field.trims_text (body.yields_text position)
  intro collection position _ _
  apply Yields.read_bind (Field.trims_fixed _ _) (body.yields_int32 position)
  intro skip position _ _
  apply Yields.read_bind (Field.trims_fixed _ _) (body.yields_int32 position)
  intro limit position _ inside
  apply yields_rest_bind inside
  intro rest rest_eq
  dsimp only
  rw [← rest_eq]
  apply Yields.bind (.ofExcept _)
  intro size announced
  have size_le := (Document.announcedSize_eq_ok (Except.mapError_eq_ok_iff.1 announced)).2
  apply yields_part_bind (Nat.zero_le _) size_le
  intro own own_eq
  rw [List.drop_zero] at own_eq
  rw [← own_eq]
  exact Yields.bind (.ofExcept _) fun document _ => .pure _

theorem yields_insert (requestId : Int32) (body : Buffer space) :
    Yields (body.insert requestId) (Insert.decode requestId body.bytes) := by
  rw [insert, Insert.decode]
  apply Yields.read_first_bind (Field.trims_fixed _ _) (body.yields_uint32 0)
  intro flags position _ _
  apply Yields.read_bind Field.trims_text (body.yields_text position)
  intro collection position _ inside
  apply yields_rest_bind inside
  intro rest rest_eq
  dsimp only
  rw [← rest_eq]
  apply Yields.bind rest.yields_documents
  intro blocks _
  cases blocks with
  | nil => exact .throw _
  | cons first others => exact .pure _

theorem yields_legacyReply (body : Buffer space) :
    Yields body.legacyReply (LegacyReply.decode body.bytes) := by
  rw [legacyReply, LegacyReply.decode]
  apply Yields.read_first_bind (Field.trims_fixed _ _) (body.yields_int32 0)
  intro flags position _ _
  apply Yields.read_bind (Field.trims_fixed _ _) (body.yields_int64 position)
  intro cursorId position _ _
  apply Yields.read_bind (Field.trims_fixed _ _) (body.yields_int32 position)
  intro startingFrom position _ _
  apply Yields.read_bind (Field.trims_fixed _ _) (body.yields_int32 position)
  intro announced position _ inside
  apply yields_rest_bind inside
  intro rest rest_eq
  dsimp only
  rw [← rest_eq]
  apply Yields.bind rest.yields_documents
  intro blocks _
  split
  · exact .throw _
  · exact .pure _

theorem yields_request (operation : Operation) (requestId : Int32) (body : Buffer space) :
    Yields (body.request operation requestId) (operation.decode requestId body.bytes) := by
  cases operation with
  | query => exact yields_query requestId body
  | msg => exact yields_message requestId body
  | insert => exact yields_insert requestId body

/-! ### All readings of a buffer -/

/-- Whatever is read from a buffer, as a field at any offset, as a frame or as a body, ends in the
value or the error of its reader, and there is at most one document in every five bytes. -/
structure ReadsSafely (buffer : Buffer space) : Prop where
  byte : ∀ offset, Yields (buffer.byte offset) (Field.readAt Field.byte buffer.bytes offset)
  uint32 : ∀ offset, Yields (buffer.uint32 offset) (Field.readAt Field.uint32 buffer.bytes offset)
  int32 : ∀ offset, Yields (buffer.int32 offset) (Field.readAt Field.int32 buffer.bytes offset)
  int64 : ∀ offset, Yields (buffer.int64 offset) (Field.readAt Field.int64 buffer.bytes offset)
  text : ∀ offset, Yields (buffer.text offset) (Field.readAt Field.text buffer.bytes offset)
  frame : ∀ limit, Yields (buffer.frame limit) (Frame.ofBytes buffer.bytes limit)
  documents : Yields buffer.documents (Document.decodeAll buffer.bytes)
  request : ∀ (operation : Operation) requestId,
    Yields (buffer.request operation requestId) (operation.decode requestId buffer.bytes)
  legacyReply : Yields buffer.legacyReply (LegacyReply.decode buffer.bytes)
  /-- The documents in a row. -/
  documents_le : ∀ blocks, Document.decodeAll buffer.bytes = .ok blocks →
    blocks.length ≤ buffer.bytes.length / 5
  /-- The documents that a request is made of, in whichever way its body is cut into them. -/
  request_le : ∀ (operation : Operation) requestId request,
    operation.decode requestId buffer.bytes = .ok request →
    (∃ blocks, operation.Delivers buffer.bytes blocks) ∧
      ∀ blocks, operation.Delivers buffer.bytes blocks →
        blocks.length ≤ buffer.bytes.length / 5
  legacyReply_le : ∀ reply, LegacyReply.decode buffer.bytes = .ok reply →
    reply.documents.length ≤ buffer.bytes.length / 5

/-- No reading of any buffer meets a mishap. -/
theorem readings_meet_no_mishap (buffer : Buffer space) : buffer.ReadsSafely where
  byte := buffer.yields_byte
  uint32 := buffer.yields_uint32
  int32 := buffer.yields_int32
  int64 := buffer.yields_int64
  text := buffer.yields_text
  frame := buffer.yields_frame
  documents := buffer.yields_documents
  request operation requestId := buffer.yields_request operation requestId
  legacyReply := buffer.yields_legacyReply
  documents_le blocks decoded := by
    have room := (Document.decodeAll_eq_ok_iff.1 decoded).length_le
    simp only [Document.minimumSize] at room
    omega
  request_le operation requestId request decoded := by
    refine ⟨Operation.exists_delivers decoded, ?_⟩
    intro blocks delivers
    have room := delivers.length_le
    simp only [Document.minimumSize] at room
    omega
  legacyReply_le reply decoded := by
    have room := LegacyReply.length_le decoded
    simp only [Document.minimumSize] at room
    omega

end Buffer

end DocumentProtocol
