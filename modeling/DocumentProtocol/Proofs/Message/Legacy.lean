import DocumentProtocol.Proofs.Message.Encoding

/-!
# Legacy messages come back

The bodies of the legacy query, of the legacy insert and of the legacy reply are read as what they
were written for, provided that their documents survive and the name of the collection holds no
zero. Each reader takes the fields off the front that the writer has put there; the documents at the
end are a row.
-/

namespace DocumentProtocol

namespace Field

/-- A field is read off any bytes that begin with it. -/
theorem fixed_append {α : Type} {size : Nat} {value : Bytes → α} {front : Bytes} {found : α}
    (length_eq : front.length = size) (value_eq : value front = found) (rest : Bytes) :
    fixed size value (front ++ rest) = .ok (found, rest) := by
  subst length_eq
  apply fixed_eq_ok_iff.2
  refine ⟨?_, ?_, ?_⟩
  · simp
  · rwa [List.take_left' rfl]
  · rw [List.drop_left' rfl]

theorem uint32_append (number : UInt32) (rest : Bytes) :
    uint32 (Bytes.ofUInt32 number ++ rest) = .ok (number, rest) :=
  fixed_append (Bytes.length_ofUInt32 number) (Bytes.toUInt32_ofUInt32 number) rest

theorem int32_append (number : Int32) (rest : Bytes) :
    int32 (Bytes.ofInt32 number ++ rest) = .ok (number, rest) :=
  fixed_append (Bytes.length_ofInt32 number) (Bytes.toInt32_ofInt32 number) rest

theorem int64_append (number : Int64) (rest : Bytes) :
    int64 (Bytes.ofInt64 number ++ rest) = .ok (number, rest) :=
  fixed_append (Bytes.length_ofInt64 number) (Bytes.toInt64_ofInt64 number) rest

theorem text_append {written : String} (free : Text.holdsZero written = false) (rest : Bytes) :
    text (Text.terminated written ++ rest) = .ok (written, rest) :=
  text_eq_ok_iff.2 ⟨rfl, free⟩

end Field

/-- The size of the longest of some documents in writing. -/
def Document.longest (documents : List Document) : Nat :=
  (documents.map fun document => document.bytes.length).foldl max 0

theorem Document.largest_map_block (documents : List Document) :
    Block.largest (documents.map block) = longest documents := by
  rw [Block.largest, longest, List.foldl_map, List.foldl_map]
  rfl

namespace Query

theorem decode_of_body {collection : String} {skip limit : Int32} {query : Document}
    {bytes : Bytes} (requestId : Int32) (free : Text.holdsZero collection = false)
    (survives : query.Survives) (written : body collection skip limit query = .ok bytes) :
    decode requestId bytes = .ok {
      operation := .query
      query := query
      info := {
        requestId := requestId
        flags := 0
        collection := some collection
        skip := some skip
        limit := some limit
        isCommand := isCommandName collection
        database := Request.databaseOf? collection
        largestDocument := query.bytes.length } } := by
  simp only [body, survives.encode_eq, bind, Except.bind, pure, Except.pure,
    Except.ok.injEq] at written
  subst written
  have announced := Document.announcedSize_bytes (Document.survives_iff.1 survives).2
  simp only [decode, List.append_assoc, Field.uint32_append, Field.text_append free,
    Field.int32_append, announced, bind, Except.bind, Except.mapError, List.take_length,
    survives.decode_eq]
  rfl

end Query

namespace Insert

theorem decode_of_body {flags : UInt32} {collection : String} {first : Document}
    {others : List Document} {bytes : Bytes} (requestId : Int32)
    (free : Text.holdsZero collection = false)
    (survive : ∀ document ∈ first :: others, document.Survives)
    (written : body flags collection (first :: others) = .ok bytes) :
    decode requestId bytes = .ok {
      operation := .insert
      query := first
      info := {
        requestId := requestId
        flags := flags
        collection := some collection
        database := Request.databaseOf? collection
        extraDocuments := others
        largestDocument := Document.longest (first :: others) } } := by
  simp only [body, Document.encodeAll_of_survives survive, bind, Except.bind, pure, Except.pure,
    Except.ok.injEq] at written
  subst written
  have read := Document.decodeAll_eq_ok_iff.2 (Document.row_of_survives survive)
  have largest := Document.largest_map_block (first :: others)
  simp only [List.map_cons] at read largest
  simp only [decode, List.append_assoc, Field.uint32_append, Field.text_append free, read, largest,
    bind, Except.bind, Document.documents_map_block]
  rfl

end Insert

namespace LegacyReply

theorem decode_of_encoded {documents : List Document} {responseTo replyId : Int32} {frame : Frame}
    (survive : ∀ document ∈ documents, document.Survives)
    (written : encode documents responseTo replyId = .ok frame) :
    decode frame.body = .ok ⟨0, 0, 0, documents⟩ := by
  simp only [encode, Document.encodeAll_of_survives survive, bind, Except.bind] at written
  split at written
  · cases written
  · rename_i few
    have body_eq := (Frame.make_eq_ok_iff.1 written).2.2.2.2
    have count_eq := Bytes.toInt_ofNat (Nat.not_le.1 few)
    have read := Document.decodeAll_eq_ok_iff.2 (Document.row_of_survives survive)
    simp only [decode, body_eq, List.append_assoc, Field.int32_append, Field.int64_append, read,
      bind, Except.bind, count_eq, List.length_map, Document.documents_map_block]
    rw [if_neg (by simp)]
    rfl

end LegacyReply

end DocumentProtocol
