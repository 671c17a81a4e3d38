import DocumentProtocol.Proofs.Document.Cut
import DocumentProtocol.Proofs.Message.Layout

/-!
# Replies that count their documents

A legacy reply says how many documents it carries, and carries them behind that without a mark
between them. The number and the documents are independent of each other on the wire: the reader
cuts the documents by their own lengths and compares their number afterwards.

`LegacyReply.Spelled` says which bytes a reply is written in. The main statement is that just these
are read, with a number that is neither negative nor too large nor too small, and that a wrong
number is an error that tells both. A list of documents that survive comes back from the reply that
carries it, whose bytes are read as one frame by every reader that admits their number.
-/

namespace DocumentProtocol

namespace LegacyReply

/-- The bytes of a reply before its documents. -/
def head (flags : Int32) (cursorId : Int64) (startingFrom announced : Int32) : Bytes :=
  Bytes.ofInt32 flags ++ Bytes.ofInt64 cursorId ++ Bytes.ofInt32 startingFrom ++
    Bytes.ofInt32 announced

/-- The bytes of a reply: its fields, the number of its documents, and the pieces of these. -/
structure Spelled (reply : LegacyReply) (announced : Int32) (pieces : List Bytes) (body : Bytes) :
    Prop where
  body_eq : body = head reply.flags reply.cursorId reply.startingFrom announced ++ pieces.flatten
  cut : Document.IsCut pieces.flatten pieces reply.documents
  announced_eq : announced.toInt = pieces.length

/-! ### Reading -/

section Reading

variable {flags startingFrom announced : Int32} {cursorId : Int64} {rest body : Bytes}
  {pieces : List Bytes} {documents : List Document} {reply : LegacyReply}

@[simp]
theorem length_head : (head flags cursorId startingFrom announced).length = 20 := by
  simp [head]

/-- Behind a head the documents are read, and then their number is compared. -/
theorem decode_head :
    decode (head flags cursorId startingFrom announced ++ rest) =
      (Document.decodeAll rest).bind fun blocks =>
        if announced.toInt = blocks.length then
          .ok ⟨flags, cursorId, startingFrom, Block.documents blocks⟩
        else .error (.malformed (.documentCount announced blocks.length)) := by
  simp only [decode, head, List.append_assoc, Field.int32_append, Field.int64_append, bind,
    Except.bind]
  cases Document.decodeAll rest with
  | error error => rfl
  | ok blocks =>
      by_cases same : announced.toInt = blocks.length
      · simp only [same, ne_eq, not_true_eq_false, ↓reduceIte]
        rfl
      · simp only [same, ne_eq, not_false_eq_true, ↓reduceIte]
        rfl

theorem decode_of_isCut (cut : Document.IsCut rest pieces documents) :
    decode (head flags cursorId startingFrom announced ++ rest) =
      if announced.toInt = pieces.length then .ok ⟨flags, cursorId, startingFrom, documents⟩
      else .error (.malformed (.documentCount announced pieces.length)) := by
  rcases cut.exists_row with ⟨blocks, row, rfl, sizes⟩
  have number : pieces.length = blocks.length := by
    simpa using congrArg List.length sizes
  rw [decode_head, Document.decodeAll_eq_ok_iff.2 row, number]
  rfl

theorem decode_eq_ok_iff :
    decode body = .ok reply ↔ ∃ announced pieces, Spelled reply announced pieces body := by
  constructor
  · intro read
    simp only [decode, Except.bind_eq_ok_iff, Prod.exists, Field.int32_eq_ok_iff,
      Field.int64_eq_ok_iff, Document.decodeAll_eq_ok_iff] at read
    rcases read with ⟨flags, _, rfl, cursorId, _, rfl, startingFrom, _, rfl, announced, rest, rfl,
      blocks, row, kept⟩
    split at kept
    · cases kept
    · rename_i same
      cases kept
      rcases Document.exists_isCut_of_row row with ⟨pieces, cut, sizes⟩
      have number : pieces.length = blocks.length := by
        simpa using congrArg List.length sizes
      have flatten_eq := cut.flatten_eq
      subst flatten_eq
      refine ⟨announced, pieces, by simp [head], cut, ?_⟩
      rw [number]
      exact not_ne_iff.1 same
  · rintro ⟨announced, pieces, rfl, cut, announced_eq⟩
    rw [decode_of_isCut cut, if_pos announced_eq]

end Reading

/-! ### Writing -/

section Writing

variable {documents : List Document} (survive : ∀ document ∈ documents, document.Survives)

include survive

/-- A reply fails only if it is too long; its documents are too many only if they are too long. -/
theorem encode_eq_make (responseTo replyId : Int32)
    (small : (Document.rowBytes documents).length < Bytes.wordLimit) :
    encode documents responseTo replyId =
      Frame.make replyId responseTo Opcode.reply.code
        (head 0 0 0 (Int32.ofNat documents.length) ++ Document.rowBytes documents) := by
  -- Every document takes some bytes, so that their number is in range where their bytes are.
  have atLeast := (Document.row_of_survives survive).length_le
  rw [List.length_map, Document.minimumSize] at atLeast
  simp only [encode, Document.encodeAll_of_survives survive, bind, Except.bind]
  rw [if_neg (by omega)]
  rfl

theorem small_of_encode {responseTo replyId : Int32} {frame : Frame}
    (written : encode documents responseTo replyId = .ok frame) :
    (Document.rowBytes documents).length < Bytes.wordLimit := by
  simp only [encode, Document.encodeAll_of_survives survive, bind, Except.bind] at written
  split at written
  · cases written
  · have short := Frame.exists_make_iff.1 ⟨frame, written⟩
    rw [List.length_append] at short
    omega

theorem exists_encode_iff (responseTo replyId : Int32) :
    (∃ frame, encode documents responseTo replyId = .ok frame) ↔
      Header.size + (20 + (Document.rowBytes documents).length) < Bytes.wordLimit := by
  constructor
  · rintro ⟨frame, written⟩
    rw [encode_eq_make survive _ _ (small_of_encode survive written)] at written
    have short := Frame.exists_make_iff.1 ⟨frame, written⟩
    rwa [List.length_append, length_head] at short
  · intro short
    rw [encode_eq_make survive _ _ (by omega), Frame.exists_make_iff, List.length_append,
      length_head]
    exact short

end Writing

/--
A reply is read just when the number it announces is that of the documents behind it, and another
number is an error. The reply to a request with documents that survive can be written unless it is
too long; its bytes are one frame under every limit that they keep, and it is read as the reply with
these documents.
-/
theorem replies_count_documents :
    (∀ body reply, decode body = .ok reply ↔
      ∃ announced pieces, Spelled reply announced pieces body) ∧
    (∀ flags cursorId startingFrom (announced : Int32) rest pieces documents,
      Document.IsCut rest pieces documents → announced.toInt ≠ pieces.length →
        decode (head flags cursorId startingFrom announced ++ rest) =
          .error (.malformed (.documentCount announced pieces.length))) ∧
    ∀ documents responseTo replyId, (∀ document ∈ documents, document.Survives) →
      ((∃ frame, encode documents responseTo replyId = .ok frame) ↔
        Header.size + (20 + (Document.rowBytes documents).length) < Bytes.wordLimit) ∧
      ∀ frame, encode documents responseTo replyId = .ok frame →
        (∀ limit, frame.bytes.length ≤ limit → Frame.ofBytes frame.bytes limit = .ok frame) ∧
        frame.header.requestId = replyId ∧ frame.header.responseTo = responseTo ∧
        frame.header.opcode = 1 ∧ decode frame.body = .ok ⟨0, 0, 0, documents⟩ := by
  refine ⟨fun body reply => decode_eq_ok_iff, ?_, ?_⟩
  · intro flags cursorId startingFrom announced rest pieces documents cut other
    rw [decode_of_isCut cut, if_neg other]
  · intro documents responseTo replyId survive
    refine ⟨exists_encode_iff survive responseTo replyId, ?_⟩
    intro frame written
    have read := decode_of_encoded survive written
    rw [encode_eq_make survive _ _ (small_of_encode survive written)] at written
    rcases Frame.make_eq_ok_iff.1 written with
      ⟨length_eq, requestId_eq, responseTo_eq, opcode_eq, _⟩
    refine ⟨?_, requestId_eq, responseTo_eq, opcode_eq, read⟩
    intro limit size_le
    rw [Frame.length_bytes] at size_le
    exact Frame.ofBytes_eq_ok_iff.2 ⟨rfl, length_eq, size_le⟩

/-- Two documents, of which one is empty. -/
def pair : List Document := [[("a", .int32 1)], []]

theorem replies_count_documents_pair :
    (∀ document ∈ pair, document.Survives) ∧
      (∃ frame, encode pair 7 (-1) = .ok frame ∧
        Frame.ofBytes frame.bytes frame.bytes.length = .ok frame ∧
        frame.header.requestId = -1 ∧ frame.header.responseTo = 7 ∧
        decode frame.body = .ok ⟨0, 0, 0, pair⟩) ∧
      decode (head 0 0 0 (-2) ++ Document.rowBytes pair) =
        .error (.malformed (.documentCount (-2) 2)) := by
  have survive : ∀ document ∈ pair, document.Survives := by decide
  rcases replies_count_documents with ⟨_, miscounted, carried⟩
  refine ⟨survive, ?_, ?_⟩
  · rcases carried pair 7 (-1) survive with ⟨fits, comesBack⟩
    rcases fits.2 (by decide) with ⟨frame, written⟩
    rcases comesBack frame written with ⟨accepted, requestId_eq, responseTo_eq, _, read⟩
    exact ⟨frame, written, accepted _ (Nat.le_refl _), requestId_eq, responseTo_eq, read⟩
  · rcases Document.exists_isCut_of_row (Document.row_of_survives survive) with ⟨pieces, cut, sizes⟩
    have two : pieces.length = 2 := by
      simpa [pair] using congrArg List.length sizes
    have counted := miscounted 0 0 0 (-2) _ pieces _ cut (by rw [two]; decide)
    rwa [two] at counted

end LegacyReply

end DocumentProtocol
