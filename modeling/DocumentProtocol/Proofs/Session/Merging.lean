import DocumentProtocol.Proofs.Document.Cut
import DocumentProtocol.Proofs.Document.Size
import DocumentProtocol.Proofs.Session.Gate

/-!
# Queries merged from many bodies

The limit for documents is checked against each document as it was sent, and a handler is given what
the bodies of a message come to together. `Frame.HasBodies` says when a message has nothing but body
sections, and `Invocation.KeepsTo` what the limit for one document then means for the query: the
documents bring their fields into it and leave their frames behind, so that it can be as large as
all of them together, less five bytes for each but one.

This is as large as it gets as long as the documents are canonical. A document that is not can grow
when it is written again, by the digits of its indices, which `Document.growsTo_of_decode` bounds.
-/

namespace DocumentProtocol

variable {Backend : Type}

/-- Whether the body of a frame is a message of nothing but body sections, with some documents. -/
structure Frame.HasBodies (frame : Frame) (pieces : List Bytes) (documents : List Document) :
    Prop where
  opcode_eq : frame.header.opcode = Opcode.msg.code
  body_eq : ∃ flags trailer, frame.body =
      Bytes.ofUInt32 flags ++ (pieces.map (Section.bodyKind :: ·)).flatten ++ trailer ∧
    trailer.length = Message.trailerSize flags
  decoded : List.Forall₂ (fun piece document => Document.decode piece = .ok document)
    pieces documents

/-- What a limit for one document means for a call with a query that is merged from many. -/
structure Invocation.KeepsTo (call : Invocation Backend) (limit : Nat) (pieces : List Bytes)
    (documents : List Document) : Prop where
  query_eq : call.query = Document.merge documents
  piece_le : ∀ piece ∈ pieces, piece.length ≤ limit
  written : Document.encode call.query = .ok call.query.bytes
  /-- The documents leave their frames behind, five bytes each, for a single one. -/
  merged_le : call.query.bytes.length + 5 * documents.length ≤
    (documents.map fun document => document.bytes.length).sum + 5
  merged_eq : (documents.flatMap Document.keys).Nodup →
    call.query.bytes.length + 5 * documents.length =
      (documents.map fun document => document.bytes.length).sum + 5
  canonical_le : (∀ piece ∈ pieces, Document.IsCanonical piece) →
    call.query.bytes.length + 5 * pieces.length ≤ pieces.length * limit + 5
  /-- Names in arrays can become longer by the digits of half the limit. -/
  rewritten_le : ∀ digits, limit ≤ 2 * 10 ^ digits →
    2 * (call.query.bytes.length + 5 * pieces.length) ≤ (digits + 2) * (pieces.length * limit) + 10

/-! ### Reading the bodies -/

namespace Section

variable {pieces : List Bytes} {documents : List Document}

theorem exists_row_of_bodies
    (decoded : List.Forall₂ (fun piece document => Document.decode piece = .ok document)
      pieces documents) :
    ∃ blocks, Row (pieces.map (bodyKind :: ·)).flatten (blocks.map .body) ∧
      Block.documents blocks = documents ∧ blocks.map Block.size = pieces.map List.length := by
  induction decoded with
  | nil => exact ⟨[], .nil, rfl, rfl⟩
  | @cons piece document pieces documents first _ ih =>
      rcases ih with ⟨blocks, row, rfl, sizes⟩
      refine ⟨⟨document, piece.length⟩ :: blocks, .cons (.body first) row, rfl, ?_⟩
      rw [List.map_cons, List.map_cons, sizes]

theorem query_bodies (blocks : List Block) :
    Message.query (blocks.map .body) = Document.merge (Block.documents blocks) := by
  rw [Message.query, Document.merge, Block.documents, List.foldl_map, List.foldl_map]
  rfl

theorem largest_bodies (blocks : List Block) :
    ((blocks.map Section.body).map largest).foldl max 0 = (blocks.map Block.size).max?.getD 0 := by
  have sizes : (blocks.map Section.body).map largest = blocks.map Block.size := by
    rw [List.map_map]
    rfl
  rw [sizes, List.foldl_max, Nat.zero_max]

end Section

namespace Frame

variable {frame : Frame} {pieces : List Bytes} {documents : List Document}

/-- A message of bodies is read as the request with the merged query. -/
theorem HasBodies.exists_carries (bodies : frame.HasBodies pieces documents) :
    ∃ request, frame.Carries request ∧ request.query = Document.merge documents ∧
      request.info.largestDocument = Document.longestPiece pieces := by
  rcases bodies with ⟨opcode_eq, ⟨flags, trailer, body_eq, trailer_length⟩, decoded⟩
  rcases Section.exists_row_of_bodies decoded with ⟨blocks, row, rfl, sizes⟩
  have spelled : Message.Spelled flags (blocks.map .body) trailer frame.body :=
    ⟨⟨_, row, body_eq⟩, trailer_length⟩
  refine ⟨_, ⟨.msg, opcode_eq.symm, Message.decode_of_spelled spelled⟩,
    Section.query_bodies blocks, ?_⟩
  rw [Document.longestPiece, ← sizes]
  exact Section.largest_bodies blocks

/-- Each of the documents was read from one of the pieces. -/
theorem HasBodies.exists_piece (bodies : frame.HasBodies pieces documents) {document : Document}
    (mem : document ∈ documents) : ∃ piece ∈ pieces, Document.decode piece = .ok document := by
  have decoded := bodies.decoded
  clear bodies
  induction decoded with
  | nil => cases mem
  | cons first _ ih =>
      rcases List.mem_cons.1 mem with rfl | mem
      · exact ⟨_, List.mem_cons_self, first⟩
      · rcases ih mem with ⟨piece, piece_mem, decoded⟩
        exact ⟨piece, List.mem_cons_of_mem _ piece_mem, decoded⟩

theorem HasBodies.isPlain_merge (bodies : frame.HasBodies pieces documents) :
    (Document.merge documents).isPlain = true := by
  apply Document.isPlain_merge
  intro document mem
  rcases bodies.exists_piece mem with ⟨_, _, decoded⟩
  exact Document.isPlain_of_decode decoded

/-- Canonical documents are written again in as many bytes as they were sent in. -/
theorem HasBodies.sum_le {limit : Nat} (bodies : frame.HasBodies pieces documents)
    (within : ∀ piece ∈ pieces, piece.length ≤ limit)
    (canonical : ∀ piece ∈ pieces, Document.IsCanonical piece) :
    (documents.map fun document => document.bytes.length).sum ≤ pieces.length * limit := by
  rw [bodies.decoded.length_eq, ← smul_eq_mul,
    ← List.length_map fun document : Document => document.bytes.length]
  apply List.sum_le_card_nsmul
  rw [List.forall_mem_map]
  intro document mem
  rcases bodies.exists_piece mem with ⟨piece, piece_mem, decoded⟩
  rw [(Document.bytes_eq_iff_isCanonical decoded).2 (canonical piece piece_mem)]
  exact within piece piece_mem

theorem HasBodies.growsTo_sum {limit digits : Nat} (bodies : frame.HasBodies pieces documents)
    (within : ∀ piece ∈ pieces, piece.length ≤ limit) (few : limit ≤ 2 * 10 ^ digits) :
    GrowsTo digits (pieces.length * limit)
      (documents.map fun document => document.bytes.length).sum := by
  rw [bodies.decoded.length_eq, ← List.length_map fun document : Document => document.bytes.length]
  apply GrowsTo.sum
  rw [List.forall_mem_map]
  intro document mem
  rcases bodies.exists_piece mem with ⟨piece, piece_mem, decoded⟩
  have piece_le := within piece piece_mem
  exact (Document.growsTo_of_decode decoded (piece_le.trans few)).mono piece_le (Nat.le_refl _)

end Frame

namespace Service

/-- The handlers that are called when a frame is answered. -/
def callsFor (service : Service Backend) (frame : Frame) (shared : SharedState Backend) :
    List (Invocation Backend) :=
  (service.recording.answer frame.header frame.body (shared.withLog [])).2.backend.log

variable {service : Service Backend} {frame : Frame} {pieces : List Bytes}
  {documents : List Document}

theorem keepsTo_of_within {limit : Nat} (bodies : frame.HasBodies pieces documents)
    {call : Invocation Backend} (query_eq : call.query = Document.merge documents)
    (within : ∀ piece ∈ pieces, piece.length ≤ limit) :
    call.KeepsTo limit pieces documents := by
  have merged_le := Document.length_bytes_merge_le documents
  have count := bodies.decoded.length_eq
  rw [← query_eq] at merged_le
  refine
    { query_eq := query_eq
      piece_le := within
      written := ?_
      merged_le := merged_le
      merged_eq := ?_
      canonical_le := ?_
      rewritten_le := ?_ }
  · rw [query_eq]
    exact Document.encode_of_isPlain bodies.isPlain_merge
  · intro distinct
    rw [query_eq]
    exact Document.length_bytes_merge_of_nodup distinct
  · intro canonical
    have sum_le := bodies.sum_le within canonical
    omega
  · intro digits few
    have grows := bodies.growsTo_sum within few
    rw [GrowsTo] at grows
    omega

/-- A handler is called for a message of bodies that keep the limit, if it accepts their merge. -/
theorem exists_call_of_bodies (bodies : frame.HasBodies pieces documents)
    (within : Document.longestPiece pieces ≤ service.maxDocumentSize)
    {responder : Responder Backend}
    (first : service.registry.IsFirst (Document.merge documents) responder)
    (shared : SharedState Backend) :
    ∃ call, service.callsFor frame shared = [call] ∧ call.query = Document.merge documents := by
  rcases bodies.exists_carries with ⟨request, carries, query_eq, largest_eq⟩
  rw [← largest_eq] at within
  rw [← query_eq] at first
  exact ⟨_, log_answer carries (.once within first) [], query_eq⟩

/--
Every handler that is called for a message of bodies is given the merge of their documents. Each of
these keeps the limit as it was sent; the query can be written, and is as large as they are together
at most, without the frames of all but one. For canonical documents this is the limit for each of
them, and otherwise each can have grown by its names in arrays.
-/
theorem merged_queries_are_bounded (service : Service Backend) (frame : Frame)
    (pieces : List Bytes) (documents : List Document) (bodies : frame.HasBodies pieces documents)
    (shared : SharedState Backend) :
    ∀ call ∈ service.callsFor frame shared,
      call.KeepsTo service.maxDocumentSize pieces documents := by
  rcases bodies.exists_carries with ⟨request, carries, query_eq, largest_eq⟩
  rcases service.exists_calls request shared.backend with ⟨calls, called⟩
  rw [callsFor, log_answer carries called, List.nil_append]
  intro call mem
  cases called with
  | tooLarge above => cases mem
  | unmatched within none => cases mem
  | once within first =>
      rw [largest_eq, Document.longestPiece_le_iff] at within
      rw [List.mem_singleton] at mem
      subst mem
      exact keepsTo_of_within bodies query_eq within

theorem isFirst_limitedTo (limit : Nat) (query : Document) :
    (limitedTo limit).registry.IsFirst query ⟨"any", Predicate.any, Registry.always []⟩ :=
  ⟨rfl, [], [], rfl, nofun⟩

/-- A message with two bodies of twelve bytes each. -/
def twins : Frame where
  header := ⟨46, 5, 0, 2013⟩
  body := [0, 0, 0, 0,
    0, 12, 0, 0, 0, 0x10, 0x61, 0, 1, 0, 0, 0, 0,
    0, 12, 0, 0, 0, 0x10, 0x62, 0, 1, 0, 0, 0, 0]

def twinDocuments : List Document := [[("a", .int32 1)], [("b", .int32 1)]]

theorem hasBodies_twins : twins.HasBodies (twinDocuments.map Document.bytes) twinDocuments where
  opcode_eq := by decide
  body_eq := ⟨0, [], by cbv, by decide⟩
  decoded := .cons (Document.Survives.decode_eq (by decide))
    (.cons (Document.Survives.decode_eq (by decide)) .nil)

/-- A body of seventeen bytes: an array with two items that have no names. -/
def nameless : Bytes := [17, 0, 0, 0, 0x04, 0x61, 0, 9, 0, 0, 0, 0x0A, 0, 0x0A, 0, 0, 0]

def crowded : Frame where
  header := ⟨38, 5, 0, 2013⟩
  body := [0, 0, 0, 0, 0] ++ nameless

theorem decode_nameless : Document.decode nameless = .ok [("a", .array [.null, .null])] := by
  have list : Element.next? (nameless.drop 4) =
      some (⟨.array, "a", (nameless.drop 7).take 9⟩, [0]) := by cbv
  have first : Element.next? [0x0A, 0, 0x0A, 0, 0] =
      some (⟨.null, "", []⟩, [0x0A, 0, 0]) := by cbv
  have second : Element.next? [0x0A, 0, 0] = some (⟨.null, "", []⟩, [0]) := by cbv
  have item_read : Value.ofPayload? .null [] = some .null :=
    (Value.ofPayload?_leaf _ (by decide) (by decide) (by decide)).trans rfl
  have list_read : Value.ofPayload? .array ((nameless.drop 7).take 9) =
      some (.array [.null, .null]) := by
    have inner : Document.contents? ((nameless.drop 7).take 9) =
        some [0x0A, 0, 0x0A, 0, 0] := by cbv
    rw [Value.ofPayload?_array, inner, Option.bind_some, Value.readItems?_cons first, item_read,
      Option.bind_some, Value.readItems?_cons second, item_read, Option.bind_some,
      Value.readItems?_closing]
    rfl
  have outer : Document.contents? nameless = some (nameless.drop 4) := by cbv
  rw [Document.decode_eq_ok_iff, Document.decodeExact?, outer, Option.bind_some,
    Value.readFields?_cons list (by cbv), list_read, Option.bind_some, Value.readFields?_closing]
  exact ⟨by cbv, by cbv⟩

theorem hasBodies_crowded : crowded.HasBodies [nameless] [[("a", .array [.null, .null])]] where
  opcode_eq := by decide
  body_eq := ⟨0, [], by cbv, by decide⟩
  decoded := .cons decode_nameless .nil

/--
Two canonical bodies that keep the limit come to a query that does not, and so does a single body
with an array whose items have no names.
-/
theorem merged_query_exceeds_limit :
    (twins.HasBodies (twinDocuments.map Document.bytes) twinDocuments ∧
      ∀ shared, ∃ call written, (limitedTo 12).callsFor twins shared = [call] ∧
        Document.encode call.query = .ok written ∧
        (limitedTo 12).maxDocumentSize < written.length) ∧
    (crowded.HasBodies [nameless] [[("a", .array [.null, .null])]] ∧
      ∀ shared, ∃ call written, (limitedTo 17).callsFor crowded shared = [call] ∧
        Document.encode call.query = .ok written ∧
        (limitedTo 17).maxDocumentSize < written.length) := by
  refine ⟨⟨hasBodies_twins, ?_⟩, hasBodies_crowded, ?_⟩
  · intro shared
    have plain := hasBodies_twins.isPlain_merge
    rcases exists_call_of_bodies hasBodies_twins (by decide) (isFirst_limitedTo 12 _) shared with
      ⟨call, log_eq, query_eq⟩
    rw [← query_eq] at plain
    refine ⟨call, call.query.bytes, log_eq, Document.encode_of_isPlain plain, ?_⟩
    rw [query_eq]
    decide
  · intro shared
    have plain := hasBodies_crowded.isPlain_merge
    rcases exists_call_of_bodies hasBodies_crowded (by decide) (isFirst_limitedTo 17 _) shared with
      ⟨call, log_eq, query_eq⟩
    rw [← query_eq] at plain
    refine ⟨call, call.query.bytes, log_eq, Document.encode_of_isPlain plain, ?_⟩
    rw [query_eq]
    decide

/-- The query of the twins is as large as two canonical bodies of twelve bytes can make it. -/
theorem merged_queries_are_bounded_twins :
    twins.HasBodies (twinDocuments.map Document.bytes) twinDocuments ∧
      (∀ piece ∈ twinDocuments.map Document.bytes, Document.IsCanonical piece) ∧
      ∀ shared, ∃ call, (limitedTo 12).callsFor twins shared = [call] ∧
        call.KeepsTo 12 (twinDocuments.map Document.bytes) twinDocuments ∧
        call.query.bytes.length + 5 * 2 = 2 * 12 + 5 := by
  have survive : ∀ document ∈ twinDocuments, document.Survives := by decide
  refine ⟨hasBodies_twins, ?_, ?_⟩
  · rw [List.forall_mem_map]
    intro document mem
    exact (survive document mem).isCanonical
  · intro shared
    rcases exists_call_of_bodies hasBodies_twins (by decide) (isFirst_limitedTo 12 _) shared with
      ⟨call, log_eq, query_eq⟩
    have keeps := merged_queries_are_bounded (limitedTo 12) twins _ _ hasBodies_twins shared call
    rw [log_eq] at keeps
    have keeps := keeps List.mem_cons_self
    refine ⟨call, log_eq, keeps, ?_⟩
    exact keeps.merged_eq (by decide)

end Service

end DocumentProtocol
