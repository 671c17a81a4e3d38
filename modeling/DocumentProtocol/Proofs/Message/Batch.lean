import DocumentProtocol.Proofs.Document.Canonical
import DocumentProtocol.Proofs.Document.Cut
import DocumentProtocol.Proofs.Message.Naming

/-!
# Batches

A legacy insert carries a batch of documents, and nobody is told what became of it. So its reader
has to account for every byte: `Insert.Holds` says that a body is the fields of a request and the
pieces of its documents, in order and with nothing between or behind them.

The main statement has three parts. A batch of documents that survive comes back from its body. A
body that was accepted is written again from its request just when each piece is what is written of
its document, `Insert.IsTidy`; the pieces are found again because a piece that is written carries
its own length. And two tidy bodies of one request are the same.
-/

namespace DocumentProtocol

/-! ### Pieces that are written -/

namespace Document

/-- Whether some pieces are what is written of some documents, one by one. -/
def AreWritten (documents : List Document) (pieces : List Bytes) : Prop :=
  List.Forall₂ (fun document piece => encode document = .ok piece) documents pieces

variable {bytes : Bytes} {pieces : List Bytes} {documents : List Document}

theorem encodeAll_of_areWritten (written : AreWritten documents pieces) :
    encodeAll documents = .ok pieces.flatten := by
  induction written with
  | nil => rfl
  | cons first _ ih =>
      rw [encodeAll, first, ih]
      rfl

/-- Where documents are written and others can be cut, the pieces of the cut are what is written. -/
theorem areWritten_of_flatten_eq
    (decoded : List.Forall₂ (fun piece document => decode piece = .ok document) pieces documents)
    (written : ∀ document ∈ documents, encode document = .ok document.bytes)
    (small : (rowBytes documents).length < Bytes.wordLimit)
    (same : rowBytes documents = pieces.flatten) : AreWritten documents pieces := by
  induction decoded with
  | nil => exact .nil
  | @cons own document pieces documents read _ ih =>
      have split : rowBytes (document :: documents) = document.bytes ++ rowBytes documents := by
        simp [rowBytes]
      rw [split, List.length_append] at small
      rw [split, List.flatten_cons] at same
      -- What is written begins with its own size, so the first piece ends where it was written to.
      rcases eq_of_append (by omega) read same with ⟨own_eq, rest_eq⟩
      apply List.Forall₂.cons
      · rw [← own_eq]
        exact written document List.mem_cons_self
      · apply ih
        · intro other mem
          exact written other (List.mem_cons_of_mem _ mem)
        · omega
        · exact rest_eq

/-- The documents of a cut are written as its bytes just when each is written as its piece. -/
theorem IsCut.encodeAll_eq_ok_iff (cut : IsCut bytes pieces documents)
    (small : bytes.length < Bytes.wordLimit) :
    encodeAll documents = .ok bytes ↔ AreWritten documents pieces := by
  constructor
  · intro written
    rcases encodeAll_eq_ok written with ⟨rfl, each⟩
    exact areWritten_of_flatten_eq cut.decoded each small cut.flatten_eq.symm
  · intro written
    rw [encodeAll_of_areWritten written, cut.flatten_eq]

end Document

/-- The documents of a request in their order, the query first. -/
def Request.batch (request : Request) : List Document :=
  request.query :: request.info.extraDocuments

namespace Insert

/-! ### What a body holds -/

/-- The body of an insert with some fields and the pieces of its documents. -/
def pieced (flags : UInt32) (collection : String) (pieces : List Bytes) : Bytes :=
  Bytes.ofUInt32 flags ++ Text.terminated collection ++ pieces.flatten

/-- Whether a body is the fields of a request and the pieces of its documents. -/
structure Holds (request : Request) (collection : String) (pieces : List Bytes) (body : Bytes) :
    Prop where
  collection_eq : request.info.collection = some collection
  body_eq : body = pieced request.info.flags collection pieces
  cut : Document.IsCut pieces.flatten pieces request.batch

/-- Whether each document of a request stands in a body as it is written. -/
def IsTidy (request : Request) (body : Bytes) : Prop :=
  ∀ collection pieces, Holds request collection pieces body →
    Document.AreWritten request.batch pieces

/-- Whether writing the fields and the documents of a request gives a body. -/
def IsRestored (sentId : Int32) (request : Request) (body : Bytes) : Prop :=
  ∃ collection frame, request.info.collection = some collection ∧
    encode sentId request.info.flags collection request.batch = .ok frame ∧ frame.body = body

section Holding

variable {requestId sentId : Int32} {request : Request} {collection : String}
  {pieces : List Bytes} {body : Bytes}

theorem exists_holds_of_decode (decoded : decode requestId body = .ok request) :
    ∃ collection pieces, Holds request collection pieces body := by
  rcases decode_eq_ok_iff.1 decoded with ⟨flags, collection, first, others, spelled, rfl⟩
  rcases spelled.bytes_eq with ⟨bytes, row, rfl⟩
  rcases Document.exists_isCut_of_row row with ⟨pieces, cut, _⟩
  have flatten_eq := cut.flatten_eq
  subst flatten_eq
  exact ⟨collection, pieces, rfl, by simp [pieced, requestOf], cut⟩

/-- A body holds the documents of its request in one way. -/
theorem Holds.unique {otherCollection : String} {others : List Bytes}
    (first : Holds request collection pieces body)
    (second : Holds request otherCollection others body) :
    collection = otherCollection ∧ pieces = others := by
  have named : collection = otherCollection := by
    apply Option.some.inj
    rw [← first.collection_eq, second.collection_eq]
  subst named
  have same : pieces.flatten = others.flatten := by
    apply List.append_cancel_left
    exact first.body_eq.symm.trans second.body_eq
  have cut := second.cut
  rw [← same] at cut
  exact ⟨rfl, (first.cut.unique cut).1⟩

theorem Holds.isTidy_iff (holds : Holds request collection pieces body) :
    IsTidy request body ↔ Document.AreWritten request.batch pieces := by
  constructor
  · intro tidy
    exact tidy collection pieces holds
  · intro written other others found
    rw [← (holds.unique found).2]
    exact written

/-- The body of a tidy request is determined by the request. -/
theorem Holds.eq_of_isTidy {other : Bytes} {otherCollection : String} {others : List Bytes}
    (first : Holds request collection pieces body)
    (second : Holds request otherCollection others other)
    (tidy : IsTidy request body) (otherTidy : IsTidy request other) : body = other := by
  have written := Document.encodeAll_of_areWritten (first.isTidy_iff.1 tidy)
  rw [Document.encodeAll_of_areWritten (second.isTidy_iff.1 otherTidy)] at written
  have named := second.collection_eq
  rw [first.collection_eq] at named
  rw [first.body_eq, second.body_eq, pieced, pieced, Except.ok.inj written, Option.some.inj named]

/-! ### Writing a body again -/

theorem Holds.isRestored_iff (holds : Holds request collection pieces body)
    (small : Header.size + body.length < Bytes.wordLimit) :
    IsRestored sentId request body ↔ Document.encodeAll request.batch = .ok pieces.flatten := by
  constructor
  · rintro ⟨other, frame, other_eq, written, body_eq⟩
    have named := holds.collection_eq
    rw [other_eq] at named
    cases named
    rcases encode_eq_ok_iff.1 written with ⟨bytes, bytes_eq, made⟩
    have made_eq := (Frame.make_eq_ok_iff.1 made).2.2.2.2
    rw [body_eq, holds.body_eq] at made_eq
    rw [bytes_eq, List.append_cancel_left made_eq]
  · intro written
    have fits : ∃ frame, Frame.make sentId 0 Opcode.insert.code body = .ok frame :=
      Frame.exists_make_iff.2 small
    rcases fits with ⟨frame, made⟩
    refine ⟨collection, frame, holds.collection_eq, ?_, (Frame.make_eq_ok_iff.1 made).2.2.2.2⟩
    rw [holds.body_eq] at made
    exact encode_eq_ok_iff.2 ⟨_, written, made⟩

theorem isRestored_iff_isTidy (decoded : decode requestId body = .ok request)
    (small : Header.size + body.length < Bytes.wordLimit) :
    IsRestored sentId request body ↔ IsTidy request body := by
  rcases exists_holds_of_decode decoded with ⟨collection, pieces, holds⟩
  have inside : pieces.flatten.length < Bytes.wordLimit := by
    have length := congrArg List.length holds.body_eq
    simp only [pieced, List.length_append] at length
    omega
  rw [holds.isRestored_iff small, holds.isTidy_iff, holds.cut.encodeAll_eq_ok_iff inside]

end Holding

theorem exists_encode_iff {sentId : Int32} {flags : UInt32} {collection : String}
    {documents : List Document} (survive : ∀ document ∈ documents, document.Survives) :
    (∃ frame, encode sentId flags collection documents = .ok frame) ↔
      Header.size + (4 + ((Text.encode collection).length + 1) +
        (Document.rowBytes documents).length) < Bytes.wordLimit := by
  simp only [encode_eq_ok_iff, Document.encodeAll_of_survives survive, Except.ok.injEq,
    exists_eq_left', Frame.exists_make_iff, List.length_append, Bytes.length_ofUInt32,
    Text.length_terminated]

/--
Batches come back: what was written of documents that survive is read as these documents in their
order. What was read can be written again as it was just when it is tidy, and a request has only one
tidy body.
-/
theorem batches_come_back (requestId sentId : Int32) :
    (∀ flags collection first others, Text.holdsZero collection = false →
      (∀ document ∈ first :: others, document.Survives) →
      ((∃ frame, encode sentId flags collection (first :: others) = .ok frame) ↔
        Header.size + (4 + ((Text.encode collection).length + 1) +
          (Document.rowBytes (first :: others)).length) < Bytes.wordLimit) ∧
      ∀ frame, encode sentId flags collection (first :: others) = .ok frame →
        ∃ request, decode requestId frame.body = .ok request ∧ request.info.flags = flags ∧
          request.info.collection = some collection ∧ request.query = first ∧
          request.info.extraDocuments = others) ∧
    (∀ body request, decode requestId body = .ok request →
      (∃ collection pieces, Holds request collection pieces body) ∧
      (Header.size + body.length < Bytes.wordLimit →
        (IsRestored sentId request body ↔ IsTidy request body))) ∧
    ∀ body other request, decode requestId body = .ok request →
      decode requestId other = .ok request → IsTidy request body → IsTidy request other →
      body = other := by
  refine ⟨?_, ?_, ?_⟩
  · intro flags collection first others free survive
    refine ⟨exists_encode_iff survive, ?_⟩
    intro frame written
    simp only [encode, Except.bind_eq_ok_iff] at written
    rcases written with ⟨bytes, body_eq, made⟩
    rw [(Frame.make_eq_ok_iff.1 made).2.2.2.2]
    exact ⟨_, decode_of_body requestId free survive body_eq, rfl, rfl, rfl, rfl⟩
  · intro body request decoded
    exact ⟨exists_holds_of_decode decoded, isRestored_iff_isTidy decoded⟩
  · intro body other request decoded otherDecoded tidy otherTidy
    rcases exists_holds_of_decode decoded with ⟨_, _, first⟩
    rcases exists_holds_of_decode otherDecoded with ⟨_, _, second⟩
    exact first.eq_of_isTidy second tidy otherTidy

def tidyBatch : List Document := [[], Document.tidied]

/-- The same batch, whose second document stands in its body as nobody writes it. -/
def untidyPieces : List Bytes := [[5, 0, 0, 0, 0], Document.untidy]

theorem batches_come_back_untidy :
    Text.holdsZero "t.c" = false ∧
      (∀ document ∈ tidyBatch, document.Survives) ∧
      (∃ frame request, encode 1 1 "t.c" tidyBatch = .ok frame ∧
        decode 7 frame.body = .ok request ∧ request.batch = tidyBatch ∧
        IsTidy request frame.body ∧
        ∀ body, decode 7 body = .ok request → IsTidy request body → body = frame.body) ∧
      ∃ request, decode 7 (pieced 1 "t.c" untidyPieces) = .ok request ∧
        request.batch = tidyBatch ∧
        ¬IsRestored 1 request (pieced 1 "t.c" untidyPieces) := by
  have free : Text.holdsZero "t.c" = false := by decide
  have survive : ∀ document ∈ tidyBatch, document.Survives := by
    have empty : Document.Survives [] := by decide
    have tidied : Document.tidied.Survives :=
      Document.survives_iff.2 ⟨Document.isPlain_of_decode Document.decode_untidy, by cbv⟩
    simp [tidyBatch, empty, tidied]
  rcases batches_come_back 7 1 with ⟨comesBack, restored, unique⟩
  refine ⟨free, survive, ?_, ?_⟩
  · rcases comesBack 1 "t.c" [] [Document.tidied] free survive with ⟨fits, reads⟩
    rcases fits.2 (by cbv) with ⟨frame, written⟩
    rcases reads frame written with ⟨request, decoded, flags_eq, collection_eq, query_eq, others_eq⟩
    have batch_eq : request.batch = tidyBatch := by
      rw [Request.batch, query_eq, others_eq, tidyBatch]
    have small : Header.size + frame.body.length < Bytes.wordLimit := by
      rcases encode_eq_ok_iff.1 written with ⟨bytes, _, made⟩
      rw [(Frame.make_eq_ok_iff.1 made).2.2.2.2]
      exact Frame.exists_make_iff.1 ⟨frame, made⟩
    have tidy : IsTidy request frame.body := by
      apply ((restored frame.body request decoded).2 small).1
      refine ⟨"t.c", frame, collection_eq, ?_, rfl⟩
      rw [flags_eq, batch_eq]
      exact written
    refine ⟨frame, request, written, decoded, batch_eq, tidy, ?_⟩
    intro body bodyDecoded bodyTidy
    exact unique body frame.body request bodyDecoded decoded bodyTidy tidy
  · have empty : Document.decode [5, 0, 0, 0, 0] = .ok [] := Forged.decode_empty
    have row : Block.Row untidyPieces.flatten [⟨[], 5⟩, ⟨Document.tidied, 28⟩] :=
      .cons empty (.cons Document.decode_untidy .nil)
    have spelled : Spelled 1 "t.c" [⟨[], 5⟩, ⟨Document.tidied, 28⟩] (pieced 1 "t.c" untidyPieces) :=
      ⟨free, _, row, by simp [pieced]⟩
    have decoded := decode_of_spelled 7 spelled
    refine ⟨_, decoded, rfl, ?_⟩
    rw [(restored _ _ decoded).2 (by decide)]
    intro tidy
    have cut : Document.IsCut untidyPieces.flatten untidyPieces tidyBatch :=
      ⟨rfl, by decide, .cons empty (.cons Document.decode_untidy .nil)⟩
    have written := tidy "t.c" untidyPieces ⟨rfl, rfl, cut⟩
    cases written with
    | cons _ written =>
        cases written with
        | cons second _ =>
            have shorter : Document.tidied.bytes.length ≠ Document.untidy.length := by cbv
            exact shorter (congrArg List.length (Document.eq_bytes_of_encode second)).symm

end Insert

end DocumentProtocol
