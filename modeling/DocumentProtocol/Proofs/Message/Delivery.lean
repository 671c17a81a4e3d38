import DocumentProtocol.Proofs.Message.Layout

/-!
# The documents that a request delivers

`Operation.Delivers` names the documents of a body, each beside the number of bytes that it takes
there: the document of a query, the documents of an insert, and those of all sections of a message,
alone or in a sequence.

The three readers keep the size of the largest document each in its own way. The main statement is
that it is the largest of the sizes of the documents delivered, so that what is kept of the sizes is
enough to tell whether one of them is above a limit.
-/

namespace DocumentProtocol

namespace Block

variable {blocks : List Block} {limit : Nat}

theorem foldl_max_le_iff (least : Nat) :
    blocks.foldl (fun size block => max size block.size) least ≤ limit ↔
      least ≤ limit ∧ ∀ block ∈ blocks, block.size ≤ limit := by
  induction blocks generalizing least with
  | nil => simp
  | cons first others ih => simp [ih, and_assoc]

theorem largest_le_iff : largest blocks ≤ limit ↔ ∀ block ∈ blocks, block.size ≤ limit := by
  simp [largest, foldl_max_le_iff]

theorem lt_largest_iff : limit < largest blocks ↔ ∃ block ∈ blocks, limit < block.size := by
  rw [← Nat.not_le, largest_le_iff]
  simp

/-- Whether a block stands somewhere in some bytes, as many of them as its size says. -/
def Occupies (block : Block) (bytes : Bytes) : Prop :=
  ∃ front own behind, bytes = front ++ own ++ behind ∧ Document.decode own = .ok block.document ∧
    own.length = block.size

theorem Occupies.append {block : Block} {bytes : Bytes} (occupies : block.Occupies bytes)
    (before after : Bytes) : block.Occupies (before ++ bytes ++ after) := by
  rcases occupies with ⟨front, own, behind, rfl, decoded, size_eq⟩
  exact ⟨before ++ front, own, behind ++ after, by simp, decoded, size_eq⟩

/-- No document on the wire is as long as the longest message. -/
theorem Occupies.size_lt {block : Block} {bytes : Bytes} (occupies : block.Occupies bytes) :
    block.size < Bytes.wordLimit := by
  rcases occupies with ⟨_, own, _, _, decoded, size_eq⟩
  rw [← size_eq]
  exact Document.length_lt_of_decode decoded

theorem Row.occupies {bytes : Bytes} (row : Row bytes blocks) :
    ∀ block ∈ blocks, block.Occupies bytes := by
  induction row with
  | nil => simp
  | @cons own rest document blocks decoded row ih =>
      intro block mem
      rcases List.mem_cons.1 mem with rfl | mem
      · exact ⟨[], own, rest, rfl, decoded, rfl⟩
      · have inside := (ih block mem).append own []
        rwa [List.append_nil] at inside

end Block

namespace Section

theorem Spelled.occupies {written : Section} {bytes : Bytes} (spelled : Spelled written bytes) :
    ∀ block ∈ written.blocks, block.Occupies bytes := by
  intro block mem
  cases spelled with
  | @body own document decoded =>
      rcases List.mem_singleton.1 mem with rfl
      exact ⟨[bodyKind], own, [], by simp, decoded, rfl⟩
  | @sequence size identifier bytes blocks size_eq free row =>
      have inside := (row.occupies block mem).append
        (sequenceKind :: (Bytes.ofInt32 size ++ Text.terminated identifier)) []
      simpa using inside

theorem Row.occupies {bytes : Bytes} {sections : List Section} (row : Row bytes sections) :
    ∀ block ∈ sections.flatMap blocks, block.Occupies bytes := by
  induction row with
  | nil => simp
  | @cons front rest first others spelled row ih =>
      intro block mem
      rw [List.flatMap_cons, List.mem_append] at mem
      rcases mem with mem | mem
      · exact (spelled.occupies block mem).append [] rest
      · have inside := (ih block mem).append front []
        rwa [List.append_nil] at inside

end Section

namespace Operation

/-- The documents of a body in some layout, in their order, each beside its size. -/
inductive Delivers (body : Bytes) : Operation → List Block → Prop where
  | query {flags : UInt32} {collection : String} {skip limit : Int32} {block : Block}
      (spelled : Query.Spelled flags collection skip limit block body) :
      Delivers body .query [block]
  | msg {flags : UInt32} {sections : List Section} {trailer : Bytes}
      (spelled : Message.Spelled flags sections trailer body) :
      Delivers body .msg (sections.flatMap Section.blocks)
  | insert {flags : UInt32} {collection : String} {first : Block} {others : List Block}
      (spelled : Insert.Spelled flags collection (first :: others) body) :
      Delivers body .insert (first :: others)

variable {operation : Operation} {requestId : Int32} {body : Bytes} {request : Request}
  {blocks : List Block}

theorem exists_delivers (decoded : operation.decode requestId body = .ok request) :
    ∃ blocks, operation.Delivers body blocks := by
  cases operation with
  | query =>
      rcases Query.decode_eq_ok_iff.1 decoded with ⟨_, _, _, _, block, spelled, _⟩
      exact ⟨[block], .query spelled⟩
  | msg =>
      rcases Message.spelled_of_decode decoded with ⟨_, sections, _, spelled, _⟩
      exact ⟨sections.flatMap Section.blocks, .msg spelled⟩
  | insert =>
      rcases Insert.decode_eq_ok_iff.1 decoded with ⟨_, _, first, others, spelled, _⟩
      exact ⟨first :: others, .insert spelled⟩

/-- A legacy request has the first of its documents as the query, and takes the others along. -/
theorem exists_first_of_decode (decoded : operation.decode requestId body = .ok request)
    (legacy : operation ≠ .msg) :
    ∃ first others, operation.Delivers body (first :: others) ∧ request.query = first.document ∧
      request.info.extraDocuments = Block.documents others := by
  cases operation with
  | query =>
      rcases Query.decode_eq_ok_iff.1 decoded with ⟨_, _, _, _, block, spelled, rfl⟩
      exact ⟨block, [], .query spelled, rfl, rfl⟩
  | msg => exact absurd rfl legacy
  | insert =>
      rcases Insert.decode_eq_ok_iff.1 decoded with ⟨_, _, first, others, spelled, rfl⟩
      exact ⟨first, others, .insert spelled, rfl, rfl⟩

namespace Delivers

/-- The size that a reader keeps is the largest of those that the body delivers. -/
theorem largest_eq (delivers : operation.Delivers body blocks)
    (decoded : operation.decode requestId body = .ok request) :
    request.info.largestDocument = Block.largest blocks := by
  cases delivers with
  | query spelled =>
      cases decoded.symm.trans (Query.decode_of_spelled _ spelled)
      simp [Query.requestOf, Block.largest]
  | msg spelled =>
      cases decoded.symm.trans (Message.decode_of_spelled spelled)
      rw [Message.requestOf, Section.foldl_max_largest, List.foldl_map, Block.largest]
  | insert spelled =>
      cases decoded.symm.trans (Insert.decode_of_spelled _ spelled)
      rfl

theorem occupies (delivers : operation.Delivers body blocks) :
    ∀ block ∈ blocks, block.Occupies body := by
  intro block mem
  cases delivers with
  | query spelled =>
      rcases List.mem_singleton.1 mem with rfl
      rcases spelled.bytes_eq with ⟨own, rest, decoded, size_eq, rfl⟩
      have alone : block.Occupies own := ⟨[], own, [], by simp, decoded, size_eq⟩
      simpa using alone.append (Bytes.ofUInt32 _ ++ Text.terminated _ ++ Bytes.ofInt32 _ ++
        Bytes.ofInt32 _) rest
  | msg spelled =>
      rcases spelled.bytes_eq with ⟨bytes, row, rfl⟩
      exact (row.occupies block mem).append _ _
  | insert spelled =>
      rcases spelled.bytes_eq with ⟨bytes, row, rfl⟩
      simpa using (row.occupies block mem).append (Bytes.ofUInt32 _ ++ Text.terminated _) []

end Delivers

end Operation

end DocumentProtocol
