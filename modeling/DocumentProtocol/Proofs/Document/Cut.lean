import DocumentProtocol.Proofs.Document.Survival

/-!
# One cut for each row

The reader of a run of documents goes from one announced length to the next. `Document.IsCut` says
without following it what it looks for: some pieces that are the bytes when they are put together,
of which each carries its own length in front and is accepted as a document.

The main statement is that the reader accepts just the bytes that can be cut like this, that there
is never more than one cut, and that the bytes of documents that survive are cut where they were put
together.
-/

namespace DocumentProtocol

namespace Block

theorem largest_eq_max? (blocks : List Block) :
    largest blocks = (blocks.map size).max?.getD 0 := by
  have sizes : largest blocks = (blocks.map size).foldl max 0 := by
    rw [List.foldl_map]
    rfl
  rw [sizes, List.foldl_max, Nat.zero_max]

end Block

namespace Document

/-- Whether some bytes are cut into pieces that are accepted as some documents, one by one. -/
structure IsCut (bytes : Bytes) (pieces : List Bytes) (documents : List Document) : Prop where
  flatten_eq : pieces.flatten = bytes
  /-- Each piece begins with its own length. -/
  length_eq : ∀ piece ∈ pieces, (Bytes.toInt32 (piece.take 4)).toInt = piece.length
  decoded : List.Forall₂ (fun piece document => decode piece = .ok document) pieces documents

/-- The documents that fill all of some bytes, and the size of the largest of them. -/
def decodeAllSized (bytes : Bytes) : Except ProtocolError (List Document × Nat) :=
  (decodeAll bytes).map fun blocks => (Block.documents blocks, Block.largest blocks)

/-- The size of the longest of some pieces, zero if there is none. -/
def longestPiece (pieces : List Bytes) : Nat := (pieces.map List.length).max?.getD 0

theorem longestPiece_le_iff {pieces : List Bytes} {limit : Nat} :
    longestPiece pieces ≤ limit ↔ ∀ piece ∈ pieces, piece.length ≤ limit := by
  rw [longestPiece, ← List.forall_mem_map (P := fun size => size ≤ limit)]
  cases longest : (pieces.map List.length).max? with
  | none => simp [List.max?_eq_none_iff.1 longest]
  | some size => exact List.max?_le_iff longest

variable {bytes : Bytes} {pieces : List Bytes} {documents : List Document} {blocks : List Block}

theorem exists_isCut_of_row (row : Block.Row bytes blocks) :
    ∃ pieces, IsCut bytes pieces (Block.documents blocks) ∧
      pieces.map List.length = blocks.map Block.size := by
  induction row with
  | nil => exact ⟨[], ⟨rfl, nofun, .nil⟩, rfl⟩
  | @cons own rest document blocks decoded row ih =>
      rcases ih with ⟨pieces, ⟨rfl, lengths, others⟩, sizes⟩
      have length_eq := (announcedSize_eq_ok_iff.1 (announcedSize_of_decode decoded)).1
      refine ⟨own :: pieces, ⟨rfl, ?_, .cons decoded others⟩, ?_⟩
      · exact List.forall_mem_cons.2 ⟨length_eq, lengths⟩
      · rw [List.map_cons, List.map_cons, sizes]

/-- The pieces of a cut stand in a row, each beside its length. -/
theorem IsCut.exists_row (cut : IsCut bytes pieces documents) :
    ∃ blocks, Block.Row bytes blocks ∧ Block.documents blocks = documents ∧
      pieces.map List.length = blocks.map Block.size := by
  rcases cut with ⟨rfl, lengths, decoded⟩
  clear lengths
  induction decoded with
  | nil => exact ⟨[], .nil, rfl, rfl⟩
  | @cons own document pieces documents first _ ih =>
      rcases ih with ⟨blocks, row, rfl, sizes⟩
      refine ⟨⟨document, own.length⟩ :: blocks, .cons first row, rfl, ?_⟩
      rw [List.map_cons, List.map_cons, sizes]

theorem decodeAllSized_eq_ok_iff {largest : Nat} :
    decodeAllSized bytes = .ok (documents, largest) ↔
      ∃ pieces, IsCut bytes pieces documents ∧ longestPiece pieces = largest := by
  simp only [decodeAllSized, Except.map_eq_ok_iff, decodeAll_eq_ok_iff, Prod.mk.injEq, longestPiece]
  constructor
  · rintro ⟨blocks, row, rfl, rfl⟩
    rcases exists_isCut_of_row row with ⟨pieces, cut, sizes⟩
    exact ⟨pieces, cut, by rw [sizes, Block.largest_eq_max?]⟩
  · rintro ⟨pieces, cut, rfl⟩
    rcases cut.exists_row with ⟨blocks, row, documents_eq, sizes⟩
    exact ⟨blocks, row, documents_eq, by rw [sizes, Block.largest_eq_max?]⟩

/-- Two cuts of the same bytes are one: the reader finds the lengths of either. -/
theorem IsCut.unique {others : List Bytes} {found : List Document}
    (first : IsCut bytes pieces documents) (second : IsCut bytes others found) :
    pieces = others ∧ documents = found := by
  rcases first.exists_row with ⟨blocks, row, rfl, sizes⟩
  rcases second.exists_row with ⟨otherBlocks, otherRow, rfl, otherSizes⟩
  have read := decodeAll_eq_ok_iff.2 row
  rw [decodeAll_eq_ok_iff.2 otherRow] at read
  cases read
  refine ⟨?_, rfl⟩
  apply List.eq_iff_flatten_eq.2
  exact ⟨first.flatten_eq.trans second.flatten_eq.symm, sizes.trans otherSizes.symm⟩

theorem forall₂_encode_of_survives (survive : ∀ document ∈ documents, document.Survives) :
    List.Forall₂ (fun document piece => encode document = .ok piece) documents
      (documents.map Document.bytes) := by
  rw [List.forall₂_map_right_iff, List.forall₂_same]
  intro document mem
  exact (survive document mem).encode_eq

/--
Some bytes are read as a run of documents just when they can be cut into pieces that carry their own
lengths and are accepted as these documents; the largest size is then that of the longest piece, and
there is no other cut. Documents that survive can be appended to a buffer one after the other, and
are read from it again.
-/
theorem decodeAllSized_finds_cut (bytes : Bytes) (documents : List Document) :
    (∀ largest, decodeAllSized bytes = .ok (documents, largest) ↔
      ∃ pieces, IsCut bytes pieces documents ∧ longestPiece pieces = largest) ∧
    (∀ pieces others found, IsCut bytes pieces documents → IsCut bytes others found →
      pieces = others ∧ documents = found) ∧
    ((∀ document ∈ documents, document.Survives) →
      ∃ pieces, List.Forall₂ (fun document piece => encode document = .ok piece) documents pieces ∧
        documents.foldlM appendTo [] = .ok pieces.flatten ∧
        decodeAllSized pieces.flatten = .ok (documents, longestPiece pieces)) := by
  refine ⟨fun largest => decodeAllSized_eq_ok_iff, ?_, ?_⟩
  · intro pieces others found first second
    exact first.unique second
  · intro survive
    have joined : (documents.map Document.bytes).flatten = rowBytes documents :=
      List.flatMap_def.symm
    refine ⟨documents.map Document.bytes, forall₂_encode_of_survives survive, ?_, ?_⟩
    · rw [foldlM_appendTo, encodeAll_of_survives survive, joined]
      rfl
    · rw [joined, decodeAllSized, decodeAll_eq_ok_iff.2 (row_of_survives survive)]
      have sizes : (documents.map block).map Block.size =
          (documents.map Document.bytes).map List.length := by
        simp only [List.map_map]
        rfl
      rw [longestPiece, ← sizes, ← Block.largest_eq_max?]
      simp only [Except.map, documents_map_block]

/-- The empty document, one of eight bytes, and the empty document again. -/
def repeated : List Document := [[], [("a", .null)], []]

theorem decodeAllSized_finds_cut_repeated :
    (∀ document ∈ repeated, document.Survives) ∧
      ∃ bytes, repeated.foldlM appendTo [] = .ok bytes ∧ bytes.length = 18 ∧
        decodeAllSized bytes = .ok (repeated, 8) := by
  have survive : ∀ document ∈ repeated, document.Survives := by decide
  refine ⟨survive, ?_⟩
  rcases (decodeAllSized_finds_cut [] repeated).2.2 survive with ⟨pieces, written, joined, read⟩
  have unique : Relator.RightUnique fun (document : Document) piece =>
      encode document = .ok piece := by
    intro document piece other first second
    exact Except.ok.inj (first.symm.trans second)
  cases unique.forall₂ written (forall₂_encode_of_survives survive)
  exact ⟨_, joined, by cbv, read⟩

end Document

end DocumentProtocol
