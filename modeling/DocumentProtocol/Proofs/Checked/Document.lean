import DocumentProtocol.Proofs.Checked.Field
import DocumentProtocol.Proofs.Document.Blocks

/-!
# Documents of a buffer

A run of documents is walked by the lengths in front of them: the buffer is split behind the first
document, and the walk goes on in the second part. The split has to be inside the buffer, and the
walk comes to an end because no document is shorter than five bytes.

So a run yields what `Document.decodeAll` reads, and five bytes of it are enough for at most one
document.
-/

namespace DocumentProtocol

namespace Document

theorem decodeAll_of_ne_nil {bytes : Bytes} (present : bytes ≠ []) :
    decodeAll bytes = announcedSize bytes >>= fun size =>
      decode (bytes.take size) >>= fun document =>
        (⟨document, size⟩ :: ·) <$> decodeAll (bytes.drop size) := by
  rw [decodeAll, if_neg present]
  split
  · rename_i error announced
    rw [announced]
    rfl
  · rename_i size announced
    dsimp only
    rw [announced]
    change _ = decode (bytes.take size) >>= _
    cases decode (bytes.take size) <;> rfl

end Document

namespace Buffer

open Checked

variable {space : AddressSpace}

/-- The two parts of a buffer before and behind an offset that has to be inside. -/
def splitAt (buffer : Buffer space) (offset : Nat) : Checked (Buffer space × Buffer space) := do
  let head ← buffer.part 0 offset
  let tail ← buffer.part offset buffer.bytes.length
  return (head, tail)

/-- The documents that fill a buffer. -/
def documents (buffer : Buffer space) : Checked (List Block) :=
  if buffer.bytes = [] then pure []
  else do
    let size ← ofExcept (Document.announcedSize buffer.bytes)
    let (head, tail) ← buffer.splitAt size
    let document ← ofExcept (Document.decode head.bytes)
    if _shorter : tail.bytes.length + Document.minimumSize ≤ buffer.bytes.length then
      (⟨document, size⟩ :: ·) <$> tail.documents
    else mishap .stalled
termination_by buffer.bytes.length
decreasing_by
  simp only [Document.minimumSize] at _shorter
  omega

theorem yields_splitAt_bind {buffer : Buffer space} {offset : Nat} {α : Type}
    {next : Buffer space × Buffer space → Checked α} {result : Except ProtocolError α}
    (inside : offset ≤ buffer.bytes.length)
    (rest : ∀ head tail : Buffer space, head.bytes = buffer.bytes.take offset →
      tail.bytes = buffer.bytes.drop offset → Yields (next (head, tail)) result) :
    Yields (buffer.splitAt offset >>= next) result := by
  rw [splitAt]
  simp only [bind_assoc, pure_bind]
  apply yields_part_bind (Nat.zero_le _) inside
  intro head head_eq
  apply yields_rest_bind inside
  intro tail tail_eq
  exact rest head tail head_eq tail_eq

theorem yields_documents (buffer : Buffer space) :
    Yields buffer.documents (Document.decodeAll buffer.bytes) := by
  induction measure : buffer.bytes.length using Nat.strongRecOn generalizing buffer with
  | ind length ih =>
      rw [documents]
      by_cases empty : buffer.bytes = []
      · rw [if_pos empty, empty, Document.decodeAll, if_pos rfl]
        exact .pure _
      · rw [if_neg empty, Document.decodeAll_of_ne_nil empty]
        apply Yields.bind (.ofExcept _)
        intro size announced
        rcases Document.announcedSize_eq_ok announced with ⟨atLeast, inside⟩
        apply yields_splitAt_bind inside
        intro head tail head_eq tail_eq
        rw [← head_eq, ← tail_eq]
        apply Yields.bind (.ofExcept _)
        intro document _
        have shorter : tail.bytes.length + size = buffer.bytes.length := by
          rw [tail_eq, List.length_drop]
          omega
        rw [dif_pos (by omega)]
        simp only [Document.minimumSize] at atLeast
        exact (ih _ (by omega) tail rfl).map _

end Buffer

end DocumentProtocol
