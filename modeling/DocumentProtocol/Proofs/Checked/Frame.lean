import DocumentProtocol.Proofs.Checked.Field
import DocumentProtocol.Proofs.Frame.Split

/-!
# Frames in a buffer

The header of a frame is taken from the first sixteen bytes, byte by byte, and the buffer is then
compared with the length that the header announces. The length is a signed word of the sender's, so
the difference that makes a body's length of it and the sum that makes a frame's length of that are
both in range only because the header has been checked.
-/

namespace DocumentProtocol

namespace Buffer

open Checked

variable {space : AddressSpace}

/-- The signed word of the four bytes from an offset on, taken one by one. -/
def signedWord (buffer : Buffer space) (offset : Nat) : Checked Int32 := do
  let first ← buffer.index offset
  let second ← buffer.index (offset + 1)
  let third ← buffer.index (offset + 2)
  let fourth ← buffer.index (offset + 3)
  return Bytes.toInt32 [first, second, third, fourth]

def header (head : Buffer space) : Checked Header := do
  let length ← head.signedWord 0
  let requestId ← head.signedWord 4
  let responseTo ← head.signedWord 8
  let opcode ← head.signedWord 12
  return ⟨length, requestId, responseTo, opcode⟩

/-- The length of the body that a header announces, if the message keeps the limit. -/
def bodyLength (header : Header) (limit : Nat) : Checked Nat :=
  if header.length.toInt < Header.size then throw .invalidHeader
  else if limit < header.length.toInt.toNat then throw (.oversizedFrame header.length.toInt.toNat)
  else sub header.length.toInt.toNat Header.size

/-- The frame that occupies all of a buffer. -/
def frame (buffer : Buffer space) (limit : Nat) : Checked Frame := do
  match buffer.part? 0 Header.size with
  | none => throw .invalidHeader
  | some head =>
      let header ← head.header
      let length ← bodyLength header limit
      let size ← space.add Header.size length
      if buffer.bytes.length ≠ size then throw .invalidHeader
      else
        let body ← buffer.part Header.size buffer.bytes.length
        return ⟨header, body.bytes⟩

theorem yields_signedWord_bind {buffer : Buffer space} {offset : Nat} {α : Type}
    {next : Int32 → Checked α} {result : Except ProtocolError α}
    (inside : offset + 4 ≤ buffer.bytes.length)
    (rest : Yields (next (Bytes.toInt32 ((buffer.bytes.drop offset).take 4))) result) :
    Yields (buffer.signedWord offset >>= next) result := by
  have four : (buffer.bytes.drop offset).take 4 =
      [buffer.bytes[offset], buffer.bytes[offset + 1], buffer.bytes[offset + 2],
        buffer.bytes[offset + 3]] := by
    rw [List.drop_eq_getElem_cons (by omega), List.drop_eq_getElem_cons (by omega),
      List.drop_eq_getElem_cons (by omega), List.drop_eq_getElem_cons (by omega)]
    rfl
  rw [signedWord]
  simp only [bind_assoc, pure_bind]
  apply yields_index_bind (by omega)
  apply yields_index_bind (by omega)
  apply yields_index_bind (by omega)
  apply yields_index_bind (by omega)
  rwa [← four]

theorem yields_header (head : Buffer space) (length_eq : head.bytes.length = Header.size) :
    Yields head.header (.ok (Header.ofBytes head.bytes)) := by
  rw [Header.size] at length_eq
  rw [header]
  apply yields_signedWord_bind (by omega)
  apply yields_signedWord_bind (by omega)
  apply yields_signedWord_bind (by omega)
  apply yields_signedWord_bind (by omega)
  exact .pure _

theorem yields_bodyLength (header : Header) (limit : Nat) :
    Yields (bodyLength header limit) (header.bodyLength limit) := by
  rw [bodyLength, Header.bodyLength]
  split
  · exact .throw _
  · dsimp only
    split
    · exact .throw _
    · rw [sub, if_pos (by omega)]
      exact .pure _

theorem yields_frame (buffer : Buffer space) (limit : Nat) :
    Yields (buffer.frame limit) (Frame.ofBytes buffer.bytes limit) := by
  rw [frame, Frame.ofBytes, Header.read]
  by_cases short : buffer.bytes.length < Header.size
  · rw [part?_eq_none (by omega), if_pos short]
    exact .throw _
  · have enough := Nat.not_lt.1 short
    rcases buffer.exists_part?_eq_some (Nat.zero_le _) enough with ⟨head, taken, head_eq⟩
    rw [List.drop_zero] at head_eq
    have length_eq : head.bytes.length = Header.size := by
      rw [head_eq, List.length_take, Nat.min_eq_left enough]
    have same : Header.ofBytes buffer.bytes = Header.ofBytes head.bytes := by
      have whole := List.take_append_drop Header.size buffer.bytes
      rw [← whole, ← head_eq]
      exact Header.ofBytes_append_of_le (Nat.le_of_eq length_eq.symm) _
    rw [taken, if_neg short, same]
    apply Yields.bind (head.yields_header length_eq)
    intro header _
    apply Yields.bind (yields_bodyLength header limit)
    intro length found
    have fits : Header.size + length < space.limit := by
      have announced := (Header.bodyLength_eq_ok_iff.1 found).1
      have room := space.two_mul_toInt_lt header.length
      omega
    apply AddressSpace.yields_add_bind fits
    split
    · exact .throw _
    · exact yields_rest_bind enough fun body body_eq => body_eq ▸ .pure _

end Buffer

end DocumentProtocol
