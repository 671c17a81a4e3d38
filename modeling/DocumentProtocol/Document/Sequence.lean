import DocumentProtocol.Document.Decode
import DocumentProtocol.Error

/-!
# Documents in a row

Each document on the wire begins with its own length, so that a run of documents is cut into blocks
by their lengths before any of them is read. `Document.announcedSize` checks the length at the front
of some bytes, `Document.decode` reads one document that occupies all of its bytes, and
`Document.decodeAll` cuts and reads a whole run. Every block keeps its size beside its document,
because the size on the wire is what limits apply to.
-/

namespace DocumentProtocol

namespace Document

/-- The size of the smallest document: its length and the closing zero. -/
def minimumSize : Nat := 5

def announcedSize (bytes : Bytes) : Except ProtocolError Nat :=
  match Bytes.cut? 4 bytes with
  | none => .error (.malformed .truncatedDocument)
  | some (front, _) =>
      let size := (Bytes.toInt32 front).toInt
      if size < minimumSize then .error (.malformed .shortDocument)
      else if bytes.length < size.toNat then .error (.malformed .truncatedDocument)
      else .ok size.toNat

/-- The document that occupies all of some bytes. -/
def decode (bytes : Bytes) : Except ProtocolError Document := do
  let size ← announcedSize bytes
  if size ≠ bytes.length then throw (.malformed .truncatedDocument)
  match decodeExact? bytes with
  | some document => pure document
  | none => throw .document

def encode (document : Document) : Except ProtocolError Bytes :=
  match document.encode? with
  | some bytes => .ok bytes
  | none => .error .documentEncode

def appendTo (buffer : Bytes) (document : Document) : Except ProtocolError Bytes :=
  (encode document).map (buffer ++ ·)

def encodeAll : List Document → Except ProtocolError Bytes
  | [] => .ok []
  | document :: rest => do return (← encode document) ++ (← encodeAll rest)

theorem announcedSize_eq_ok {bytes : Bytes} {size : Nat}
    (announced : announcedSize bytes = .ok size) :
    minimumSize ≤ size ∧ size ≤ bytes.length := by
  unfold announcedSize at announced
  split at announced
  · simp at announced
  · dsimp only at announced
    split at announced
    · simp at announced
    · split at announced
      · simp at announced
      · simp only [Except.ok.injEq] at announced
        simp only [minimumSize] at *
        omega

end Document

/-- A document beside its size on the wire. -/
structure Block where
  document : Document
  size : Nat

namespace Block

def documents (blocks : List Block) : List Document := blocks.map Block.document

def largest (blocks : List Block) : Nat := blocks.foldl (fun size block => max size block.size) 0

end Block

namespace Document

/-- The blocks that fill all of some bytes. -/
def decodeAll (bytes : Bytes) : Except ProtocolError (List Block) :=
  if bytes = [] then .ok []
  else
    match announced : announcedSize bytes with
    | .error error => .error error
    | .ok size =>
        have := announcedSize_eq_ok announced
        match decode (bytes.take size) with
        | .error error => .error error
        | .ok document => (decodeAll (bytes.drop size)).map (⟨document, size⟩ :: ·)
termination_by bytes.length
decreasing_by
  simp only [minimumSize] at this
  simp only [List.length_drop]
  omega

end Document

end DocumentProtocol
