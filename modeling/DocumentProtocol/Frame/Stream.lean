import DocumentProtocol.Frame.Basic

/-!
# Frames on a stream

A reader of frames collects the bytes of a stream in a buffer and takes frames off its front.
`Frame.Stream.next` answers with the first frame and the bytes after it, with nothing while the
buffer ends inside a frame, or with an error as soon as the sixteen bytes of a bad header are there.
`Frame.Stream.last` is asked when the stream has ended: bytes that are left over then belong to a
frame that never came, and the connection counts as closed.

A writer refuses a frame that the reader at the other end would refuse for its size.
-/

namespace DocumentProtocol

namespace Frame

def defaultLimit : Nat := 48000000

namespace Stream

/-- The frame at the front of a buffer and the bytes after it, if the frame is complete. -/
def next (limit : Nat) (buffer : Bytes) : Except ProtocolError (Option (Frame × Bytes)) :=
  if buffer.length < Header.size then .ok none
  else do
    let header := Header.ofBytes buffer
    let length ← header.bodyLength limit
    let rest := buffer.drop Header.size
    if rest.length < length then return none
    return some (⟨header, rest.take length⟩, rest.drop length)

/-- The number of bytes that the frame at the front of a buffer lacks, as far as it is known. -/
def missing (limit : Nat) (buffer : Bytes) : Nat :=
  if buffer.length < Header.size then 0
  else
    match (Header.ofBytes buffer).bodyLength limit with
    | .ok length => Header.size + length - buffer.length
    | .error _ => 0

/-- The frame at the front of a buffer that no more bytes will join. -/
def last (limit : Nat) (buffer : Bytes) : Except ProtocolError (Option (Frame × Bytes)) := do
  match ← next limit buffer with
  | some found => return some found
  | none => if buffer = [] then return none else throw .connectionClosed

def append (limit : Nat) (buffer : Bytes) (frame : Frame) : Except ProtocolError Bytes :=
  if limit < frame.size then .error (.oversizedFrame frame.size) else .ok (buffer ++ frame.bytes)

end Stream

end Frame

end DocumentProtocol
