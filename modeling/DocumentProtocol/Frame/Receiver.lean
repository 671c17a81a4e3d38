import DocumentProtocol.Frame.Stream

/-!
# Receiving frames one at a time

A receiver keeps the bytes that it has taken off a stream and not yet given out as frames. Asked
for a frame, it looks into its buffer if something may be there, takes in what has arrived
otherwise, and waits if nothing has.

After an error the bytes that caused it stay in the buffer. The next request for a frame is answered
with the end of the stream, once and without looking; the one after that waits for more bytes or for
the end of the stream and then meets the same bytes again.

The buffer lies in a block of memory, behind the gap that the frames given out have left. A receiver
takes in no more bytes at a time than the block has room for, so that an error leaves the bytes that
have arrived beyond that on the stream. `Receiver.makeRoom` says when the block grows: as soon as it
is full, and for a frame that is known not to fit.
-/

namespace DocumentProtocol

namespace Frame

/-- A receiver of frames. -/
structure Receiver where
  buffer : Bytes := []
  capacity : Nat := 8192
  gap : Nat := 0
  /-- Whether a frame may be in the buffer. -/
  isReadable : Bool := false
  hasSeenEnd : Bool := false
  hasFailed : Bool := false
  deriving DecidableEq, Repr

namespace Receiver

inductive Answer where
  | frame (frame : Frame)
  | failed (error : ProtocolError)
  | ended
  deriving DecidableEq, Repr

/-- The number of bytes that the memory can take in behind the buffer. -/
def room (receiver : Receiver) : Nat :=
  receiver.capacity - (receiver.gap + receiver.buffer.length)

/--
Makes room for some more bytes. If there is too little behind the buffer, the buffer moves to the
front of its memory when the gap is large enough to hold it, and to a block of at least twice the
size when it is not.
-/
def makeRoom (size : Nat) (receiver : Receiver) : Receiver :=
  let length := receiver.buffer.length
  if size ≤ receiver.room then receiver
  else if length ≤ receiver.gap ∧ length + size ≤ receiver.capacity then
    { receiver with gap := 0 }
  else
    { receiver with capacity := max (2 * receiver.capacity) (receiver.gap + length + size) }

theorem le_room_makeRoom (size : Nat) (receiver : Receiver) :
    size ≤ (receiver.makeRoom size).room := by
  unfold makeRoom
  dsimp only
  split
  · assumption
  · split <;> simp only [room] <;> omega

/-- Looks for a frame in the buffer; nothing if more bytes are needed. -/
def look (limit : Nat) (receiver : Receiver) : Option Answer × Receiver :=
  let receiver := receiver.makeRoom (Stream.missing limit receiver.buffer)
  let found :=
    if receiver.hasSeenEnd then Stream.last limit receiver.buffer
    else Stream.next limit receiver.buffer
  match found with
  | .error error => (some (.failed error), { receiver with hasFailed := true })
  | .ok (some (frame, rest)) =>
      (some (.frame frame), { receiver with buffer := rest, gap := receiver.gap + frame.size })
  | .ok none =>
      let receiver := { receiver with isReadable := false }
      if receiver.hasSeenEnd then (some .ended, receiver) else (none, receiver)

def atEnd (limit : Nat) (receiver : Receiver) : Answer × Receiver :=
  match look limit { receiver with isReadable := true, hasSeenEnd := true } with
  | (some answer, receiver) => (answer, receiver)
  | (none, receiver) => (.ended, receiver)

def fill (bytes : Bytes) (receiver : Receiver) : Receiver :=
  { receiver with buffer := receiver.buffer ++ bytes, isReadable := true, hasSeenEnd := false }

/--
Takes in what has arrived, as much at a time as there is room for, until there is an answer; nothing
if all has been taken in and more is needed. With the answer comes what stays on the stream.
-/
def takeIn (limit : Nat) (receiver : Receiver) (arrived : Bytes) (isFinished : Bool) :
    Option (Answer × Bytes) × Receiver :=
  let ready := receiver.makeRoom 1
  if arrived = [] then
    if !isFinished then (none, ready)
    else if ready.hasSeenEnd then (some (.ended, []), ready)
    else
      let (answer, after) := ready.atEnd limit
      (some (answer, []), after)
  else
    match (ready.fill (arrived.take ready.room)).look limit with
    | (some answer, after) => (some (answer, arrived.drop ready.room), after)
    | (none, after) => takeIn limit after (arrived.drop ready.room) isFinished
termination_by arrived.length
decreasing_by
  have present : 0 < arrived.length := List.length_pos_iff.2 (by assumption)
  have := le_room_makeRoom 1 receiver
  simp only [List.length_drop]
  omega

/--
Answers with the next frame of a stream of which some bytes have arrived and are not yet in the
buffer, and which may have ended after them; nothing if the receiver has taken all of them in and
waits. With the answer comes what stays on the stream.
-/
def receive (limit : Nat) (receiver : Receiver) (arrived : Bytes) (isFinished : Bool) :
    Option (Answer × Bytes) × Receiver :=
  if receiver.hasFailed then
    (some (.ended, arrived), { receiver with hasFailed := false, isReadable := false })
  else if receiver.isReadable then
    match receiver.look limit with
    | (some answer, receiver) => (some (answer, arrived), receiver)
    | (none, receiver) => receiver.takeIn limit arrived isFinished
  else receiver.takeIn limit arrived isFinished

end Receiver

end Frame

end DocumentProtocol
