import DocumentProtocol.Proofs.Frame.Segmentation
import DocumentProtocol.Proofs.Frame.Whole

/-!
# Writing frames and reading them again

Two sides of a connection that have one limit measure it differently: a writer takes the size that a
frame has, a reader the length that its header announces. `Frame.Writer` is given frames one after
the other and keeps what it takes of them, together with an answer to each.

The main statement is that the two agree on all frames that were made of a body. A writer takes just
the frames that keep the limit, byte for byte, and answers every other one with its size, without a
trace in the buffer. A reader gives out the frames that were taken, in their order, and leaves
nothing.

The invariant is `Writer.Has`: the buffer is the bytes of the frames within the limit, and there is
an answer to each frame.
-/

namespace DocumentProtocol

namespace Frame

/-! ### A writer -/

/-- The frames that keep a limit. -/
def within (limit : Nat) (frames : List Frame) : List Frame :=
  frames.filter fun frame => frame.size ≤ limit

/-- What a frame comes to at a writer: it is taken, or it is refused by its size. -/
def answer (limit : Nat) (frame : Frame) : Except ProtocolError Unit :=
  if frame.size ≤ limit then .ok () else .error (.oversizedFrame frame.size)

/-- A writer of frames: its buffer, and what each frame that it was given came to. -/
structure Writer where
  buffer : Bytes := []
  answers : List (Except ProtocolError Unit) := []

namespace Writer

/-- Gives a writer a frame. The buffer stays as it is if the frame is refused. -/
def write (limit : Nat) (writer : Writer) (frame : Frame) : Writer :=
  match Stream.append limit writer.buffer frame with
  | .ok buffer => { buffer := buffer, answers := writer.answers ++ [.ok ()] }
  | .error error => { writer with answers := writer.answers ++ [.error error] }

def writeAll (limit : Nat) (frames : List Frame) : Writer := frames.foldl (write limit) {}

section Write

variable {limit : Nat} {frame : Frame} (writer : Writer)

theorem write_of_le (fits : frame.size ≤ limit) :
    writer.write limit frame =
      { buffer := writer.buffer ++ frame.bytes, answers := writer.answers ++ [.ok ()] } := by
  rw [write, Stream.append, if_neg (Nat.not_lt.2 fits)]

theorem write_of_lt (long : limit < frame.size) :
    writer.write limit frame =
      { writer with answers := writer.answers ++ [.error (.oversizedFrame frame.size)] } := by
  rw [write, Stream.append, if_pos long]

end Write

/-- What a writer has of the frames that it was given. -/
structure Has (limit : Nat) (given : List Frame) (writer : Writer) : Prop where
  buffer_eq : writer.buffer = allBytes (within limit given)
  answers_eq : writer.answers = given.map (answer limit)

namespace Has

variable {limit : Nat} {given : List Frame} {writer : Writer}

theorem write (has : Has limit given writer) (frame : Frame) :
    Has limit (given ++ [frame]) (writer.write limit frame) := by
  rcases has with ⟨buffer_eq, answers_eq⟩
  rcases Nat.lt_or_ge limit frame.size with long | fits
  · rw [write_of_lt writer long]
    constructor
    · simp [buffer_eq, within, Nat.not_le.2 long]
    · simp [answers_eq, answer, Nat.not_le.2 long]
  · rw [write_of_le writer fits]
    constructor
    · simp [buffer_eq, within, fits]
    · simp [answers_eq, answer, fits]

theorem foldl_write (has : Has limit given writer) (frames : List Frame) :
    Has limit (given ++ frames) (frames.foldl (Writer.write limit) writer) := by
  induction frames generalizing given writer with
  | nil => simpa using has
  | cons frame frames ih => simpa using ih (has.write frame)

end Has

theorem has_writeAll (limit : Nat) (frames : List Frame) :
    Has limit frames (writeAll limit frames) := by
  have nothing : Has limit [] {} := ⟨rfl, rfl⟩
  exact nothing.foldl_write frames

end Writer

/-! ### Reading what was written -/

section Acceptable

variable {limit : Nat} {frames : List Frame}
  (acceptable : ∀ frame ∈ frames, frame.IsAcceptable limit)

include acceptable

/-- The bytes of acceptable frames are cut where they were put together. -/
theorem split_allBytes : Split limit (allBytes frames) frames [] where
  bytes_eq := (List.append_nil _).symm
  acceptable := acceptable
  maximal := by
    intro frame rest bytes_eq
    have length := congrArg List.length bytes_eq
    simp only [List.length_nil, List.length_append, length_bytes, size, Header.size] at length
    omega

theorem Reader.drain_allBytes (hasEnded : Bool) :
    Reader.drain limit hasEnded (allBytes frames) = { frames := frames } := by
  have drained := Reader.drained_drain limit hasEnded (allBytes frames)
  rcases (split_allBytes acceptable).unique drained.split with ⟨frames_eq, buffer_eq⟩
  have nothing : Stream.next limit [] = .ok none := Stream.next_of_short (by decide)
  have quiet : Reader.look limit hasEnded [] = .ok none := by
    cases hasEnded with
    | false => exact nothing
    | true => exact Stream.last_of_none nothing
  -- A failure would come from what is left, and an empty buffer is waited on at any time.
  have running : (Reader.drain limit hasEnded (allBytes frames)).failure = none := by
    apply Option.eq_none_iff_forall_ne_some.2
    intro error failed
    rw [drained.failure_iff, ← buffer_eq, quiet] at failed
    cases failed
  cases read : Reader.drain limit hasEnded (allBytes frames) with
  | mk found buffer failure =>
      rw [read] at frames_eq buffer_eq running
      cases frames_eq
      cases buffer_eq
      cases running
      rfl

end Acceptable

/--
A writer appends the bytes of each frame that keeps the limit, and answers any other one with its
size and leaves its buffer as it was. Of frames that were made of a body, a reader with the same
limit takes just those within the limit out of the buffer again, and nothing is left of it.
-/
theorem written_frames_are_read (limit : Nat) :
    (∀ given frame, Writer.writeAll limit (given ++ [frame]) =
      if frame.size ≤ limit then
        { buffer := (Writer.writeAll limit given).buffer ++ frame.bytes
          answers := (Writer.writeAll limit given).answers ++ [.ok ()] }
      else
        { buffer := (Writer.writeAll limit given).buffer
          answers := (Writer.writeAll limit given).answers ++
            [.error (.oversizedFrame frame.size)] }) ∧
    ∀ frames, (∀ frame ∈ frames, ∃ requestId responseTo opcode body,
      make requestId responseTo opcode body = .ok frame) →
      (Writer.writeAll limit frames).answers = frames.map (answer limit) ∧
      (Writer.writeAll limit frames).buffer = allBytes (within limit frames) ∧
      ∀ hasEnded, Reader.drain limit hasEnded (Writer.writeAll limit frames).buffer =
        { frames := within limit frames, buffer := [], failure := none } := by
  constructor
  · intro given frame
    rw [Writer.writeAll, List.foldl_append]
    split
    · rename_i fits
      exact Writer.write_of_le _ fits
    · rename_i long
      exact Writer.write_of_lt _ (Nat.not_le.1 long)
  · intro frames made
    have has := Writer.has_writeAll limit frames
    refine ⟨has.answers_eq, has.buffer_eq, ?_⟩
    intro hasEnded
    rw [has.buffer_eq]
    apply Reader.drain_allBytes
    intro frame mem
    rcases List.mem_filter.1 mem with ⟨given, fits⟩
    rcases made frame given with ⟨requestId, responseTo, opcode, body, made⟩
    exact isAcceptable_of_make made (by simpa using fits)

/-- A frame without a body, one above a limit of seventeen bytes, and one that just keeps it. -/
def mixed : List Frame :=
  [⟨⟨16, 1, 0, 2013⟩, []⟩, ⟨⟨18, -2, 0, 2013⟩, [7, 7]⟩, ⟨⟨17, 3, 1, 1⟩, [9]⟩]

theorem written_frames_are_read_mixed :
    (∀ frame ∈ mixed, ∃ requestId responseTo opcode body,
      make requestId responseTo opcode body = .ok frame) ∧
      (Writer.writeAll 17 mixed).answers = [.ok (), .error (.oversizedFrame 18), .ok ()] ∧
      (Writer.writeAll 17 mixed).buffer.length = 33 ∧
      Reader.drain 17 false (Writer.writeAll 17 mixed).buffer =
        { frames := [⟨⟨16, 1, 0, 2013⟩, []⟩, ⟨⟨17, 3, 1, 1⟩, [9]⟩] } := by
  have made : ∀ frame ∈ mixed, ∃ requestId responseTo opcode body,
      make requestId responseTo opcode body = .ok frame := by
    intro frame mem
    simp only [mixed, List.mem_cons, List.not_mem_nil, or_false] at mem
    rcases mem with rfl | rfl | rfl
    · exact ⟨1, 0, 2013, [], rfl⟩
    · exact ⟨-2, 0, 2013, [7, 7], rfl⟩
    · exact ⟨3, 1, 1, [9], rfl⟩
  rcases (written_frames_are_read 17).2 mixed made with ⟨answers_eq, buffer_eq, read⟩
  refine ⟨made, ?_, ?_, read false⟩
  · rw [answers_eq]
    rfl
  · rw [buffer_eq]
    decide

end Frame

end DocumentProtocol
