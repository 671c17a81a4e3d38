import DocumentProtocol.Proofs.Frame.Split

/-!
# Reading a stream in pieces

A stream arrives in pieces that have nothing to do with its frames. `Frame.Reader` keeps the bytes
that have arrived and are not yet given out; after each piece it takes frames off the front of its
buffer until none is left, and it stops for good at the first error. When the stream has ended it
does the same once more, knowing that no bytes will come.

The main statement is that the pieces do not matter: the frames are those of `Frame.Split`, the
outcome is the ending of the leftover, no byte is lost or read twice on the way, and a bad header is
noticed as soon as its sixteen bytes are there.

The invariant is `Reader.Has`: what has been given out and what is buffered split the bytes that
were fed. Feeding keeps it because a leftover can be split further when bytes join it, and because
a bad header stays bad.
-/

namespace DocumentProtocol

namespace Frame

namespace Stream

theorem next_append_of_error {limit : Nat} {buffer : Bytes} {error : ProtocolError}
    (failed : next limit buffer = .error error) (more : Bytes) :
    next limit (buffer ++ more) = .error error := by
  rw [next_eq_error_iff] at failed ⊢
  rcases failed with ⟨enough, failed⟩
  constructor
  · rw [List.length_append]
    omega
  · rwa [Header.ofBytes_append_of_le enough]

theorem last_of_error {limit : Nat} {buffer : Bytes} {error : ProtocolError}
    (failed : next limit buffer = .error error) : last limit buffer = .error error := by
  simp only [last, failed]
  rfl

theorem last_of_some {limit : Nat} {buffer : Bytes} {found : Frame × Bytes}
    (next_eq : next limit buffer = .ok (some found)) : last limit buffer = .ok (some found) := by
  simp only [last, next_eq]
  rfl

theorem last_of_none {limit : Nat} {buffer : Bytes} (next_eq : next limit buffer = .ok none) :
    last limit buffer = if buffer = [] then .ok none else .error .connectionClosed := by
  simp only [last, next_eq, bind, Except.bind]
  split <;> rfl

theorem last_eq_some_iff {limit : Nat} {buffer : Bytes} {found : Frame × Bytes} :
    last limit buffer = .ok (some found) ↔ next limit buffer = .ok (some found) := by
  cases next_eq : next limit buffer with
  | error error => simp [last_of_error next_eq]
  | ok answer =>
      cases answer with
      | none =>
          rw [last_of_none next_eq]
          split <;> simp
      | some frame => simp [last_of_some next_eq]

theorem last_eq_ending {limit : Nat} {leftover : Bytes}
    (none : ∀ found, next limit leftover ≠ .ok (some found)) :
    last limit leftover = (ending limit leftover).map fun _ => Option.none := by
  cases next_eq : next limit leftover with
  | error error =>
      rw [last_of_error next_eq]
      rcases next_eq_error_iff.1 next_eq with ⟨enough, failed⟩
      have present : leftover ≠ [] := by
        rintro rfl
        simp [Header.size] at enough
      simp [ending, present, Nat.not_lt.2 enough, failed, Except.map]
  | ok answer =>
      cases answer with
      | some found => exact absurd next_eq (none found)
      | none =>
          rw [last_of_none next_eq]
          rcases next_eq_none_iff.1 next_eq with short | ⟨length, announced, _⟩
          · by_cases empty : leftover = [] <;> simp [ending, empty, short, Except.map]
          · by_cases empty : leftover = [] <;> by_cases short : leftover.length < Header.size <;>
              simp [ending, empty, short, announced, Except.map]

end Stream

theorem Split.append {limit : Nat} {stream more leftover rest : Bytes} {frames others : List Frame}
    (first : Split limit stream frames leftover)
    (second : Split limit (leftover ++ more) others rest) :
    Split limit (stream ++ more) (frames ++ others) rest where
  bytes_eq := by
    rw [first.bytes_eq, List.append_assoc, second.bytes_eq, allBytes_append, List.append_assoc]
  acceptable := by
    intro frame mem
    rcases List.mem_append.1 mem with mem | mem
    · exact first.acceptable frame mem
    · exact second.acceptable frame mem
  maximal := second.maximal

/-- Bytes that reach behind the header of a leftover hold all frames in front of it. -/
theorem Split.exists_part {limit : Nat} {stream more leftover : Bytes} {frames : List Frame}
    (split : Split limit (stream ++ more) frames leftover)
    (enough : (allBytes frames).length + Header.size ≤ stream.length) :
    ∃ part, stream = allBytes frames ++ part ∧ leftover = part ++ more ∧
      Header.size ≤ part.length := by
  rcases List.append_eq_append_iff.1 split.bytes_eq.symm with
    ⟨part, stream_eq, leftover_eq⟩ | ⟨missing, frames_eq, _⟩
  · refine ⟨part, stream_eq, leftover_eq, ?_⟩
    rw [stream_eq, List.length_append] at enough
    omega
  · rw [frames_eq, List.length_append] at enough
    simp only [Header.size] at enough
    omega

/-- A reader of frames: what has come of the bytes it was fed. -/
structure Reader where
  frames : List Frame := []
  buffer : Bytes := []
  failure : Option ProtocolError := none

namespace Reader

/-- One look into a buffer, which more bytes may join or not. -/
def look (limit : Nat) (hasEnded : Bool) (buffer : Bytes) :
    Except ProtocolError (Option (Frame × Bytes)) :=
  if hasEnded then Stream.last limit buffer else Stream.next limit buffer

theorem look_eq_some_iff {limit : Nat} {hasEnded : Bool} {buffer : Bytes}
    {found : Frame × Bytes} :
    look limit hasEnded buffer = .ok (some found) ↔
      Stream.next limit buffer = .ok (some found) := by
  cases hasEnded <;> simp [look, Stream.last_eq_some_iff]

/-- Takes frames off the front of a buffer until there is none, or an error. -/
def drain (limit : Nat) (hasEnded : Bool) (buffer : Bytes) : Reader :=
  match found : look limit hasEnded buffer with
  | .error error => { buffer := buffer, failure := some error }
  | .ok none => { buffer := buffer }
  | .ok (some (frame, rest)) =>
      have := Stream.next_length (look_eq_some_iff.1 found)
      let after := drain limit hasEnded rest
      { after with frames := frame :: after.frames }
termination_by buffer.length

/-- Feeds a reader some bytes, unless it has stopped. -/
def feed (limit : Nat) (hasEnded : Bool) (reader : Reader) (bytes : Bytes) : Reader :=
  if reader.failure.isSome then reader
  else
    let after := drain limit hasEnded (reader.buffer ++ bytes)
    { after with frames := reader.frames ++ after.frames }

def feedAll (limit : Nat) (pieces : List Bytes) : Reader := pieces.foldl (feed limit false) {}

/-- A reader that has been fed some pieces and has seen the end of the stream after them. -/
def read (limit : Nat) (pieces : List Bytes) : Reader := feed limit true (feedAll limit pieces) []

def outcome (reader : Reader) : Except ProtocolError Unit :=
  match reader.failure with
  | none => .ok ()
  | some error => .error error

/-- What a drained buffer comes to. -/
structure Drained (limit : Nat) (hasEnded : Bool) (buffer : Bytes) (reader : Reader) : Prop where
  split : Split limit buffer reader.frames reader.buffer
  failure_iff : ∀ error,
    reader.failure = some error ↔ look limit hasEnded reader.buffer = .error error

theorem drained_drain (limit : Nat) (hasEnded : Bool) (buffer : Bytes) :
    Drained limit hasEnded buffer (drain limit hasEnded buffer) := by
  fun_induction drain limit hasEnded buffer with
  | case1 buffer error failed =>
      refine ⟨?_, by simp [failed]⟩
      apply Split.nil_of_next
      intro found next_eq
      rw [look_eq_some_iff.2 next_eq] at failed
      cases failed
  | case2 buffer missing =>
      refine ⟨?_, by simp [missing]⟩
      apply Split.nil_of_next
      intro found next_eq
      rw [look_eq_some_iff.2 next_eq] at missing
      cases missing
  | case3 buffer frame rest found _ after ih =>
      rcases Stream.next_eq_some_iff.1 (look_eq_some_iff.1 found) with ⟨rfl, acceptable⟩
      exact ⟨.cons acceptable ih.split, ih.failure_iff⟩

theorem Drained.outcome_eq {limit : Nat} {buffer : Bytes} {reader : Reader}
    (drained : Drained limit true buffer reader) :
    reader.outcome = Stream.ending limit reader.buffer := by
  have last := Stream.last_eq_ending drained.split.next_ne_some
  cases ending : Stream.ending limit reader.buffer with
  | error error =>
      have stopped : reader.failure = some error := by
        apply (drained.failure_iff error).2
        simp [look, last, ending, Except.map]
      simp [outcome, stopped]
  | ok value =>
      have running : reader.failure = none := by
        apply Option.eq_none_iff_forall_ne_some.2
        intro error stopped
        have failed := (drained.failure_iff error).1 stopped
        simp [look, last, ending, Except.map] at failed
      simp [outcome, running]

theorem feed_of_some {reader : Reader} {error : ProtocolError}
    (failed : reader.failure = some error) (limit : Nat) (hasEnded : Bool) (bytes : Bytes) :
    feed limit hasEnded reader bytes = reader := by
  simp [feed, failed]

/--
What a reader has of the bytes it was fed. A reader that has stopped leaves the bytes unread that
came after it had.
-/
structure Has (limit : Nat) (fed : Bytes) (reader : Reader) (unread : Bytes) : Prop where
  split : Split limit fed reader.frames (reader.buffer ++ unread)
  failure_iff : ∀ error,
    reader.failure = some error ↔ Stream.next limit reader.buffer = .error error
  unread_of_none : reader.failure = none → unread = []

namespace Has

variable {limit : Nat} {fed unread : Bytes} {reader : Reader}

theorem next_append (has : Has limit fed reader unread) {error : ProtocolError}
    (failed : reader.failure = some error) (more : Bytes) :
    Stream.next limit (reader.buffer ++ more) = .error error :=
  Stream.next_append_of_error ((has.failure_iff error).1 failed) more

/-- A reader that has stopped reads nothing of what follows. -/
theorem split_append (has : Has limit fed reader unread) {error : ProtocolError}
    (failed : reader.failure = some error) (more : Bytes) :
    Split limit (fed ++ more) reader.frames (reader.buffer ++ (unread ++ more)) := by
  have stuck : Split limit (reader.buffer ++ unread ++ more) []
      (reader.buffer ++ (unread ++ more)) := by
    rw [List.append_assoc]
    apply Split.nil_of_next
    intro found next_eq
    rw [has.next_append failed] at next_eq
    cases next_eq
  simpa using has.split.append stuck

/-- A reader that has not stopped keeps all bytes that it is fed. -/
theorem feed_of_none (has : Has limit fed reader unread) (running : reader.failure = none)
    (bytes : Bytes) : Has limit (fed ++ bytes) (feed limit false reader bytes) [] := by
  have drained := drained_drain limit false (reader.buffer ++ bytes)
  have split : Split limit fed reader.frames reader.buffer := by
    simpa [has.unread_of_none running] using has.split
  simp only [feed, running, Option.isSome_none, Bool.false_eq_true, ↓reduceIte]
  exact
    { split := by simpa using split.append drained.split
      failure_iff := drained.failure_iff
      unread_of_none := fun _ => rfl }

theorem feed (has : Has limit fed reader unread) (bytes : Bytes) :
    ∃ unread, Has limit (fed ++ bytes) (feed limit false reader bytes) unread := by
  cases failed : reader.failure with
  | none => exact ⟨[], has.feed_of_none failed bytes⟩
  | some error =>
      rw [feed_of_some failed]
      exact ⟨unread ++ bytes,
        { split := has.split_append failed bytes
          failure_iff := has.failure_iff
          unread_of_none := by simp [failed] }⟩

end Has

theorem Has.foldl_feed {limit : Nat} {fed unread : Bytes} {reader : Reader}
    (has : Has limit fed reader unread) (pieces : List Bytes) :
    ∃ unread, Has limit (fed ++ pieces.flatten) (pieces.foldl (Reader.feed limit false) reader)
      unread := by
  induction pieces generalizing fed unread reader with
  | nil => exact ⟨unread, by simpa using has⟩
  | cons piece pieces ih =>
      rcases has.feed piece with ⟨unread, has⟩
      simpa using ih has

theorem has_nil (limit : Nat) : Has limit [] {} [] := by
  have nothing : Stream.next limit [] = .ok none := Stream.next_of_short (by simp [Header.size])
  exact
    { split := .nil_of_next (by simp [nothing])
      failure_iff := by simp [nothing]
      unread_of_none := fun _ => rfl }

theorem has_feedAll (limit : Nat) (pieces : List Bytes) :
    ∃ unread, Has limit pieces.flatten (feedAll limit pieces) unread := by
  simpa [feedAll] using (has_nil limit).foldl_feed pieces

theorem Has.read {limit : Nat} {fed unread : Bytes} {reader : Reader}
    (has : Has limit fed reader unread) :
    ∃ leftover, Split limit fed (Reader.feed limit true reader []).frames leftover ∧
      (Reader.feed limit true reader []).outcome = Stream.ending limit leftover := by
  cases failed : reader.failure with
  | some error =>
      rcases Stream.next_eq_error_iff.1 (has.next_append failed unread) with ⟨enough, bad⟩
      have other : error ≠ .connectionClosed := by
        rcases Header.bodyLength_error bad with rfl | rfl <;> simp
      have ending := (Stream.ending_eq_error_iff other).2 ⟨enough, bad⟩
      rw [feed_of_some failed]
      exact ⟨reader.buffer ++ unread, has.split, by simp [outcome, failed, ending]⟩
  | none =>
      have drained := drained_drain limit true reader.buffer
      have split : Split limit fed reader.frames reader.buffer := by
        simpa [has.unread_of_none failed] using has.split
      have rest : Split limit (reader.buffer ++ []) (drain limit true reader.buffer).frames
          (drain limit true reader.buffer).buffer := by
        simpa using drained.split
      refine ⟨(drain limit true reader.buffer).buffer, ?_, ?_⟩
      · simpa [Reader.feed, failed] using split.append rest
      · simpa [Reader.feed, failed, outcome] using drained.outcome_eq

/-- A reader stops as soon as the header that stops it is there. -/
theorem Has.failure_eq_some_iff {limit : Nat} {fed unread more leftover : Bytes} {reader : Reader}
    {frames : List Frame} (has : Has limit fed reader unread)
    (split : Split limit (fed ++ more) frames leftover) (error : ProtocolError) :
    reader.failure = some error ↔
      (allBytes frames).length + Header.size ≤ fed.length ∧
        (Header.ofBytes leftover).bodyLength limit = .error error := by
  constructor
  · intro failed
    rcases split.unique (has.split_append failed more) with ⟨rfl, rfl⟩
    rcases Stream.next_eq_error_iff.1 ((has.failure_iff error).1 failed) with ⟨enough, bad⟩
    refine ⟨?_, by rwa [Header.ofBytes_append_of_le enough]⟩
    rw [has.split.bytes_eq, List.length_append, List.length_append]
    omega
  · rintro ⟨enough, bad⟩
    rcases split.exists_part enough with ⟨part, fed_eq, leftover_eq, present⟩
    have failed : Stream.next limit part = .error error := by
      apply Stream.next_eq_error_iff.2
      rw [leftover_eq, Header.ofBytes_append_of_le present] at bad
      exact ⟨present, bad⟩
    have partSplit : Split limit fed frames part :=
      { bytes_eq := fed_eq
        acceptable := split.acceptable
        maximal := (Split.nil_of_next (by simp [failed])).maximal }
    rcases has.split.unique partSplit with ⟨_, rfl⟩
    cases stopped : reader.failure with
    | none =>
        rw [has.unread_of_none stopped, List.append_nil] at failed
        rw [← stopped, (has.failure_iff error).2 failed]
    | some other =>
        rw [has.next_append stopped] at failed
        simpa using failed

/-- What a reader does with a stream that comes in some pieces. -/
structure Reads (limit : Nat) (frames : List Frame) (leftover : Bytes) (pieces : List Bytes) :
    Prop where
  frames_eq : (read limit pieces).frames = frames
  outcome_eq : (read limit pieces).outcome = Stream.ending limit leftover
  /-- Up to the piece at which the reader stops, it has every byte that it was fed once. -/
  conserved : ∀ fed piece rest, pieces = fed ++ piece :: rest →
    (feedAll limit fed).failure = none →
      allBytes (feedAll limit (fed ++ [piece])).frames ++ (feedAll limit (fed ++ [piece])).buffer =
        (fed ++ [piece]).flatten
  /-- The reader stops at the piece that completes the header of a bad frame. -/
  prompt : ∀ fed rest error, pieces = fed ++ rest →
    ((feedAll limit fed).failure = some error ↔
      (allBytes frames).length + Header.size ≤ fed.flatten.length ∧
        (Header.ofBytes leftover).bodyLength limit = .error error)

theorem reads_of_split {limit : Nat} {pieces : List Bytes} {frames : List Frame} {leftover : Bytes}
    (split : Split limit pieces.flatten frames leftover) : Reads limit frames leftover pieces := by
  rcases has_feedAll limit pieces with ⟨unread, has⟩
  rcases has.read with ⟨other, readSplit, outcome_eq⟩
  rcases split.unique readSplit with ⟨frames_eq, rfl⟩
  refine ⟨frames_eq.symm, outcome_eq, ?_, ?_⟩
  · intro fed piece rest pieces_eq running
    rcases has_feedAll limit fed with ⟨unread, has⟩
    have fedHas := has.feed_of_none running piece
    have bytes_eq := fedHas.split.bytes_eq
    rw [List.append_nil] at bytes_eq
    simp only [feedAll, List.foldl_append, List.foldl_cons, List.foldl_nil, List.flatten_append,
      List.flatten_cons, List.flatten_nil, List.append_nil]
    exact bytes_eq.symm
  · intro fed rest error pieces_eq
    rcases has_feedAll limit fed with ⟨unread, has⟩
    have fedSplit : Split limit (fed.flatten ++ rest.flatten) frames leftover := by
      simpa [pieces_eq] using split
    exact has.failure_eq_some_iff fedSplit error

end Reader

structure Stream.EndsAs (limit : Nat) (leftover : Bytes) (outcome : Except ProtocolError Unit) :
    Prop where
  ok_iff : outcome = .ok () ↔ leftover = []
  connectionClosed_iff : outcome = .error .connectionClosed ↔
    leftover ≠ [] ∧ (leftover.length < Header.size ∨
      ∃ length, (Header.ofBytes leftover).bodyLength limit = .ok length ∧
        leftover.length < Header.size + length)
  invalidHeader_iff : outcome = .error .invalidHeader ↔
    Header.size ≤ leftover.length ∧ (Header.ofBytes leftover).length.toInt < Header.size
  oversizedFrame_iff : ∀ length, outcome = .error (.oversizedFrame length) ↔
    Header.size ≤ leftover.length ∧ Header.size ≤ length ∧ limit < length ∧
      (Header.ofBytes leftover).length.toInt = length
  error_cases : ∀ error, outcome = .error error →
    error = .connectionClosed ∨ error = .invalidHeader ∨ ∃ length, error = .oversizedFrame length

theorem Split.endsAs {limit : Nat} {stream leftover : Bytes} {frames : List Frame}
    (split : Split limit stream frames leftover) :
    Stream.EndsAs limit leftover (Stream.ending limit leftover) where
  ok_iff := Stream.ending_eq_ok_iff
  connectionClosed_iff := split.ending_eq_connectionClosed_iff
  invalidHeader_iff := by
    rw [Stream.ending_eq_error_iff (by simp), Header.bodyLength_eq_invalidHeader_iff]
  oversizedFrame_iff length := by
    rw [Stream.ending_eq_error_iff (by simp), Header.bodyLength_eq_oversizedFrame_iff]
  error_cases error ending := by
    by_cases closed : error = .connectionClosed
    · left
      exact closed
    · right
      rcases Header.bodyLength_error ((Stream.ending_eq_error_iff closed).1 ending).2 with bad | bad
      · left
        exact bad
      · right
        exact ⟨_, bad⟩

theorem exists_split (limit : Nat) (stream : Bytes) :
    ∃ frames leftover, Split limit stream frames leftover :=
  ⟨_, _, (Reader.drained_drain limit false stream).split⟩

/--
However a stream is cut into pieces, a reader gives out the frames that the stream begins with and
ends as the leftover says, without losing a byte and as early as it can. Each look into the buffer
takes the bytes of one frame off its front, or finds that bytes are missing, or that the header is
bad.
-/
theorem reads_any_pieces (limit : Nat) (stream : Bytes) :
    ∃ frames leftover, Split limit stream frames leftover ∧
      Stream.EndsAs limit leftover (Stream.ending limit leftover) ∧
      (∀ pieces : List Bytes, pieces.flatten = stream →
        Reader.Reads limit frames leftover pieces) ∧
      ∀ buffer : Bytes,
        (∀ frame rest, Stream.next limit buffer = .ok (some (frame, rest)) ↔
          buffer = frame.bytes ++ rest ∧ frame.IsAcceptable limit) ∧
        (Stream.next limit buffer = .ok none ↔ buffer.length < Header.size ∨
          ∃ length, (Header.ofBytes buffer).bodyLength limit = .ok length ∧
            buffer.length < Header.size + length) ∧
        ∀ error, Stream.next limit buffer = .error error ↔
          Header.size ≤ buffer.length ∧
            (Header.ofBytes buffer).bodyLength limit = .error error := by
  rcases exists_split limit stream with ⟨frames, leftover, split⟩
  refine ⟨frames, leftover, split, split.endsAs, ?_, ?_⟩
  · rintro pieces rfl
    exact Reader.reads_of_split split
  · intro buffer
    exact ⟨fun frame rest => Stream.next_eq_some_iff, Stream.next_eq_none_iff,
      fun error => Stream.next_eq_error_iff⟩

end Frame

end DocumentProtocol
