import DocumentProtocol.Frame.Stream

/-!
# Splitting a stream into frames

A frame is *acceptable* to a reader with a limit when the length in its header is its own size and
keeps the limit. `Frame.Split` says how a stream is cut: acceptable frames one after the other, and
a leftover that no acceptable frame begins. A stream is cut in one way only.

Looking into a buffer finds the frame that the buffer begins with, or misses bytes of it, or fails
at its header; `Frame.Stream.next_eq_some_iff` and its companions say when each of the three
happens. `Frame.Stream.ending` is what the leftover of a stream comes to when no more bytes join it.
-/

namespace DocumentProtocol

namespace Header

@[simp]
theorem length_bytes (header : Header) : header.bytes.length = size := by
  simp [bytes, size]

@[simp]
theorem ofBytes_append (header : Header) (rest : Bytes) :
    ofBytes (header.bytes ++ rest) = header := by
  have past (word : Int32) (offset : Nat) (far : 4 ≤ offset) :
      (Bytes.ofInt32 word).drop offset = [] := List.drop_of_length_le (by simpa using far)
  simp [ofBytes, bytes, List.drop_append, past]

/-- Only the first sixteen bytes matter to a header. -/
theorem ofBytes_append_of_le {bytes : Bytes} (enough : size ≤ bytes.length) (rest : Bytes) :
    ofBytes (bytes ++ rest) = ofBytes bytes := by
  simp only [size] at enough
  simp only [ofBytes, List.take_append, List.drop_append, List.length_drop]
  have first : 4 - bytes.length = 0 := by omega
  have second : 4 - (bytes.length - 4) = 0 := by omega
  have third : 4 - (bytes.length - 8) = 0 := by omega
  have fourth : 4 - (bytes.length - 12) = 0 := by omega
  simp [first, second, third, fourth]

theorem bytes_ofBytes {bytes : Bytes} (enough : size ≤ bytes.length) :
    (ofBytes bytes).bytes = bytes.take size := by
  simp only [size] at enough
  simp only [Header.bytes, ofBytes, size]
  rw [Bytes.ofInt32_toInt32 (by simp; omega), Bytes.ofInt32_toInt32 (by simp; omega),
    Bytes.ofInt32_toInt32 (by simp; omega), Bytes.ofInt32_toInt32 (by simp; omega)]
  simp only [← List.take_add, Nat.reduceAdd]

theorem bodyLength_eq_ok_iff {header : Header} {limit length : Nat} :
    header.bodyLength limit = .ok length ↔
      header.length.toInt = (size + length : Nat) ∧ size + length ≤ limit := by
  simp only [bodyLength]
  split
  · simp only [reduceCtorEq, false_iff]
    omega
  · split
    · simp only [reduceCtorEq, false_iff]
      omega
    · simp only [Except.ok.injEq]
      omega

theorem bodyLength_eq_invalidHeader_iff {header : Header} {limit : Nat} :
    header.bodyLength limit = .error .invalidHeader ↔ header.length.toInt < size := by
  simp only [bodyLength]
  split
  · simp [*]
  · split <;> simp [*]

theorem bodyLength_eq_oversizedFrame_iff {header : Header} {limit length : Nat} :
    header.bodyLength limit = .error (.oversizedFrame length) ↔
      size ≤ length ∧ limit < length ∧ header.length.toInt = length := by
  simp only [bodyLength]
  split
  · simp only [Except.error.injEq, reduceCtorEq, false_iff]
    omega
  · split
    · simp only [Except.error.injEq, ProtocolError.oversizedFrame.injEq]
      omega
    · simp only [reduceCtorEq, false_iff]
      omega

/-- The only two errors of a header. -/
theorem bodyLength_error {header : Header} {limit : Nat} {error : ProtocolError}
    (failed : header.bodyLength limit = .error error) :
    error = .invalidHeader ∨ error = .oversizedFrame header.length.toInt.toNat := by
  simp only [bodyLength] at failed
  split at failed
  · simp_all
  · split at failed <;> simp_all

end Header

namespace Frame

def allBytes (frames : List Frame) : Bytes := frames.flatMap Frame.bytes

@[simp]
theorem allBytes_nil : allBytes [] = [] := rfl

@[simp]
theorem allBytes_cons (frame : Frame) (frames : List Frame) :
    allBytes (frame :: frames) = frame.bytes ++ allBytes frames := by
  simp [allBytes]

@[simp]
theorem allBytes_append (first second : List Frame) :
    allBytes (first ++ second) = allBytes first ++ allBytes second := by
  simp [allBytes]

@[simp]
theorem length_bytes (frame : Frame) : frame.bytes.length = frame.size := by
  simp [bytes, size]

/-- Whether a frame is what its header announces, within a limit. -/
structure IsAcceptable (limit : Nat) (frame : Frame) : Prop where
  length_eq : frame.header.length.toInt = frame.size
  size_le : frame.size ≤ limit

theorem isAcceptable_iff {limit : Nat} {frame : Frame} :
    frame.IsAcceptable limit ↔ frame.header.bodyLength limit = .ok frame.body.length := by
  rw [Header.bodyLength_eq_ok_iff]
  constructor
  · rintro ⟨length_eq, size_le⟩
    exact ⟨length_eq, size_le⟩
  · rintro ⟨length_eq, size_le⟩
    exact ⟨length_eq, size_le⟩

/--
How a stream is cut into frames: a run of acceptable frames at its front, as long as possible, and
what is left over.
-/
structure Split (limit : Nat) (stream : Bytes) (frames : List Frame) (leftover : Bytes) : Prop where
  bytes_eq : stream = allBytes frames ++ leftover
  acceptable : ∀ frame ∈ frames, frame.IsAcceptable limit
  maximal : ∀ (frame : Frame) (rest : Bytes), leftover = frame.bytes ++ rest →
    ¬frame.IsAcceptable limit

namespace Stream

theorem next_of_short {limit : Nat} {buffer : Bytes} (short : buffer.length < Header.size) :
    next limit buffer = .ok none := by
  simp [next, short]

theorem next_of_error {limit : Nat} {buffer : Bytes} {error : ProtocolError}
    (enough : Header.size ≤ buffer.length)
    (failed : (Header.ofBytes buffer).bodyLength limit = .error error) :
    next limit buffer = .error error := by
  simp only [next, Nat.not_lt.2 enough, ↓reduceIte, failed]
  rfl

theorem next_of_ok {limit length : Nat} {buffer : Bytes}
    (enough : Header.size ≤ buffer.length)
    (announced : (Header.ofBytes buffer).bodyLength limit = .ok length) :
    next limit buffer =
      if buffer.length < Header.size + length then .ok none
      else .ok (some (⟨Header.ofBytes buffer, (buffer.drop Header.size).take length⟩,
        buffer.drop (Header.size + length))) := by
  have shorter : buffer.length - Header.size < length ↔ buffer.length < Header.size + length := by
    omega
  simp only [next, Nat.not_lt.2 enough, ↓reduceIte, announced, bind, Except.bind, List.length_drop,
    shorter, List.drop_drop]
  split <;> rfl

theorem next_eq_error_iff {limit : Nat} {buffer : Bytes} {error : ProtocolError} :
    next limit buffer = .error error ↔
      Header.size ≤ buffer.length ∧ (Header.ofBytes buffer).bodyLength limit = .error error := by
  by_cases enough : Header.size ≤ buffer.length
  · cases announced : (Header.ofBytes buffer).bodyLength limit with
    | error found => simp [next_of_error enough announced, enough]
    | ok length =>
        rw [next_of_ok enough announced]
        split <;> simp
  · simp [next_of_short (Nat.not_le.1 enough), enough]

/-- A buffer lacks bytes exactly when it ends inside a header or inside an acceptable frame. -/
theorem next_eq_none_iff {limit : Nat} {buffer : Bytes} :
    next limit buffer = .ok none ↔
      buffer.length < Header.size ∨
        ∃ length, (Header.ofBytes buffer).bodyLength limit = .ok length ∧
          buffer.length < Header.size + length := by
  by_cases enough : Header.size ≤ buffer.length
  · cases announced : (Header.ofBytes buffer).bodyLength limit with
    | error found => simp [next_of_error enough announced, Nat.not_lt.2 enough]
    | ok length =>
        rw [next_of_ok enough announced]
        split <;> simp [*, Nat.not_lt.2 enough]
  · simp [next_of_short (Nat.not_le.1 enough), Nat.not_le.1 enough]

/-- A frame is found exactly when it is acceptable and the buffer begins with it. -/
theorem next_eq_some_iff {limit : Nat} {buffer rest : Bytes} {frame : Frame} :
    next limit buffer = .ok (some (frame, rest)) ↔
      buffer = frame.bytes ++ rest ∧ frame.IsAcceptable limit := by
  constructor
  · intro found
    by_cases enough : Header.size ≤ buffer.length
    · cases announced : (Header.ofBytes buffer).bodyLength limit with
      | error error => simp [next_of_error enough announced] at found
      | ok length =>
          rw [next_of_ok enough announced] at found
          split at found
          · simp at found
          · rename_i complete
            simp only [Except.ok.injEq, Option.some.injEq, Prod.mk.injEq] at found
            rcases found with ⟨rfl, rfl⟩
            have body : ((buffer.drop Header.size).take length).length = length := by
              simp
              omega
            constructor
            · rw [bytes, Header.bytes_ofBytes enough, ← List.drop_drop, List.append_assoc,
                List.take_append_drop, List.take_append_drop]
            · apply isAcceptable_iff.2
              simpa only [body] using announced
    · simp [next_of_short (Nat.not_le.1 enough)] at found
  · rintro ⟨rfl, acceptable⟩
    have enough : Header.size ≤ (frame.bytes ++ rest).length := by
      simp [size]
      omega
    have header : Header.ofBytes (frame.bytes ++ rest) = frame.header := by
      simp [bytes]
    have announced : (Header.ofBytes (frame.bytes ++ rest)).bodyLength limit =
        .ok frame.body.length := by
      rw [header]
      exact isAcceptable_iff.1 acceptable
    rw [next_of_ok enough announced, header]
    have complete : ¬(frame.bytes ++ rest).length < Header.size + frame.body.length := by
      simp [size]
    rw [if_neg complete]
    simp [bytes, List.drop_append]

theorem next_length {limit : Nat} {buffer rest : Bytes} {frame : Frame}
    (found : next limit buffer = .ok (some (frame, rest))) : rest.length < buffer.length := by
  rcases next_eq_some_iff.1 found with ⟨rfl, _⟩
  simp only [List.length_append, length_bytes, size, Header.size]
  omega

/-- What the leftover of a stream comes to when the stream has ended. -/
def ending (limit : Nat) (leftover : Bytes) : Except ProtocolError Unit :=
  if leftover = [] then .ok ()
  else if leftover.length < Header.size then .error .connectionClosed
  else
    match (Header.ofBytes leftover).bodyLength limit with
    | .error error => .error error
    | .ok _ => .error .connectionClosed

theorem ending_eq_ok_iff {limit : Nat} {leftover : Bytes} :
    ending limit leftover = .ok () ↔ leftover = [] := by
  unfold ending
  split
  · simp [*]
  · split
    · simp [*]
    · split <;> simp [*]

theorem ending_eq_connectionClosed_iff {limit : Nat} {leftover : Bytes} :
    ending limit leftover = .error .connectionClosed ↔
      leftover ≠ [] ∧ (leftover.length < Header.size ∨
        ∃ length, (Header.ofBytes leftover).bodyLength limit = .ok length) := by
  unfold ending
  split
  · simp [*]
  · split
    · simp [*]
    · rename_i present enough
      split
      · rename_i error failed
        rcases Header.bodyLength_error failed with rfl | rfl <;> simp [failed, enough]
      · simp [*]

theorem ending_eq_error_iff {limit : Nat} {leftover : Bytes} {error : ProtocolError}
    (bad : error ≠ .connectionClosed) :
    ending limit leftover = .error error ↔
      Header.size ≤ leftover.length ∧
        (Header.ofBytes leftover).bodyLength limit = .error error := by
  unfold ending
  split
  · simp [*, Header.size]
  · split
    · rename_i short
      simp [Nat.not_le.2 short, bad.symm]
    · rename_i enough
      split <;> simp [*, Nat.not_lt.1 enough, bad.symm]

end Stream

namespace Split

variable {limit : Nat}

theorem nil_of_next {buffer : Bytes}
    (none : ∀ found, Stream.next limit buffer ≠ .ok (some found)) :
    Split limit buffer [] buffer where
  bytes_eq := rfl
  acceptable := by simp
  maximal frame rest bytes_eq acceptable :=
    none (frame, rest) (Stream.next_eq_some_iff.2 ⟨bytes_eq, acceptable⟩)

/-- An acceptable frame in front of a stream is the first frame of the two together. -/
theorem cons {stream leftover : Bytes} {frame : Frame} {frames : List Frame}
    (acceptable : frame.IsAcceptable limit) (split : Split limit stream frames leftover) :
    Split limit (frame.bytes ++ stream) (frame :: frames) leftover where
  bytes_eq := by simp [split.bytes_eq]
  acceptable := by
    simp only [List.mem_cons, forall_eq_or_imp]
    exact ⟨acceptable, split.acceptable⟩
  maximal := split.maximal

theorem uncons {stream leftover : Bytes} {frame : Frame} {frames : List Frame}
    (split : Split limit stream (frame :: frames) leftover) :
    ∃ rest, stream = frame.bytes ++ rest ∧ frame.IsAcceptable limit ∧
      Split limit rest frames leftover := by
  refine ⟨allBytes frames ++ leftover, ?_, split.acceptable frame (by simp), ?_⟩
  · simpa using split.bytes_eq
  · exact
      { bytes_eq := rfl
        acceptable := fun other member => split.acceptable other (by simp [member])
        maximal := split.maximal }

/-- Nothing is found in front of a leftover. -/
theorem next_ne_some {stream leftover : Bytes} {frames : List Frame}
    (split : Split limit stream frames leftover) (found : Frame × Bytes) :
    Stream.next limit leftover ≠ .ok (some found) := by
  intro next
  rcases Stream.next_eq_some_iff.1 next with ⟨bytes_eq, acceptable⟩
  exact split.maximal _ _ bytes_eq acceptable

/-- A stream ends inside a frame exactly when it leaves over a part of one. -/
theorem ending_eq_connectionClosed_iff {stream leftover : Bytes} {frames : List Frame}
    (split : Split limit stream frames leftover) :
    Stream.ending limit leftover = .error .connectionClosed ↔
      leftover ≠ [] ∧ (leftover.length < Header.size ∨
        ∃ length, (Header.ofBytes leftover).bodyLength limit = .ok length ∧
          leftover.length < Header.size + length) := by
  rw [Stream.ending_eq_connectionClosed_iff]
  apply and_congr_right
  intro _
  constructor
  · intro part
    rcases Nat.lt_or_ge leftover.length Header.size with short | enough
    · left
      exact short
    · right
      rcases part with short | ⟨length, announced⟩
      · exact absurd short (Nat.not_lt.2 enough)
      · refine ⟨length, announced, ?_⟩
        apply Nat.not_le.1
        intro complete
        have found := Stream.next_of_ok enough announced
        rw [if_neg (Nat.not_lt.2 complete)] at found
        exact split.next_ne_some _ found
  · rintro (short | ⟨length, announced, _⟩)
    · left
      exact short
    · right
      exact ⟨length, announced⟩

theorem eq_of_bytes_eq {first second : Frame} {rest other : Bytes}
    (left : first.IsAcceptable limit) (right : second.IsAcceptable limit)
    (bytes_eq : first.bytes ++ rest = second.bytes ++ other) :
    first = second ∧ rest = other := by
  have found : Stream.next limit (first.bytes ++ rest) = .ok (some (first, rest)) :=
    Stream.next_eq_some_iff.2 ⟨rfl, left⟩
  rw [bytes_eq, Stream.next_eq_some_iff.2 ⟨rfl, right⟩] at found
  simp only [Except.ok.injEq, Option.some.injEq, Prod.mk.injEq] at found
  exact ⟨found.1.symm, found.2.symm⟩

/-- A stream is cut in one way. -/
theorem unique {stream leftover other : Bytes} {frames others : List Frame}
    (left : Split limit stream frames leftover) (right : Split limit stream others other) :
    frames = others ∧ leftover = other := by
  induction frames generalizing stream others with
  | nil =>
      have stream_eq : stream = leftover := by simpa using left.bytes_eq
      subst stream_eq
      cases others with
      | nil => exact ⟨rfl, by simpa using right.bytes_eq⟩
      | cons frame others =>
          rcases right.uncons with ⟨rest, bytes_eq, acceptable, _⟩
          exact absurd acceptable (left.maximal frame rest bytes_eq)
  | cons frame frames ih =>
      rcases left.uncons with ⟨rest, rfl, acceptable, tail⟩
      cases others with
      | nil =>
          have bytes_eq : other = frame.bytes ++ rest := by simpa using right.bytes_eq.symm
          exact absurd acceptable (right.maximal frame rest bytes_eq)
      | cons second others =>
          rcases right.uncons with ⟨behind, bytes_eq, second_acceptable, otherTail⟩
          rcases eq_of_bytes_eq acceptable second_acceptable bytes_eq with ⟨rfl, rfl⟩
          rcases ih tail otherTail with ⟨rfl, rfl⟩
          exact ⟨rfl, rfl⟩

end Split

end Frame

end DocumentProtocol
