import DocumentProtocol.Proofs.Document.Blocks
import DocumentProtocol.Proofs.Frame.Split

/-!
# Frames in one piece

A frame is made of a body, or read from bytes that are all of it. The first fails only if the length
of the message does not fit its header, and the frame then has its own size as its length. The
second succeeds for the bytes of an acceptable frame and for no others.

`Frame.IsWhole` says which bytes these are without a frame to compare them with: their number is
what the length field says. The main statement is that the two ways to a frame, the bytes of a frame
and the reader of a stream agree on all of them.
-/

namespace DocumentProtocol

namespace Frame

variable {requestId responseTo opcode : Int32} {body : Bytes}

/-- The frame that is made of a body has the given fields, and its own size as its length. -/
theorem make_eq_ok_iff {frame : Frame} :
    make requestId responseTo opcode body = .ok frame ↔
      frame.header.length.toInt = frame.size ∧ frame.header.requestId = requestId ∧
        frame.header.responseTo = responseTo ∧ frame.header.opcode = opcode ∧
        frame.body = body := by
  rcases frame with ⟨⟨length, _, _, _⟩, found⟩
  simp only [make, size]
  constructor
  · intro made
    split at made
    · rename_i fits
      simp only [Except.ok.injEq, mk.injEq, Header.mk.injEq] at made
      rcases made with ⟨⟨rfl, rfl, rfl, rfl⟩, rfl⟩
      exact ⟨Bytes.toInt_ofNat fits, rfl, rfl, rfl, rfl⟩
    · cases made
  · rintro ⟨length_eq, rfl, rfl, rfl, rfl⟩
    have fits : Header.size + found.length < Bytes.wordLimit := by
      have bound := length.toInt_lt
      simp only [Bytes.wordLimit]
      omega
    have length_eq : Int32.ofNat (Header.size + found.length) = length := by
      apply Int32.toInt_inj.1
      rw [Bytes.toInt_ofNat fits, length_eq]
    rw [if_pos fits, length_eq]

theorem make_eq_error_iff {error : ProtocolError} :
    make requestId responseTo opcode body = .error error ↔
      Bytes.wordLimit ≤ Header.size + body.length ∧
        error = .oversizedFrame (Header.size + body.length) := by
  simp only [make]
  split
  · simp only [reduceCtorEq, false_iff]
    omega
  · rename_i long
    simp only [Except.error.injEq, Nat.not_lt.1 long, true_and]
    exact eq_comm

/-- A body is made a frame unless the length of the message does not fit the header. -/
theorem exists_make_iff :
    (∃ frame, make requestId responseTo opcode body = .ok frame) ↔
      Header.size + body.length < Bytes.wordLimit := by
  simp only [make]
  split
  · rename_i fits
    exact ⟨fun _ => fits, fun _ => ⟨_, rfl⟩⟩
  · rename_i long
    simp [long]

/-- The frame that is read from some bytes is acceptable, and they are its bytes. -/
theorem ofBytes_eq_ok_iff {bytes : Bytes} {limit : Nat} {frame : Frame} :
    ofBytes bytes limit = .ok frame ↔ bytes = frame.bytes ∧ frame.IsAcceptable limit := by
  simp only [ofBytes, Header.read, Except.bind_eq_ok_iff]
  constructor
  · rintro ⟨header, read, length, announced, built⟩
    split at read
    · cases read
    · rename_i enough
      cases read
      split at built
      · cases built
      · rename_i length_eq
        cases built
        have enough := Nat.not_lt.1 enough
        have body : (bytes.drop Header.size).length = length := by
          rw [List.length_drop]
          omega
        constructor
        · rw [Frame.bytes, Header.bytes_ofBytes enough, List.take_append_drop]
        · apply isAcceptable_iff.2
          rwa [body]
  · rintro ⟨rfl, acceptable⟩
    have enough : ¬frame.bytes.length < Header.size := by
      rw [length_bytes, size]
      omega
    refine ⟨frame.header, ?_, frame.body.length, isAcceptable_iff.1 acceptable, ?_⟩
    · rw [if_neg enough, Frame.bytes, Header.ofBytes_append]
    · rw [if_neg (by simp [size]), Frame.bytes, List.drop_left' (Header.length_bytes _)]
      rfl

/-- The body of a frame whose length fits its header is shorter than the longest message. -/
theorem body_lt {frame : Frame} (length_eq : frame.header.length.toInt = frame.size) :
    frame.body.length < Bytes.wordLimit := by
  have bound := frame.header.length.toInt_lt
  simp only [size] at length_eq
  simp only [Bytes.wordLimit]
  omega

/-! ### Bytes that are one frame -/

/-- Whether bytes are one message within a limit: they hold a header, and it gives their number. -/
structure IsWhole (limit : Nat) (bytes : Bytes) : Prop where
  enough : Header.size ≤ bytes.length
  length_eq : (Bytes.toInt32 (bytes.take 4)).toInt = bytes.length
  length_le : bytes.length ≤ limit

/-- The frame that some bytes are, if they are one. -/
def ofWhole (bytes : Bytes) : Frame := ⟨Header.ofBytes bytes, bytes.drop Header.size⟩

theorem ofWhole_bytes (frame : Frame) : ofWhole frame.bytes = frame := by
  have body_eq : frame.bytes.drop Header.size = frame.body :=
    List.drop_left' (Header.length_bytes _)
  rw [ofWhole, body_eq, bytes, Header.ofBytes_append]

theorem bytes_ofWhole {bytes : Bytes} (enough : Header.size ≤ bytes.length) :
    (ofWhole bytes).bytes = bytes := by
  rw [Frame.bytes, ofWhole, Header.bytes_ofBytes enough, List.take_append_drop]

/-- The length in the header of an acceptable frame is the number of its bytes. -/
theorem isWhole_bytes_iff {limit : Nat} {frame : Frame} :
    IsWhole limit frame.bytes ↔ frame.IsAcceptable limit := by
  have first : Bytes.toInt32 (frame.bytes.take 4) = frame.header.length := by
    have header_eq : Header.ofBytes frame.bytes = frame.header := Header.ofBytes_append _ _
    exact congrArg Header.length header_eq
  constructor
  · rintro ⟨_, length_eq, length_le⟩
    rw [first, length_bytes] at length_eq
    rw [length_bytes] at length_le
    exact ⟨length_eq, length_le⟩
  · rintro ⟨length_eq, size_le⟩
    refine ⟨?_, ?_, ?_⟩
    · rw [length_bytes]
      exact Nat.le_add_right _ _
    · rw [first, length_bytes]
      exact length_eq
    · rw [length_bytes]
      exact size_le

/-- Bytes are read as one frame exactly when they are one, and then as the frame that they are. -/
theorem ofBytes_eq_ok_iff_isWhole {limit : Nat} {bytes : Bytes} {frame : Frame} :
    ofBytes bytes limit = .ok frame ↔ IsWhole limit bytes ∧ frame = ofWhole bytes := by
  rw [ofBytes_eq_ok_iff]
  constructor
  · rintro ⟨rfl, acceptable⟩
    refine ⟨isWhole_bytes_iff.2 acceptable, ?_⟩
    exact (ofWhole_bytes frame).symm
  · rintro ⟨whole, rfl⟩
    have bytes_eq := bytes_ofWhole whole.enough
    refine ⟨bytes_eq.symm, ?_⟩
    apply isWhole_bytes_iff.1
    rwa [bytes_eq]

/-- A frame that is acceptable within some limit is the one that is made of its body. -/
theorem IsAcceptable.make_eq {limit : Nat} {frame : Frame} (acceptable : frame.IsAcceptable limit) :
    make frame.header.requestId frame.header.responseTo frame.header.opcode frame.body =
      .ok frame := by
  apply make_eq_ok_iff.2
  exact ⟨acceptable.length_eq, rfl, rfl, rfl, rfl⟩

theorem isAcceptable_of_make {limit : Nat} {frame : Frame}
    (made : make requestId responseTo opcode body = .ok frame) (fits : frame.size ≤ limit) :
    frame.IsAcceptable limit where
  length_eq := (make_eq_ok_iff.1 made).1
  size_le := fits

/--
Bytes are read as one frame exactly when they hold a header, its length field is their number and
they keep the limit. The frame then has just these bytes, it is the one that is made of its own
fields and body, and a reader of streams finds it in front of the same bytes with nothing behind it.
Conversely a frame that was made of a body is read from its bytes within every limit that it keeps.
-/
theorem reads_whole_bytes (limit : Nat) :
    (∀ bytes frame, ofBytes bytes limit = .ok frame ↔
      IsWhole limit bytes ∧ frame = ofWhole bytes) ∧
    (∀ bytes frame, ofBytes bytes limit = .ok frame →
      frame.bytes = bytes ∧
      make frame.header.requestId frame.header.responseTo frame.header.opcode frame.body =
        .ok frame ∧
      Stream.next limit bytes = .ok (some (frame, []))) ∧
    ∀ requestId responseTo opcode body frame,
      make requestId responseTo opcode body = .ok frame → frame.size ≤ limit →
        ofBytes frame.bytes limit = .ok frame := by
  refine ⟨?_, ?_, ?_⟩
  · intro bytes frame
    exact ofBytes_eq_ok_iff_isWhole
  · intro bytes frame read
    rcases ofBytes_eq_ok_iff.1 read with ⟨rfl, acceptable⟩
    refine ⟨rfl, acceptable.make_eq, ?_⟩
    apply Stream.next_eq_some_iff.2
    exact ⟨(List.append_nil _).symm, acceptable⟩
  · intro requestId responseTo opcode body frame made fits
    apply ofBytes_eq_ok_iff.2
    exact ⟨rfl, isAcceptable_of_make made fits⟩

/-- A message with a body of two bytes. -/
def short : Bytes := [18, 0, 0, 0, 255, 255, 255, 255, 3, 0, 0, 0, 1, 0, 0, 0, 7, 9]

/-- The limit is sharp, and a byte too few or too many is noticed. -/
theorem reads_whole_bytes_short :
    ofBytes short 18 = .ok ⟨⟨18, -1, 3, 1⟩, [7, 9]⟩ ∧
      Stream.next 18 short = .ok (some (⟨⟨18, -1, 3, 1⟩, [7, 9]⟩, [])) ∧
      make (-1) 3 1 [7, 9] = .ok ⟨⟨18, -1, 3, 1⟩, [7, 9]⟩ ∧
      ofBytes (⟨⟨18, -1, 3, 1⟩, [7, 9]⟩ : Frame).bytes 18 = .ok ⟨⟨18, -1, 3, 1⟩, [7, 9]⟩ ∧
      (∀ frame, ofBytes short 17 ≠ .ok frame) ∧
      (∀ frame, ofBytes (short ++ [0]) 100 ≠ .ok frame) ∧
      ∀ frame, ofBytes short.dropLast 100 ≠ .ok frame := by
  have whole : IsWhole 18 short := ⟨by decide, by decide, by decide⟩
  have read := ((reads_whole_bytes 18).1 short ⟨⟨18, -1, 3, 1⟩, [7, 9]⟩).2 ⟨whole, by decide⟩
  have made : make (-1) 3 1 [7, 9] = .ok ⟨⟨18, -1, 3, 1⟩, [7, 9]⟩ := rfl
  refine ⟨read, ((reads_whole_bytes 18).2.1 _ _ read).2.2, made,
    (reads_whole_bytes 18).2.2 _ _ _ _ _ made (by decide), ?_, ?_, ?_⟩
  · intro frame read
    exact absurd (((reads_whole_bytes 17).1 _ _).1 read).1.length_le (by decide)
  · intro frame read
    exact absurd (((reads_whole_bytes 100).1 _ _).1 read).1.length_eq (by decide)
  · intro frame read
    exact absurd (((reads_whole_bytes 100).1 _ _).1 read).1.length_eq (by decide)

end Frame

end DocumentProtocol
