import DocumentProtocol.Proofs.Frame.Receiving

/-!
# Streams that differ in their headers

A change of headers that keeps the lengths leaves every stream of frames as long as it was, and each
frame in its place. `Frame.Changes` says that one stream is another with such a change made to all
its headers.

A reader goes by lengths, so it does the same with both streams: a receiver takes in as many bytes
of one as of the other, answers alike, and is left with its buffer in the same place of its memory
(`Receiver.Alike.receive`). This needs no more than that the streams are equally long and that their
first headers announce the same (`Stream.Alike`), since an answer is about the first frame. What the
frames in two answers are follows from the streams (`Receiver.Alike.receive_of_changes`).
-/

namespace DocumentProtocol

def Header.KeepsLength (change : Header → Header) : Prop :=
  ∀ header, (change header).length = header.length

namespace Frame

def mapHeader (change : Header → Header) (frame : Frame) : Frame :=
  { frame with header := change frame.header }

/-- Whether the header of a frame announces the size that the frame has. -/
def IsAnnounced (frame : Frame) : Prop := frame.header.length.toInt = frame.size

/-- Whether two streams are of the same frames, but that the headers in the first are changed. -/
structure Changes (change : Header → Header) (frames : List Frame) (first second : Bytes) :
    Prop where
  first_eq : first = allBytes (frames.map (mapHeader change))
  second_eq : second = allBytes frames
  announced : ∀ frame ∈ frames, frame.IsAnnounced

variable {change : Header → Header} {frame other : Frame} {frames others : List Frame}
  {first second third fourth rest otherRest : Bytes}

@[simp]
theorem size_mapHeader (change : Header → Header) (frame : Frame) :
    (frame.mapHeader change).size = frame.size := rfl

theorem IsAnnounced.isAcceptable {limit : Nat} (announced : frame.IsAnnounced)
    (size_le : frame.size ≤ limit) : frame.IsAcceptable limit :=
  ⟨announced, size_le⟩

theorem IsAnnounced.mapHeader (keeps : Header.KeepsLength change)
    (announced : frame.IsAnnounced) : (frame.mapHeader change).IsAnnounced := by
  have length_eq : (frame.mapHeader change).header.length = frame.header.length :=
    keeps frame.header
  rw [IsAnnounced, length_eq, announced, size_mapHeader]

/-- Frames of the sizes that they announce are equal when streams that begin with them are. -/
theorem IsAnnounced.eq_of_bytes_eq (announced : frame.IsAnnounced)
    (other_announced : other.IsAnnounced)
    (bytes_eq : frame.bytes ++ first = other.bytes ++ second) :
    frame = other ∧ first = second :=
  Split.eq_of_bytes_eq (announced.isAcceptable (Nat.le_max_left frame.size other.size))
    (other_announced.isAcceptable (Nat.le_max_right frame.size other.size)) bytes_eq

namespace Changes

theorem nil : Changes change [] [] [] := ⟨rfl, rfl, by simp⟩

theorem append (changes : Changes change frames first second)
    (more : Changes change others third fourth) :
    Changes change (frames ++ others) (first ++ third) (second ++ fourth) where
  first_eq := by rw [changes.first_eq, more.first_eq, List.map_append, allBytes_append]
  second_eq := by rw [changes.second_eq, more.second_eq, allBytes_append]
  announced frame mem :=
    (List.mem_append.1 mem).elim (changes.announced frame) (more.announced frame)

theorem singleton (announced : frame.IsAnnounced) :
    Changes change [frame] (frame.mapHeader change).bytes frame.bytes where
  first_eq := by simp
  second_eq := by simp
  announced := by simpa using announced

theorem length_eq (changes : Changes change frames first second) :
    first.length = second.length := by
  rw [changes.first_eq, changes.second_eq]
  clear changes
  induction frames with
  | nil => rfl
  | cons frame frames ih => simp [ih]

/-- Frames in front of two streams are the first frame of the streams, if they are announced. -/
theorem uncons (keeps : Header.KeepsLength change)
    (changes : Changes change frames (frame.bytes ++ first) (other.bytes ++ second))
    (announced : frame.IsAnnounced) (other_announced : other.IsAnnounced) :
    frame = other.mapHeader change ∧ ∃ rest, Changes change rest first second := by
  rcases changes with ⟨first_eq, second_eq, all_announced⟩
  cases frames with
  | nil =>
      have length_eq := congrArg List.length second_eq
      simp [size, Header.size] at length_eq
  | cons head rest =>
      have head_announced : head.IsAnnounced := all_announced head (by simp)
      simp only [List.map_cons, allBytes_cons] at first_eq second_eq
      rcases announced.eq_of_bytes_eq (head_announced.mapHeader keeps) first_eq with
        ⟨rfl, first_rest⟩
      rcases other_announced.eq_of_bytes_eq head_announced second_eq with ⟨rfl, second_rest⟩
      refine ⟨rfl, rest, first_rest, second_rest, ?_⟩
      intro frame mem
      exact all_announced frame (by simp [mem])

/-- A header that has come in both streams is changed in the first. -/
theorem header_eq (changes : Changes change frames (first ++ rest) (second ++ otherRest))
    (length_eq : first.length = second.length) (enough : Header.size ≤ first.length) :
    Header.ofBytes first = change (Header.ofBytes second) := by
  have other_enough : Header.size ≤ second.length := by rwa [← length_eq]
  rw [← Header.ofBytes_append_of_le enough rest,
    ← Header.ofBytes_append_of_le other_enough otherRest, changes.first_eq, changes.second_eq]
  cases frames with
  | nil =>
      have empty := congrArg List.length changes.first_eq
      simp only [Header.size, List.length_append, List.map_nil, allBytes_nil, List.length_nil]
        at enough empty
      omega
  | cons frame frames =>
      simp only [List.map_cons, allBytes_cons, bytes, mapHeader, List.append_assoc,
        Header.ofBytes_append]

end Changes

/-! ### What a reader goes by -/

namespace Stream

/-- Whether two streams are equally long and their first headers announce the same length. -/
structure Alike (first second : Bytes) : Prop where
  length_eq : first.length = second.length
  announced_eq : Header.size ≤ first.length →
    (Header.ofBytes first).length = (Header.ofBytes second).length

/-- What has come of two streams that are alike is alike, if it is equally long. -/
theorem Alike.of_append (alike : Alike (first ++ rest) (second ++ otherRest))
    (length_eq : first.length = second.length) : Alike first second where
  length_eq := length_eq
  announced_eq enough := by
    have announced_eq := alike.announced_eq (Nat.le_trans enough (by simp))
    rwa [Header.ofBytes_append_of_le enough,
      Header.ofBytes_append_of_le (length_eq ▸ enough)] at announced_eq

/-- Whether looking into two buffers comes to the same, up to what the bytes are. -/
inductive FindsAlike : Except ProtocolError (Option (Frame × Bytes)) →
    Except ProtocolError (Option (Frame × Bytes)) → Prop where
  | failed (error : ProtocolError) : FindsAlike (.error error) (.error error)
  | waits : FindsAlike (.ok none) (.ok none)
  | frame {frame other : Frame} {rest otherRest : Bytes} (size_eq : frame.size = other.size)
      (length_eq : rest.length = otherRest.length) :
      FindsAlike (.ok (some (frame, rest))) (.ok (some (other, otherRest)))

namespace Alike

theorem bodyLength_eq (alike : Alike first second) (enough : Header.size ≤ first.length)
    (limit : Nat) :
    (Header.ofBytes first).bodyLength limit = (Header.ofBytes second).bodyLength limit := by
  simp only [Header.bodyLength, alike.announced_eq enough]

theorem missing_eq (alike : Alike first second) (limit : Nat) :
    missing limit first = missing limit second := by
  unfold missing
  by_cases short : first.length < Header.size
  · rw [if_pos short, if_pos (alike.length_eq ▸ short)]
  · rw [if_neg short, if_neg (alike.length_eq ▸ short),
      alike.bodyLength_eq (Nat.not_lt.1 short), alike.length_eq]

theorem next (alike : Alike first second) (limit : Nat) :
    FindsAlike (next limit first) (next limit second) := by
  by_cases enough : Header.size ≤ first.length
  · have other_enough : Header.size ≤ second.length := alike.length_eq ▸ enough
    have announced_eq := alike.bodyLength_eq enough limit
    cases announced : (Header.ofBytes second).bodyLength limit with
    | error error =>
        rw [announced] at announced_eq
        rw [next_of_error enough announced_eq, next_of_error other_enough announced]
        exact .failed error
    | ok length =>
        rw [announced] at announced_eq
        rw [next_of_ok enough announced_eq, next_of_ok other_enough announced, alike.length_eq]
        split
        · exact .waits
        · exact .frame (by simp [size, alike.length_eq]) (by simp [alike.length_eq])
  · rw [next_of_short (Nat.not_le.1 enough),
      next_of_short (alike.length_eq ▸ Nat.not_le.1 enough)]
    exact .waits

theorem last (alike : Alike first second) (limit : Nat) :
    FindsAlike (last limit first) (last limit second) := by
  have empty_iff : first = [] ↔ second = [] := by
    rw [← List.length_eq_zero_iff, alike.length_eq, List.length_eq_zero_iff]
  have found := alike.next limit
  simp only [Stream.last, bind, Except.bind, empty_iff]
  generalize Stream.next limit first = one at found ⊢
  generalize Stream.next limit second = another at found ⊢
  cases found with
  | failed error => exact .failed error
  | waits =>
      dsimp only
      split
      · exact .waits
      · exact .failed .connectionClosed
  | frame size_eq length_eq => exact .frame size_eq length_eq

end Alike

end Stream

theorem Changes.alike (keeps : Header.KeepsLength change)
    (changes : Changes change frames (first ++ rest) (second ++ otherRest))
    (length_eq : first.length = second.length) : Stream.Alike first second where
  length_eq := length_eq
  announced_eq enough := by rw [changes.header_eq length_eq enough, keeps]

namespace Receiver

/-! ### Receivers -/

/-- Whether two receivers differ in what bytes are in their buffers at most. -/
inductive Alike : Receiver → Receiver → Prop where
  | mk {receiver : Receiver} {buffer : Bytes} (length_eq : receiver.buffer.length = buffer.length) :
      Alike receiver { receiver with buffer := buffer }

/-- Whether two answers differ in what bytes are in their frames at most. -/
inductive Answer.Alike : Answer → Answer → Prop where
  | frame {frame other : Frame} (size_eq : frame.size = other.size) :
      Alike (.frame frame) (.frame other)
  | failed (error : ProtocolError) : Alike (.failed error) (.failed error)
  | ended : Alike .ended .ended

/-- Whether as much stays on two streams, with answers that are alike. -/
structure LeavesAlike (one another : Answer × Bytes) : Prop where
  answer : one.1.Alike another.1
  length_eq : one.2.length = another.2.length

namespace Alike

variable {receiver other : Receiver} {arrived others : Bytes}

theorem refl (receiver : Receiver) : receiver.Alike receiver := .mk rfl

theorem length_eq (alike : receiver.Alike other) :
    receiver.buffer.length = other.buffer.length := by
  cases alike
  assumption

theorem hasSeenEnd_eq (alike : receiver.Alike other) : receiver.hasSeenEnd = other.hasSeenEnd := by
  cases alike
  rfl

theorem isReadable_eq (alike : receiver.Alike other) : receiver.isReadable = other.isReadable := by
  cases alike
  rfl

theorem hasFailed_eq (alike : receiver.Alike other) : receiver.hasFailed = other.hasFailed := by
  cases alike
  rfl

/-- After an answer to an error, receivers are alike as before. -/
theorem recover (alike : receiver.Alike other) :
    Alike { receiver with hasFailed := false, isReadable := false }
      { other with hasFailed := false, isReadable := false } := by
  cases alike with
  | mk length_eq => exact .mk length_eq

theorem room_eq (alike : receiver.Alike other) : receiver.room = other.room := by
  cases alike with
  | mk length_eq => simp only [room, length_eq]

theorem fill (alike : receiver.Alike other) (length_eq : arrived.length = others.length) :
    (receiver.fill arrived).Alike (other.fill others) := by
  cases alike with
  | mk buffer_length => exact .mk (by simp [Receiver.fill, buffer_length, length_eq])

theorem makeRoom (alike : receiver.Alike other) (size : Nat) :
    (receiver.makeRoom size).Alike (other.makeRoom size) := by
  cases alike with
  | mk length_eq =>
      simp only [Receiver.makeRoom, room, ← length_eq]
      by_cases fits : size ≤ receiver.capacity - (receiver.gap + receiver.buffer.length)
      · simp only [fits, ↓reduceIte]
        exact .mk length_eq
      · simp only [fits, ↓reduceIte]
        by_cases moves : receiver.buffer.length ≤ receiver.gap ∧
          receiver.buffer.length + size ≤ receiver.capacity
        · simp only [moves, and_self, ↓reduceIte]
          exact .mk length_eq
        · simp only [moves, ↓reduceIte]
          exact .mk length_eq

theorem look (alike : receiver.Alike other) (limit : Nat)
    (same : Stream.Alike receiver.buffer other.buffer) :
    Option.Rel Answer.Alike (receiver.look limit).1 (other.look limit).1 ∧
      (receiver.look limit).2.Alike (other.look limit).2 := by
  have ready := alike.makeRoom (Stream.missing limit other.buffer)
  simp only [Receiver.look, same.missing_eq limit]
  generalize Stream.missing limit other.buffer = missing at ready ⊢
  rw [← buffer_makeRoom missing receiver, ← buffer_makeRoom missing other] at same
  generalize receiver.makeRoom missing = prepared at ready same ⊢
  generalize other.makeRoom missing = otherPrepared at ready same ⊢
  cases ready with
  | @mk buffer length_eq =>
      have found : Stream.FindsAlike
          (if prepared.hasSeenEnd then Stream.last limit prepared.buffer
            else Stream.next limit prepared.buffer)
          (if prepared.hasSeenEnd then Stream.last limit buffer else Stream.next limit buffer) := by
        split
        · exact same.last limit
        · exact same.next limit
      dsimp only
      generalize (if prepared.hasSeenEnd then Stream.last limit prepared.buffer
        else Stream.next limit prepared.buffer) = one at found ⊢
      generalize (if prepared.hasSeenEnd then Stream.last limit buffer
        else Stream.next limit buffer) = another at found ⊢
      cases found with
      | failed error => exact ⟨.some (.failed error), .mk length_eq⟩
      | waits =>
          dsimp only
          split
          · exact ⟨.some .ended, .mk length_eq⟩
          · exact ⟨.none, .mk length_eq⟩
      | frame size_eq rest_length =>
          dsimp only
          rw [size_eq]
          exact ⟨.some (.frame size_eq), .mk rest_length⟩

theorem atEnd (alike : receiver.Alike other) (limit : Nat)
    (same : Stream.Alike receiver.buffer other.buffer) :
    (receiver.atEnd limit).1.Alike (other.atEnd limit).1 ∧
      (receiver.atEnd limit).2.Alike (other.atEnd limit).2 := by
  have readable : Alike { receiver with isReadable := true, hasSeenEnd := true }
      { other with isReadable := true, hasSeenEnd := true } := by
    cases alike with
    | mk length_eq => exact .mk length_eq
  have looked := readable.look limit same
  simp only [Receiver.atEnd]
  generalize Receiver.look limit { receiver with isReadable := true, hasSeenEnd := true } = one
    at looked ⊢
  generalize Receiver.look limit { other with isReadable := true, hasSeenEnd := true } = another
    at looked ⊢
  rcases one with ⟨answer, after⟩
  rcases another with ⟨otherAnswer, otherAfter⟩
  rcases looked with ⟨answers, afters⟩
  cases answers with
  | some answers => exact ⟨answers, afters⟩
  | none => exact ⟨.ended, afters⟩

/-- Looking after as much has been taken in as there is room for. -/
theorem look_fill (alike : receiver.Alike other) (limit : Nat)
    (length_eq : arrived.length = others.length)
    (same : Stream.Alike (receiver.buffer ++ arrived) (other.buffer ++ others)) :
    Option.Rel Answer.Alike ((receiver.fill (arrived.take receiver.room)).look limit).1
        ((other.fill (others.take other.room)).look limit).1 ∧
      ((receiver.fill (arrived.take receiver.room)).look limit).2.Alike
        ((other.fill (others.take other.room)).look limit).2 := by
  have taken : (arrived.take receiver.room).length = (others.take other.room).length := by
    rw [List.length_take, List.length_take, length_eq, alike.room_eq]
  have filled := alike.fill taken
  apply filled.look limit
  rw [← List.take_append_drop receiver.room arrived, ← List.take_append_drop other.room others,
    ← List.append_assoc, ← List.append_assoc] at same
  exact same.of_append filled.length_eq

/-- Taking in what has arrived leaves as much of it on one stream as on the other. -/
theorem takeIn (alike : receiver.Alike other) (limit : Nat)
    (length_eq : arrived.length = others.length)
    (same : Stream.Alike (receiver.buffer ++ arrived) (other.buffer ++ others))
    (isFinished : Bool) :
    Option.Rel LeavesAlike (receiver.takeIn limit arrived isFinished).1
        (other.takeIn limit others isFinished).1 ∧
      (receiver.takeIn limit arrived isFinished).2.Alike
        (other.takeIn limit others isFinished).2 := by
  fun_induction Receiver.takeIn limit receiver arrived isFinished generalizing other others with
  | case1 receiver ready =>
      rename_i unfinished
      cases List.length_eq_zero_iff.1 length_eq.symm
      rw [Receiver.takeIn]
      simp only [↓reduceIte, unfinished]
      exact ⟨.none, alike.makeRoom 1⟩
  | case2 receiver ready finished =>
      rename_i seen
      cases List.length_eq_zero_iff.1 length_eq.symm
      have readies := alike.makeRoom 1
      rw [readies.hasSeenEnd_eq] at seen
      rw [Receiver.takeIn]
      simp only [↓reduceIte, finished, seen]
      exact ⟨.some ⟨.ended, rfl⟩, readies⟩
  | case3 receiver ready finished unseen answer after =>
      rename_i looked
      cases List.length_eq_zero_iff.1 length_eq.symm
      have readies := alike.makeRoom 1
      have ended := readies.atEnd limit (by simpa using same)
      rw [looked] at ended
      rw [readies.hasSeenEnd_eq] at unseen
      rw [Receiver.takeIn]
      simp only [↓reduceIte, finished, unseen]
      exact ⟨.some ⟨ended.1, rfl⟩, ended.2⟩
  | case4 receiver arrived ready present answer after =>
      rename_i looked
      have readies := alike.makeRoom 1
      have other_present : others ≠ [] := by
        rwa [← List.length_pos_iff, ← length_eq, List.length_pos_iff]
      have looks := readies.look_fill limit length_eq (by simpa using same)
      rw [looked] at looks
      rw [Receiver.takeIn, if_neg other_present]
      generalize Receiver.look limit (Receiver.fill _ (other.makeRoom 1)) = found at looks ⊢
      rcases found with ⟨_, otherAfter⟩
      rcases looks with ⟨⟨answers⟩, afters⟩
      refine ⟨.some ⟨answers, ?_⟩, afters⟩
      simp only [List.length_drop, length_eq, ready, readies.room_eq]
  | case5 receiver arrived ready present after looked =>
      rename_i ih
      have readies := alike.makeRoom 1
      have other_present : others ≠ [] := by
        rwa [← List.length_pos_iff, ← length_eq, List.length_pos_iff]
      have looks := readies.look_fill limit length_eq (by simpa using same)
      rw [looked] at looks
      rw [takeIn.eq_def limit other others, if_neg other_present]
      generalize found_eq : Receiver.look limit (Receiver.fill _ (other.makeRoom 1)) = found
        at looks ⊢
      rcases found with ⟨_, otherAfter⟩
      rcases looks with ⟨⟨⟩, afters⟩
      apply ih afters
      · simp only [List.length_drop, length_eq, ready, readies.room_eq]
      · rw [buffer_of_look _ looked, buffer_of_look _ found_eq]
        simpa [Receiver.fill, ready] using same

theorem receive (alike : receiver.Alike other) (limit : Nat)
    (length_eq : arrived.length = others.length)
    (same : Stream.Alike (receiver.buffer ++ arrived) (other.buffer ++ others))
    (isFinished : Bool) :
    Option.Rel LeavesAlike (receiver.receive limit arrived isFinished).1
        (other.receive limit others isFinished).1 ∧
      (receiver.receive limit arrived isFinished).2.Alike
        (other.receive limit others isFinished).2 := by
  have buffers : Stream.Alike receiver.buffer other.buffer := same.of_append alike.length_eq
  have looks := alike.look limit buffers
  simp only [Receiver.receive, alike.hasFailed_eq, alike.isReadable_eq]
  split
  · exact ⟨.some ⟨.ended, length_eq⟩, alike.recover⟩
  · split
    · generalize looked : receiver.look limit = found at looks ⊢
      generalize other_looked : other.look limit = otherFound at looks ⊢
      rcases found with ⟨answer, after⟩
      rcases otherFound with ⟨otherAnswer, otherAfter⟩
      rcases looks with ⟨answers, afters⟩
      cases answers with
      | some answers => exact ⟨.some ⟨answers, length_eq⟩, afters⟩
      | none =>
          rw [← buffer_of_look _ looked, ← buffer_of_look _ other_looked] at same
          exact afters.takeIn limit length_eq same isFinished
    · exact alike.takeIn limit length_eq same isFinished

end Alike

/-! ### Frames in answers -/

variable {receiver other : Receiver} {arrived others : Bytes}

/-- Whether two answers are the same, but that the header in the first is changed. -/
inductive Answer.IsChanged (change : Header → Header) : Answer → Answer → Prop where
  | frame (frame : Frame) : IsChanged change (.frame (frame.mapHeader change)) (.frame frame)
  | failed (error : ProtocolError) : IsChanged change (.failed error) (.failed error)
  | ended : IsChanged change .ended .ended

/--
What two receivers answer and leave of streams that differ in their headers. Some of the streams has
not arrived; that and what is left are of the same frames again.
-/
structure LeavesChanged (change : Header → Header) (coming otherComing : Bytes)
    (receiver other : Receiver) (one another : Answer × Bytes) : Prop where
  answer : one.1.IsChanged change another.1
  length_eq : one.2.length = another.2.length
  changes : ∃ frames, Changes change frames (receiver.buffer ++ one.2 ++ coming)
    (other.buffer ++ another.2 ++ otherComing)

/-- A request for a frame takes the same frame off both streams, up to its header, or none. -/
theorem Alike.receive_of_changes {coming otherComing : Bytes} (keeps : Header.KeepsLength change)
    (alike : receiver.Alike other) (limit : Nat) (length_eq : arrived.length = others.length)
    (changes : Changes change frames (receiver.buffer ++ arrived ++ coming)
      (other.buffer ++ others ++ otherComing)) (isFinished : Bool) :
    Option.Rel
        (LeavesChanged change coming otherComing (receiver.receive limit arrived isFinished).2
          (other.receive limit others isFinished).2)
        (receiver.receive limit arrived isFinished).1 (other.receive limit others isFinished).1 ∧
      (receiver.receive limit arrived isFinished).2.Alike
        (other.receive limit others isFinished).2 := by
  have available_length :
      (receiver.buffer ++ arrived).length = (other.buffer ++ others).length := by
    rw [List.length_append, List.length_append, alike.length_eq, length_eq]
  have received := alike.receive limit length_eq (changes.alike keeps available_length) isFinished
  have conserves := conserves_receive limit receiver arrived isFinished
  have other_conserves := conserves_receive limit other others isFinished
  generalize receiver.receive limit arrived isFinished = one at received conserves ⊢
  generalize other.receive limit others isFinished = another at received other_conserves ⊢
  rcases one with ⟨answer, after⟩
  rcases another with ⟨otherAnswer, otherAfter⟩
  rcases received with ⟨answers, afters⟩
  refine ⟨?_, afters⟩
  cases answers with
  | none => exact .none
  | @some one another leaves =>
      rcases one with ⟨answer, left⟩
      rcases another with ⟨otherAnswer, otherLeft⟩
      rcases leaves with ⟨answers, left_length⟩
      apply Option.Rel.some
      cases answers with
      | @frame first second size_eq =>
          cases conserves with
          | frame acceptable available_eq =>
              cases other_conserves with
              | frame other_acceptable other_available =>
                  rw [available_eq, other_available, List.append_assoc first.bytes,
                    List.append_assoc second.bytes] at changes
                  rcases changes.uncons keeps acceptable.length_eq other_acceptable.length_eq with
                    ⟨rfl, rest, changes⟩
                  exact ⟨.frame _, left_length, rest, changes⟩
      | failed error =>
          cases conserves with
          | failed available_eq =>
              cases other_conserves with
              | failed other_available =>
                  rw [available_eq, other_available] at changes
                  exact ⟨.failed error, left_length, _, changes⟩
      | ended =>
          cases conserves with
          | ended available_eq =>
              cases other_conserves with
              | ended other_available =>
                  rw [available_eq, other_available] at changes
                  exact ⟨.ended, left_length, _, changes⟩

end Receiver

end Frame

end DocumentProtocol
