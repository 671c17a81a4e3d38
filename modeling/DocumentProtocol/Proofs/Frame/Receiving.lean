import DocumentProtocol.Frame.Receiver
import DocumentProtocol.Proofs.Frame.Segmentation

/-!
# What a receiver answers

`Receiver.Receives` lists what a request for a frame comes to, in terms of the bytes that are at
hand, whether they are in the buffer or have only arrived: the first frame of these bytes, the error
of a bad header in front of them, the end of the stream inside a frame or between frames, or nothing
while the bytes end inside a frame and more may come. How the buffer lies in memory and how many
bytes are taken in at a time makes no difference.

A receiver that `Receiver.IsReady` has met no error and not the end of the stream; a request for a
frame keeps it ready unless the answer is the last one.

`Receiver.Conserves` says less, and of all receivers, also of one that has failed: a request for a
frame takes nothing off the bytes at hand but the frame that is its answer.
-/

namespace DocumentProtocol

namespace Frame

namespace Receiver

section Room

variable (size : Nat) (receiver : Receiver)

@[simp]
theorem buffer_makeRoom : (receiver.makeRoom size).buffer = receiver.buffer := by
  simp only [makeRoom]
  split
  · rfl
  · split <;> rfl

@[simp]
theorem isReadable_makeRoom : (receiver.makeRoom size).isReadable = receiver.isReadable := by
  simp only [makeRoom]
  split
  · rfl
  · split <;> rfl

@[simp]
theorem hasSeenEnd_makeRoom : (receiver.makeRoom size).hasSeenEnd = receiver.hasSeenEnd := by
  simp only [makeRoom]
  split
  · rfl
  · split <;> rfl

@[simp]
theorem hasFailed_makeRoom : (receiver.makeRoom size).hasFailed = receiver.hasFailed := by
  simp only [makeRoom]
  split
  · rfl
  · split <;> rfl

end Room

/-- Whether a receiver has met neither an error nor the end of its stream. -/
structure IsReady (limit : Nat) (receiver : Receiver) : Prop where
  hasFailed_eq : receiver.hasFailed = false
  hasSeenEnd_eq : receiver.hasSeenEnd = false
  /-- There is no frame in a buffer that is not looked into. -/
  next_eq : receiver.isReadable = false → Stream.next limit receiver.buffer = .ok none

theorem isReady_fresh (limit : Nat) : ({} : Receiver).IsReady limit where
  hasFailed_eq := rfl
  hasSeenEnd_eq := rfl
  next_eq _ := Stream.next_of_short (by simp [Header.size])

/-- What a request for a frame comes to, and the receiver after it, when some bytes are at hand. -/
inductive Receives (limit : Nat) (available : Bytes) (isFinished : Bool) :
    Option (Answer × Bytes) → Receiver → Prop where
  | frame {frame : Frame} {rest : Bytes} {after : Receiver} (ready : after.IsReady limit)
      (acceptable : frame.IsAcceptable limit)
      (available_eq : available = frame.bytes ++ (after.buffer ++ rest)) :
      Receives limit available isFinished (some (.frame frame, rest)) after
  | bad {error : ProtocolError} {part rest : Bytes} {after : Receiver}
      (available_eq : available = part ++ rest) (failed : Stream.next limit part = .error error) :
      Receives limit available isFinished (some (.failed error, rest)) after
  | cut {after : Receiver} (finished : isFinished = true) (present : available ≠ [])
      (missing : Stream.next limit available = .ok none) :
      Receives limit available isFinished (some (.failed .connectionClosed, [])) after
  | ended {after : Receiver} (finished : isFinished = true) (empty : available = []) :
      Receives limit available isFinished (some (.ended, [])) after
  | waits {after : Receiver} (ready : after.IsReady limit) (unfinished : isFinished = false)
      (buffer_eq : after.buffer = available)
      (missing : Stream.next limit available = .ok none) :
      Receives limit available isFinished none after

variable {limit : Nat} {receiver : Receiver} {rest arrived : Bytes} {isFinished : Bool}

/-- The receiver with room for what its buffer is known to lack. -/
def prepare (limit : Nat) (receiver : Receiver) : Receiver :=
  receiver.makeRoom (Stream.missing limit receiver.buffer)

section Look

variable (unended : receiver.hasSeenEnd = false)

include unended

theorem look_of_error {error : ProtocolError}
    (failed : Stream.next limit receiver.buffer = .error error) :
    receiver.look limit =
      (some (.failed error), { receiver.prepare limit with hasFailed := true }) := by
  simp [look, prepare, unended, failed]

theorem look_of_some {frame : Frame} {others : Bytes}
    (found : Stream.next limit receiver.buffer = .ok (some (frame, others))) :
    receiver.look limit = (some (.frame frame),
      { receiver.prepare limit with
        buffer := others, gap := (receiver.prepare limit).gap + frame.size }) := by
  simp [look, prepare, unended, found]

theorem look_of_none (missing : Stream.next limit receiver.buffer = .ok none) :
    receiver.look limit = (none, { receiver.prepare limit with isReadable := false }) := by
  simp [look, prepare, unended, missing]

end Look

/-- What a look that has an answer comes to, when more bytes wait behind the buffer. -/
theorem receives_of_look (sound : receiver.hasFailed = false)
    (unended : receiver.hasSeenEnd = false) (readable : receiver.isReadable = true)
    {answer : Answer} {after : Receiver} (looked : receiver.look limit = (some answer, after)) :
    Receives limit (receiver.buffer ++ rest) isFinished (some (answer, rest)) after := by
  cases next : Stream.next limit receiver.buffer with
  | error error =>
      rw [look_of_error unended next] at looked
      cases looked
      exact .bad rfl next
  | ok found =>
      cases found with
      | none =>
          rw [look_of_none unended next] at looked
          cases looked
      | some found =>
          rcases found with ⟨frame, others⟩
          rw [look_of_some unended next] at looked
          cases looked
          rcases Stream.next_eq_some_iff.1 next with ⟨buffer_eq, acceptable⟩
          refine .frame ⟨?_, ?_, ?_⟩ acceptable ?_
          · simpa [prepare] using sound
          · simpa [prepare] using unended
          · intro unreadable
            simp [prepare, readable] at unreadable
          · rw [buffer_eq, List.append_assoc]

/-- After a look without an answer, the same bytes are known to hold no frame. -/
theorem missing_of_look (sound : receiver.hasFailed = false)
    (unended : receiver.hasSeenEnd = false) {after : Receiver}
    (looked : receiver.look limit = (none, after)) :
    Stream.next limit receiver.buffer = .ok none ∧ after.buffer = receiver.buffer ∧
      after.hasFailed = false ∧ after.hasSeenEnd = false := by
  cases next : Stream.next limit receiver.buffer with
  | error error =>
      rw [look_of_error unended next] at looked
      cases looked
  | ok found =>
      cases found with
      | some found =>
          rw [look_of_some unended next] at looked
          cases looked
      | none =>
          rw [look_of_none unended next] at looked
          cases looked
          refine ⟨rfl, ?_, ?_, ?_⟩
          · simp [prepare]
          · simpa [prepare] using sound
          · simpa [prepare] using unended

theorem receives_of_atEnd (missing : Stream.next limit receiver.buffer = .ok none)
    {answer : Answer} {after : Receiver} (looked : receiver.atEnd limit = (answer, after)) :
    Receives limit receiver.buffer true (some (answer, [])) after := by
  simp only [atEnd, look, hasSeenEnd_makeRoom, buffer_makeRoom, ↓reduceIte,
    Stream.last_of_none missing] at looked
  by_cases empty : receiver.buffer = []
  · simp only [empty, ↓reduceIte, Prod.mk.injEq] at looked
    rw [← looked.1, empty]
    exact .ended rfl rfl
  · simp only [empty, ↓reduceIte, Prod.mk.injEq] at looked
    rw [← looked.1]
    exact .cut rfl empty missing

/-- Taking in what has arrived, when the buffer holds no frame. -/
theorem receives_takeIn (sound : receiver.hasFailed = false)
    (unended : receiver.hasSeenEnd = false)
    (missing : Stream.next limit receiver.buffer = .ok none) :
    Receives limit (receiver.buffer ++ arrived) isFinished
      (receiver.takeIn limit arrived isFinished).1
      (receiver.takeIn limit arrived isFinished).2 := by
  fun_induction takeIn limit receiver arrived isFinished with
  | case1 receiver ready unfinished =>
      have unfinished : isFinished = false := by simpa using unfinished
      rw [List.append_nil]
      apply Receives.waits _ unfinished
      · simp [ready]
      · exact missing
      · exact
          { hasFailed_eq := by simpa [ready] using sound
            hasSeenEnd_eq := by simpa [ready] using unended
            next_eq := by
              intro _
              simpa [ready] using missing }
  | case2 receiver ready finished seen =>
      simp [ready, unended] at seen
  | case3 receiver ready finished unseen answer after looked =>
      have finished : isFinished = true := by simpa using finished
      have still : Stream.next limit ready.buffer = .ok none := by simpa [ready] using missing
      have atEnd := receives_of_atEnd still looked
      rw [finished, List.append_nil]
      simpa [ready] using atEnd
  | case4 receiver arrived ready present answer after looked =>
      have filled : (ready.fill (arrived.take ready.room)).hasFailed = false := by
        simpa [fill, ready] using sound
      have received : Receives limit _ isFinished (some (answer, arrived.drop ready.room)) after :=
        receives_of_look filled rfl rfl looked
      simpa [fill, ready] using received
  | case5 receiver arrived ready present after looked ih =>
      have filled : (ready.fill (arrived.take ready.room)).hasFailed = false := by
        simpa [fill, ready] using sound
      rcases missing_of_look filled rfl looked with ⟨still, buffer_eq, sound, unended⟩
      rw [← buffer_eq] at still
      have received := ih sound unended still
      rw [buffer_eq] at received
      simpa [fill, ready] using received

/-- What a ready receiver answers is decided by the bytes at hand. -/
theorem receives_receive (ready : receiver.IsReady limit) (arrived : Bytes) (isFinished : Bool) :
    Receives limit (receiver.buffer ++ arrived) isFinished
      (receiver.receive limit arrived isFinished).1
      (receiver.receive limit arrived isFinished).2 := by
  rcases ready with ⟨sound, unended, looked⟩
  simp only [receive, sound, Bool.false_eq_true, ↓reduceIte]
  split
  · rename_i readable
    split
    · rename_i answer after looked
      exact receives_of_look sound unended readable looked
    · rename_i after looked
      rcases missing_of_look sound unended looked with ⟨missing, buffer_eq, sound, unended⟩
      rw [← buffer_eq] at missing ⊢
      exact receives_takeIn sound unended missing
  · rename_i unreadable
    exact receives_takeIn sound unended (looked (Bool.eq_false_iff.2 unreadable))

/--
A request for a frame finds the frame that the stream begins with, or takes in what is at hand of it
and waits.
-/
theorem Receives.finds {available more : Bytes} {outcome : Option (Answer × Bytes)}
    {after : Receiver} (receives : Receives limit available isFinished outcome after)
    {frame : Frame} (acceptable : frame.IsAcceptable limit)
    (last : isFinished = true → more = []) (stream_eq : available ++ more = frame.bytes ++ rest) :
    (∃ left, outcome = some (.frame frame, left)) ∨
      outcome = none ∧ after.IsReady limit ∧ after.buffer = available ∧ more ≠ [] := by
  have found : Stream.next limit (available ++ more) = .ok (some (frame, rest)) :=
    Stream.next_eq_some_iff.2 ⟨stream_eq, acceptable⟩
  cases receives with
  | @frame first left after ready first_acceptable available_eq =>
      left
      rw [available_eq, List.append_assoc] at stream_eq
      rcases Split.eq_of_bytes_eq first_acceptable acceptable stream_eq with ⟨rfl, _⟩
      exact ⟨left, rfl⟩
  | bad available_eq failed =>
      rw [available_eq, List.append_assoc, Stream.next_append_of_error failed] at found
      cases found
  | cut finished present missing =>
      rw [last finished, List.append_nil, missing] at found
      cases found
  | ended finished empty =>
      rw [last finished, empty, List.append_nil, Stream.next_of_short (by decide)] at found
      cases found
  | waits ready unfinished buffer_eq missing =>
      right
      refine ⟨rfl, ready, buffer_eq, ?_⟩
      rintro rfl
      rw [List.append_nil, missing] at found
      cases found

/-! ### Whatever has happened to a receiver -/

/--
What becomes of the bytes at hand: a frame is taken off their front, if a frame is the answer, and
all others stay in the buffer or on the stream.
-/
inductive Conserves (limit : Nat) (available : Bytes) :
    Option (Answer × Bytes) → Receiver → Prop where
  | frame {frame : Frame} {rest : Bytes} {after : Receiver} (acceptable : frame.IsAcceptable limit)
      (available_eq : available = frame.bytes ++ (after.buffer ++ rest)) :
      Conserves limit available (some (.frame frame, rest)) after
  | failed {error : ProtocolError} {rest : Bytes} {after : Receiver}
      (available_eq : available = after.buffer ++ rest) :
      Conserves limit available (some (.failed error, rest)) after
  | ended {rest : Bytes} {after : Receiver} (available_eq : available = after.buffer ++ rest) :
      Conserves limit available (some (.ended, rest)) after
  | waits {after : Receiver} (buffer_eq : after.buffer = available) :
      Conserves limit available none after

/-- Bytes that come later stay on the stream. -/
theorem Conserves.append {available rest : Bytes} {answer : Answer} {after : Receiver}
    (conserves : Conserves limit available (some (answer, rest)) after) (more : Bytes) :
    Conserves limit (available ++ more) (some (answer, rest ++ more)) after := by
  cases conserves with
  | frame acceptable available_eq =>
      apply Conserves.frame acceptable
      simp [available_eq]
  | failed available_eq =>
      apply Conserves.failed
      simp [available_eq]
  | ended available_eq =>
      apply Conserves.ended
      simp [available_eq]

theorem conserves_of_look (receiver : Receiver) (rest : Bytes) {answer : Answer} {after : Receiver}
    (looked : receiver.look limit = (some answer, after)) :
    Conserves limit (receiver.buffer ++ rest) (some (answer, rest)) after := by
  simp only [look, hasSeenEnd_makeRoom, buffer_makeRoom] at looked
  split at looked
  · cases looked
    apply Conserves.failed
    simp
  · rename_i frame others found
    have next : Stream.next limit receiver.buffer = .ok (some (frame, others)) := by
      split at found
      · exact Stream.last_eq_some_iff.1 found
      · exact found
    rcases Stream.next_eq_some_iff.1 next with ⟨buffer_eq, acceptable⟩
    cases looked
    apply Conserves.frame acceptable
    rw [buffer_eq, List.append_assoc]
  · split at looked
    · cases looked
      apply Conserves.ended
      simp
    · cases looked

theorem buffer_of_look (receiver : Receiver) {after : Receiver}
    (looked : receiver.look limit = (none, after)) : after.buffer = receiver.buffer := by
  simp only [look, hasSeenEnd_makeRoom, buffer_makeRoom] at looked
  split at looked
  · cases looked
  · cases looked
  · split at looked
    · cases looked
    · cases looked
      simp

theorem conserves_atEnd (limit : Nat) (receiver : Receiver) :
    Conserves limit receiver.buffer (some ((receiver.atEnd limit).1, []))
      (receiver.atEnd limit).2 := by
  simp only [atEnd]
  split
  · rename_i answer after looked
    simpa using conserves_of_look _ [] looked
  · rename_i after looked
    apply Conserves.ended
    simpa using (buffer_of_look _ looked).symm

theorem conserves_takeIn (limit : Nat) (receiver : Receiver) (arrived : Bytes) (isFinished : Bool) :
    Conserves limit (receiver.buffer ++ arrived) (receiver.takeIn limit arrived isFinished).1
      (receiver.takeIn limit arrived isFinished).2 := by
  fun_induction takeIn limit receiver arrived isFinished with
  | case1 receiver ready unfinished =>
      apply Conserves.waits
      simp [ready]
  | case2 receiver ready finished seen =>
      apply Conserves.ended
      simp [ready]
  | case3 receiver ready finished unseen answer after looked =>
      have atEnd := conserves_atEnd limit ready
      rw [looked] at atEnd
      simpa [ready] using atEnd
  | case4 receiver arrived ready present answer after looked =>
      have conserves := conserves_of_look _ (arrived.drop ready.room) looked
      simpa [fill, ready] using conserves
  | case5 receiver arrived ready present after looked ih =>
      have buffer_eq := buffer_of_look _ looked
      rw [buffer_eq] at ih
      simpa [fill, ready] using ih

theorem conserves_receive (limit : Nat) (receiver : Receiver) (arrived : Bytes)
    (isFinished : Bool) :
    Conserves limit (receiver.buffer ++ arrived) (receiver.receive limit arrived isFinished).1
      (receiver.receive limit arrived isFinished).2 := by
  simp only [receive]
  split
  · exact .ended rfl
  · split
    · split
      · rename_i answer after looked
        exact conserves_of_look _ arrived looked
      · rename_i after looked
        rw [← buffer_of_look _ looked]
        exact conserves_takeIn limit after arrived isFinished
    · exact conserves_takeIn limit receiver arrived isFinished

/-- When the stream has ended, there is always an answer. -/
theorem isSome_takeIn (limit : Nat) (receiver : Receiver) (arrived : Bytes) :
    (receiver.takeIn limit arrived true).1.isSome := by
  fun_induction takeIn limit receiver arrived true with
  | case1 receiver ready unfinished => cases unfinished
  | case2 receiver ready finished seen => rfl
  | case3 receiver ready finished unseen answer after looked => rfl
  | case4 receiver arrived ready present answer after looked => rfl
  | case5 receiver arrived ready present after looked ih => exact ih

theorem isSome_receive (limit : Nat) (receiver : Receiver) (arrived : Bytes) :
    (receiver.receive limit arrived true).1.isSome := by
  simp only [receive]
  split
  · rfl
  · split
    · split
      · rfl
      · apply isSome_takeIn
    · apply isSome_takeIn

end Receiver

end Frame

end DocumentProtocol
