import DocumentProtocol.Bytes.LittleEndian
import DocumentProtocol.Error

/-!
# Pipes

A pipe carries bytes one way, in order, and holds at most as many as its capacity. Its writer may
finish, after which no bytes join; its reader may leave, after which the bytes in the pipe are lost
and writing fails. The pipe itself may fail as well, and then reading and writing do. `Pipe.offer`
takes in as many bytes as there is room for and gives back the rest, so that no byte is ever lost on
the way in.

`Pipe.read` says what a reader that wants exactly so many bytes finds: all of them, some of them, a
fault, or nothing yet. A reader that has them all does not look at the pipe again.
-/

namespace DocumentProtocol

/-- One direction of a connection. -/
structure Pipe where
  capacity : Nat
  content : Bytes := []
  /-- Whether the writer has finished. -/
  isFinished : Bool := false
  /-- Whether the reader has left. -/
  isAbandoned : Bool := false
  /-- What has happened to the pipe itself. -/
  fault? : Option StreamFault := none
  deriving DecidableEq, Repr

/-- What a reader that wants exactly so many bytes finds in a pipe. -/
inductive Arrival where
  | complete (bytes : Bytes)
  | part (bytes : Bytes)
  | failed (fault : StreamFault)
  | pending
  deriving DecidableEq, Repr

namespace Pipe

def room (pipe : Pipe) : Nat := pipe.capacity - pipe.content.length

def isWritable (pipe : Pipe) : Bool := !pipe.isFinished && !pipe.isAbandoned

/-- The pipe with as many bytes as it can take in, and those that it cannot. -/
def offer (pipe : Pipe) (bytes : Bytes) : Pipe × Bytes :=
  ({ pipe with content := pipe.content ++ bytes.take pipe.room }, bytes.drop pipe.room)

def skip (pipe : Pipe) (size : Nat) : Pipe := { pipe with content := pipe.content.drop size }

def drain (pipe : Pipe) : Pipe := { pipe with content := [] }

def finish (pipe : Pipe) : Pipe := { pipe with isFinished := true }

/-- The pipe after its reader has left. -/
def abandon (pipe : Pipe) : Pipe := { pipe with content := [], isAbandoned := true }

/-- The pipe after it has failed; what has happened to it before stays so. -/
def fail (pipe : Pipe) (fault : StreamFault) : Pipe :=
  { pipe with fault? := pipe.fault? <|> some fault }

def isExhausted (pipe : Pipe) : Bool := pipe.isFinished && pipe.content.isEmpty

/-- Reads on for a reader that has received some bytes and wants so many in all. -/
def read (pipe : Pipe) (received : Bytes) (size : Nat) : Arrival × Pipe :=
  let missing := size - received.length
  let bytes := received ++ pipe.content.take missing
  if missing = 0 then (.complete bytes, pipe)
  else
    match pipe.fault? with
    | some fault => (.failed fault, pipe)
    | none =>
        if size ≤ bytes.length then (.complete bytes, pipe.skip missing)
        else if pipe.content ≠ [] then (.part bytes, pipe.skip missing)
        else if pipe.isFinished then (.failed .endOfStream, pipe)
        else (.pending, pipe)

/-- What writing into a pipe meets. -/
def writeFault? (pipe : Pipe) : Option StreamFault :=
  if pipe.isAbandoned then some .brokenPipe else pipe.fault?

/-- Whether writing into a pipe can meet a fault. -/
def Suffers (pipe : Pipe) (fault : StreamFault) : Prop :=
  pipe.isAbandoned = true ∧ fault = .brokenPipe ∨ pipe.fault? = some fault

theorem suffers_of_writeFault? {pipe : Pipe} {fault : StreamFault}
    (met : pipe.writeFault? = some fault) : pipe.Suffers fault := by
  unfold writeFault? at met
  split at met
  · rename_i abandoned
    cases met
    exact .inl ⟨abandoned, rfl⟩
  · exact .inr met

theorem writeFault?_eq_none_iff {pipe : Pipe} :
    pipe.writeFault? = none ↔ pipe.isAbandoned = false ∧ pipe.fault? = none := by
  unfold writeFault?
  split
  · rename_i abandoned
    simp [abandoned]
  · rename_i kept
    simp [Bool.eq_false_iff.2 kept]

/-! ### What a reader finds -/

/-- Everything that a reader can find, and what is left in the pipe then. -/
inductive Finds (pipe : Pipe) (received : Bytes) (size : Nat) : Arrival → Pipe → Prop where
  | complete (sound : size ≤ received.length ∨ pipe.fault? = none)
      (enough : size ≤ (received ++ pipe.content).length) :
      Finds pipe received size
        (.complete (received ++ pipe.content.take (size - received.length)))
        (pipe.skip (size - received.length))
  | part (sound : pipe.fault? = none) (short : (received ++ pipe.content).length < size)
      (present : pipe.content ≠ []) :
      Finds pipe received size (.part (received ++ pipe.content)) (pipe.skip pipe.content.length)
  | broken {fault : StreamFault} (short : received.length < size)
      (fault_eq : pipe.fault? = some fault) : Finds pipe received size (.failed fault) pipe
  | ended (sound : pipe.fault? = none) (short : received.length < size)
      (empty : pipe.content = []) (finished : pipe.isFinished = true) :
      Finds pipe received size (.failed .endOfStream) pipe
  | pending (sound : pipe.fault? = none) (short : received.length < size)
      (empty : pipe.content = []) (unfinished : pipe.isFinished = false) :
      Finds pipe received size .pending pipe

variable {pipe next : Pipe} {received : Bytes} {size : Nat} {arrival : Arrival}

theorem skip_of_length_le {missing : Nat} (all : pipe.content.length ≤ missing) :
    pipe.skip missing = pipe.skip pipe.content.length := by
  rw [skip, skip, List.drop_of_length_le all, List.drop_length]

/-- A reader for which there is enough has all that it wants. -/
theorem read_eq_complete (sound : size ≤ received.length ∨ pipe.fault? = none)
    (enough : size ≤ (received ++ pipe.content).length) :
    pipe.read received size =
      (.complete (received ++ pipe.content.take (size - received.length)),
        pipe.skip (size - received.length)) := by
  simp only [List.length_append] at enough
  by_cases none_missing : size - received.length = 0
  · simp [read, none_missing, skip]
  · have sound := sound.resolve_left (by omega)
    have complete : size ≤
        (received ++ pipe.content.take (size - received.length)).length := by
      simp only [List.length_append, List.length_take]
      omega
    simp only [read, none_missing, ↓reduceIte, sound, complete]

/-- When bytes are missing and the pipe is sound, what is found depends on what is in the pipe. -/
theorem finds_of_sound (sound : pipe.fault? = none) (missing : received.length < size)
    (read_eq : pipe.read received size = (arrival, next)) :
    pipe.Finds received size arrival next := by
  simp only [read, Nat.sub_ne_zero_of_lt missing, ↓reduceIte, sound] at read_eq
  split at read_eq
  · rename_i enough
    cases read_eq
    apply Finds.complete (.inr sound)
    simp only [List.length_append, List.length_take] at enough ⊢
    omega
  · rename_i short
    simp only [List.length_append, List.length_take] at short
    split at read_eq
    · rename_i present
      cases read_eq
      rw [List.take_of_length_le (by omega), skip_of_length_le (by omega)]
      apply Finds.part sound _ present
      rw [List.length_append]
      omega
    · rename_i empty
      simp only [ne_eq, Decidable.not_not] at empty
      split at read_eq
      · rename_i finished
        cases read_eq
        exact .ended sound missing empty finished
      · rename_i unfinished
        cases read_eq
        exact .pending sound missing empty (Bool.eq_false_iff.2 unfinished)

theorem finds_of_read (read_eq : pipe.read received size = (arrival, next)) :
    pipe.Finds received size arrival next := by
  by_cases missing : received.length < size
  · cases fault_eq : pipe.fault? with
    | none => exact finds_of_sound fault_eq missing read_eq
    | some fault =>
        simp only [read, Nat.sub_ne_zero_of_lt missing, ↓reduceIte, fault_eq] at read_eq
        cases read_eq
        exact .broken missing fault_eq
  · have none_missing : size - received.length = 0 := by omega
    have enough : size ≤ (received ++ pipe.content).length := by
      rw [List.length_append]
      omega
    have finds : pipe.Finds received size _ _ := .complete (.inl (Nat.not_lt.1 missing)) enough
    simp only [read, none_missing, ↓reduceIte] at read_eq
    cases read_eq
    rwa [none_missing] at finds

end Pipe

end DocumentProtocol
