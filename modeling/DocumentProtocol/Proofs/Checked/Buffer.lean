import DocumentProtocol.Error

/-!
# Buffers and offsets of bounded size

The readers of the protocol are functions of lists, where a position past the end finds nothing and
a difference stops at zero. A machine has less: its buffers fill at most half of an address space,
its offsets are numbers of that space, and an index out of range, a sum that leaves the space or a
difference below zero is no answer but the end of the program.

`Checked` is a computation in which such a *mishap* can happen. A mishap is neither a value nor a
protocol error, which are what a computation *yields*. `Checked.Yields` relates a checked
computation to the result of a reader, so that a computation that yields anything has met no mishap,
and the rules below prove it step by step: each operation that can fail has one rule, whose side
condition is what must hold there.
-/

namespace DocumentProtocol

/-- What ends the program instead of the computation. -/
inductive Mishap where
  /-- A byte or a part is taken that the buffer does not have. -/
  | outOfBounds
  /-- A sum leaves the address space. -/
  | overflow
  /-- A difference would be below zero. -/
  | underflow
  /-- A loop comes round without having taken a document's worth of bytes. -/
  | stalled
  deriving DecidableEq, Repr

/-- A computation that ends in a value, a protocol error or a mishap. -/
abbrev Checked (α : Type) := ExceptT ProtocolError (Except Mishap) α

namespace Checked

variable {α β γ : Type}

def mishap (mishap : Mishap) : Checked α := ExceptT.mk (.error mishap)

/-- A computation ends without a mishap, in just the value or the error of some result. -/
def Yields (checked : Checked α) (result : Except ProtocolError α) : Prop :=
  checked.run = .ok result

namespace Yields

theorem ofExcept (result : Except ProtocolError α) : Yields (ofExcept result) result := by
  cases result <;> rfl

theorem pure (value : α) : Yields (Pure.pure value) (.ok value) := rfl

theorem throw (error : ProtocolError) : Yields (throw error : Checked α) (.error error) := rfl

/-- What follows a computation has to be looked at for the values that it can yield only. The reader
beside it may go on from another form of the value. -/
theorem bind_map {first : Checked β} {result : Except ProtocolError α} {form : α → β}
    {second : β → Checked γ} {next : α → Except ProtocolError γ}
    (yields : Yields first (form <$> result))
    (rest : ∀ value, result = .ok value → Yields (second (form value)) (next value)) :
    Yields (first >>= second) (result >>= next) := by
  have run : first = ExceptT.mk (.ok (form <$> result)) := yields
  rw [run]
  cases result with
  | error error => rfl
  | ok value => exact rest value rfl

theorem bind {first : Checked α} {result : Except ProtocolError α} {second : α → Checked β}
    {next : α → Except ProtocolError β} (yields : Yields first result)
    (rest : ∀ value, result = .ok value → Yields (second value) (next value)) :
    Yields (first >>= second) (result >>= next) := by
  have mapped : Yields first (id <$> result) := by
    rwa [id_map]
  exact bind_map mapped rest

theorem map {checked : Checked α} {result : Except ProtocolError α}
    (yields : Yields checked result) (form : α → β) :
    Yields (form <$> checked) (form <$> result) := by
  have run : checked = ExceptT.mk (.ok result) := yields
  rw [run]
  cases result <;> rfl

theorem adapt {checked : Checked α} {result : Except ProtocolError α}
    (yields : Yields checked result) (change : ProtocolError → ProtocolError) :
    Yields (checked.adapt change) (result.mapError change) := by
  have run : checked = ExceptT.mk (.ok result) := yields
  rw [run]
  rfl

end Yields

/-- The difference of two lengths, if it is none below zero. -/
def sub? (whole part : Nat) : Option Nat := if part ≤ whole then some (whole - part) else none

def sub (whole part : Nat) : Checked Nat :=
  if part ≤ whole then pure (whole - part) else mishap .underflow

theorem yields_sub_bind {whole part : Nat} {next : Nat → Checked α}
    {result : Except ProtocolError α} (inside : part ≤ whole)
    (rest : Yields (next (whole - part)) result) : Yields (sub whole part >>= next) result := by
  rw [sub, if_pos inside]
  exact rest

end Checked

/-- The numbers that lengths and offsets are counted in. A signed word of the protocol that is not
negative is one of them, and so is its sum with another. -/
structure AddressSpace where
  limit : Nat
  wide : 2 * Bytes.wordLimit ≤ limit

namespace AddressSpace

open Checked

variable {α : Type} (space : AddressSpace)

theorem two_mul_toInt_lt (word : Int32) : 2 * word.toInt < space.limit := by
  have bound := word.toInt_lt
  have wide := space.wide
  simp only [Bytes.wordLimit] at wide
  omega

def add (first second : Nat) : Checked Nat :=
  if first + second < space.limit then pure (first + second) else mishap .overflow

/-- The sum of two offsets, if the space has it. -/
def add? (first second : Nat) : Option Nat :=
  if first + second < space.limit then some (first + second) else none

variable {space}

theorem yields_add_bind {first second : Nat} {next : Nat → Checked α}
    {result : Except ProtocolError α} (fits : first + second < space.limit)
    (rest : Yields (next (first + second)) result) :
    Yields (space.add first second >>= next) result := by
  rw [add, if_pos fits]
  exact rest

end AddressSpace

/-- Some bytes in memory, which fill at most half of the address space. -/
structure Buffer (space : AddressSpace) where
  bytes : Bytes
  fits : 2 * bytes.length ≤ space.limit

namespace Buffer

open Checked

variable {space : AddressSpace} {α : Type}

/-- An end that a buffer has is a number of its address space. -/
theorem lt_limit (buffer : Buffer space) {offset : Nat} (inside : offset ≤ buffer.bytes.length) :
    offset < space.limit := by
  have fits := buffer.fits
  have wide := space.wide
  simp only [Bytes.wordLimit] at wide
  omega

/-- The part of a buffer between two offsets, if they are in order and inside. -/
def part? (buffer : Buffer space) (first last : Nat) : Option (Buffer space) :=
  if first ≤ last ∧ last ≤ buffer.bytes.length then
    some ⟨(buffer.bytes.take last).drop first, by
      have fits := buffer.fits
      have shorter := List.length_take_le' last buffer.bytes
      rw [List.length_drop]
      omega⟩
  else none

/-- The part of a buffer between two offsets that have to be in order and inside. -/
def part (buffer : Buffer space) (first last : Nat) : Checked (Buffer space) :=
  match buffer.part? first last with
  | some part => pure part
  | none => mishap .outOfBounds

/-- The byte at an offset that has to be inside. -/
def index (buffer : Buffer space) (offset : Nat) : Checked UInt8 :=
  match buffer.bytes[offset]? with
  | some byte => pure byte
  | none => mishap .outOfBounds

variable {buffer : Buffer space} {first last offset : Nat}

theorem exists_part?_eq_some (buffer : Buffer space) (order : first ≤ last)
    (inside : last ≤ buffer.bytes.length) :
    ∃ part, buffer.part? first last = some part ∧
      part.bytes = (buffer.bytes.take last).drop first := by
  rw [part?, if_pos ⟨order, inside⟩]
  exact ⟨_, rfl, rfl⟩

theorem part?_eq_none (outside : ¬(first ≤ last ∧ last ≤ buffer.bytes.length)) :
    buffer.part? first last = none := if_neg outside

theorem yields_part_bind {next : Buffer space → Checked α} {result : Except ProtocolError α}
    (order : first ≤ last) (inside : last ≤ buffer.bytes.length)
    (rest : ∀ part : Buffer space, part.bytes = (buffer.bytes.take last).drop first →
      Yields (next part) result) :
    Yields (buffer.part first last >>= next) result := by
  rcases buffer.exists_part?_eq_some order inside with ⟨part, taken, bytes_eq⟩
  rw [Buffer.part, taken]
  exact rest part bytes_eq

theorem yields_rest_bind {next : Buffer space → Checked α} {result : Except ProtocolError α}
    (inside : first ≤ buffer.bytes.length)
    (rest : ∀ part : Buffer space, part.bytes = buffer.bytes.drop first →
      Yields (next part) result) :
    Yields (buffer.part first buffer.bytes.length >>= next) result := by
  apply yields_part_bind inside (Nat.le_refl _)
  intro part bytes_eq
  rw [List.take_length] at bytes_eq
  exact rest part bytes_eq

theorem yields_index_bind {next : UInt8 → Checked α} {result : Except ProtocolError α}
    (inside : offset < buffer.bytes.length)
    (rest : Yields (next buffer.bytes[offset]) result) :
    Yields (buffer.index offset >>= next) result := by
  rw [index, List.getElem?_eq_getElem inside]
  exact rest

end Buffer

end DocumentProtocol
