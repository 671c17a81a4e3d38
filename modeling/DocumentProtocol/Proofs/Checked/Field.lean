import DocumentProtocol.Frame.Field
import DocumentProtocol.Proofs.Checked.Buffer

/-!
# Fields of a buffer

The readers of fields at an offset, with every step at which a machine could fail. A word is cut off
by its checked end; a text is searched for its zero, cut off there, and left behind by two sums.

The main statements are that each of them yields what `Field.readAt` finds, at any offset. A reader
of a list hands the bytes after its field to the next one, and a reader of a buffer hands over an
offset: `Checked.Yields.read_bind` is the rule that goes from one to the other.
-/

namespace DocumentProtocol

namespace Text

theorem splitZero?_eq_findIdx? (bytes : Bytes) :
    splitZero? bytes =
      (bytes.findIdx? (· == 0)).map fun count => (bytes.take count, bytes.drop (count + 1)) := by
  induction bytes with
  | nil => rfl
  | cons byte rest ih =>
      rw [splitZero?, List.findIdx?_cons]
      by_cases zero : byte = 0
      · simp [zero]
      · simp [zero, ih, Function.comp_def]

end Text

namespace Field

/-- A reader takes bytes off the front and leaves the others as they are. -/
def Reader.Trims {α : Type} (reader : Reader α) : Prop :=
  ∀ bytes value rest, reader bytes = .ok (value, rest) → rest <:+ bytes

theorem trims_fixed {α : Type} (size : Nat) (value : Bytes → α) : (fixed size value).Trims := by
  intro bytes found rest read
  unfold fixed at read
  split at read
  · rename_i front behind cut
    cases read
    exact ⟨front, (Bytes.cut?_eq_some cut).1.symm⟩
  · cases read

theorem trims_text : text.Trims := by
  intro bytes found rest read
  unfold text at read
  split at read
  · rename_i pair terminated
    cases read
    exact ⟨Text.terminated found, (Text.readTerminated_eq_ok terminated).1.symm⟩
  · cases read
  · cases read

variable {α : Type} {bytes : Bytes} {offset : Nat}

theorem readAt_eq_map (reader : Reader α) (bytes : Bytes) (offset : Nat) :
    readAt reader bytes offset =
      (fun found => (found.1, bytes.length - found.2.length)) <$> reader (bytes.drop offset) := by
  unfold readAt
  cases reader (bytes.drop offset) <;> rfl

/-- A word at an offset, if its end is inside. -/
theorem readAt_fixed {size : Nat} (positive : 0 < size) (value : Bytes → α) :
    readAt (fixed size value) bytes offset =
      if offset + size ≤ bytes.length then
        .ok (value ((bytes.drop offset).take size), offset + size)
      else .error (.malformed .truncatedInteger) := by
  rw [readAt_eq_map, fixed, Bytes.cut?, List.length_drop]
  by_cases enough : offset + size ≤ bytes.length
  · have left : bytes.length - (bytes.length - (offset + size)) = offset + size := by omega
    rw [if_pos (by omega), if_pos enough]
    change Except.ok (_, bytes.length - ((bytes.drop offset).drop size).length) = _
    rw [List.drop_drop, List.length_drop, left]
  · rw [if_neg (by omega), if_neg enough]
    rfl

theorem readAt_text :
    readAt text bytes offset =
      match (bytes.drop offset).findIdx? (· == 0) with
      | none => .error (.malformed .unterminatedText)
      | some count =>
          match Text.decode? ((bytes.drop offset).take count) with
          | none => .error (.malformed .invalidText)
          | some text => .ok (text, offset + count + 1) := by
  rw [readAt_eq_map, text, Text.readTerminated, Text.splitZero?_eq_findIdx?]
  cases found : (bytes.drop offset).findIdx? (· == 0) with
  | none => rfl
  | some count =>
      have inside := (List.findIdx?_eq_some_iff_getElem.1 found).1
      rw [List.length_drop] at inside
      have left : bytes.length - (bytes.length - (offset + (count + 1))) = offset + count + 1 := by
        omega
      dsimp only [Option.map_some]
      cases Text.decode? ((bytes.drop offset).take count) with
      | none => rfl
      | some text =>
          change Except.ok (text, bytes.length - ((bytes.drop offset).drop (count + 1)).length) = _
          rw [List.drop_drop, List.length_drop, left]

end Field

namespace Checked.Yields

variable {α β : Type}

/-- Reading on behind a field: a reader of a buffer goes on at the next offset where a reader of a
list goes on with the rest. -/
theorem read_bind {reader : Field.Reader α} {bytes : Bytes} {offset : Nat}
    {first : Checked (α × Nat)} {second : α × Nat → Checked β}
    {next : α × Bytes → Except ProtocolError β} (trims : reader.Trims)
    (yields : Yields first (Field.readAt reader bytes offset))
    (rest : ∀ value later, Field.readAt reader bytes offset = .ok (value, later) →
      later ≤ bytes.length → Yields (second (value, later)) (next (value, bytes.drop later))) :
    Yields (first >>= second) (reader (bytes.drop offset) >>= next) := by
  have found_at := Field.readAt_eq_map reader bytes offset
  rw [found_at] at yields
  apply bind_map yields
  rintro ⟨value, behind⟩ read
  have suffix := (trims _ _ _ read).trans (List.drop_suffix offset bytes)
  have later := rest value (bytes.length - behind.length) (by rw [found_at, read]; rfl) (by omega)
  rwa [← List.suffix_iff_eq_drop.1 suffix] at later

theorem read_first_bind {reader : Field.Reader α} {bytes : Bytes} {first : Checked (α × Nat)}
    {second : α × Nat → Checked β} {next : α × Bytes → Except ProtocolError β}
    (trims : reader.Trims) (yields : Yields first (Field.readAt reader bytes 0))
    (rest : ∀ value later, Field.readAt reader bytes 0 = .ok (value, later) →
      later ≤ bytes.length → Yields (second (value, later)) (next (value, bytes.drop later))) :
    Yields (first >>= second) (reader bytes >>= next) := by
  have read := read_bind trims yields rest
  rwa [List.drop_zero] at read

end Checked.Yields

namespace Buffer

open Checked

variable {space : AddressSpace} {α : Type}

/-- The bytes of a field of fixed size, if the buffer has them. -/
def field? (buffer : Buffer space) (size offset : Nat) : Option Bytes :=
  (space.add? offset size).bind fun last =>
    (buffer.part? offset last).bind fun part =>
      if part.bytes.length = size then some part.bytes else none

def word (size : Nat) (value : Bytes → α) (buffer : Buffer space) (offset : Nat) :
    Checked (α × Nat) := do
  match buffer.field? size offset with
  | none => throw (.malformed .truncatedInteger)
  | some front =>
      let next ← space.add offset size
      return (value front, next)

def uint32 : Buffer space → (offset : Nat) → Checked (UInt32 × Nat) := word 4 Bytes.toUInt32

def int32 : Buffer space → (offset : Nat) → Checked (Int32 × Nat) := word 4 Bytes.toInt32

def int64 : Buffer space → (offset : Nat) → Checked (Int64 × Nat) := word 8 Bytes.toInt64

def byte (buffer : Buffer space) (offset : Nat) : Checked (UInt8 × Nat) := do
  match buffer.bytes[offset]? with
  | none => throw (.malformed .truncatedInteger)
  | some byte =>
      let next ← space.add offset 1
      return (byte, next)

def text (buffer : Buffer space) (offset : Nat) : Checked (String × Nat) := do
  match buffer.part? offset buffer.bytes.length with
  | none => throw (.malformed .unterminatedText)
  | some tail =>
      match tail.bytes.findIdx? (· == 0) with
      | none => throw (.malformed .unterminatedText)
      | some count =>
          let front ← tail.part 0 count
          match Text.decode? front.bytes with
          | none => throw (.malformed .invalidText)
          | some text =>
              let last ← space.add offset count
              let next ← space.add last 1
              return (text, next)

variable (buffer : Buffer space) (offset : Nat)

theorem field?_eq (size : Nat) :
    buffer.field? size offset =
      if offset + size ≤ buffer.bytes.length then some ((buffer.bytes.drop offset).take size)
      else none := by
  unfold field?
  by_cases inside : offset + size ≤ buffer.bytes.length
  · rcases buffer.exists_part?_eq_some (Nat.le_add_right offset size) inside with
      ⟨part, taken, bytes_eq⟩
    have length_eq : part.bytes.length = size := by
      rw [bytes_eq, List.length_drop, List.length_take]
      omega
    have cut : part.bytes = (buffer.bytes.drop offset).take size := by
      rw [bytes_eq, List.drop_take, Nat.add_sub_cancel_left]
    rw [AddressSpace.add?, if_pos (buffer.lt_limit inside), Option.bind_some, taken,
      Option.bind_some, if_pos length_eq, cut, if_pos inside]
  · have outside : buffer.part? offset (offset + size) = none :=
      part?_eq_none fun bounds => inside bounds.2
    rw [if_neg inside, AddressSpace.add?]
    split
    · simp [outside]
    · rfl

theorem yields_word {size : Nat} (positive : 0 < size) (value : Bytes → α) :
    Yields (buffer.word size value offset)
      (Field.readAt (Field.fixed size value) buffer.bytes offset) := by
  rw [Field.readAt_fixed positive, word, field?_eq]
  by_cases inside : offset + size ≤ buffer.bytes.length
  · rw [if_pos inside, if_pos inside]
    exact AddressSpace.yields_add_bind (buffer.lt_limit inside) (.pure _)
  · rw [if_neg inside, if_neg inside]
    exact .throw _

theorem yields_uint32 :
    Yields (buffer.uint32 offset) (Field.readAt Field.uint32 buffer.bytes offset) :=
  buffer.yields_word offset (by decide) _

theorem yields_int32 :
    Yields (buffer.int32 offset) (Field.readAt Field.int32 buffer.bytes offset) :=
  buffer.yields_word offset (by decide) _

theorem yields_int64 :
    Yields (buffer.int64 offset) (Field.readAt Field.int64 buffer.bytes offset) :=
  buffer.yields_word offset (by decide) _

theorem yields_byte :
    Yields (buffer.byte offset) (Field.readAt Field.byte buffer.bytes offset) := by
  rw [Field.byte, Field.readAt_fixed Nat.one_pos, byte]
  by_cases inside : offset < buffer.bytes.length
  · rw [List.getElem?_eq_getElem inside, if_pos (by omega), List.drop_eq_getElem_cons inside]
    exact AddressSpace.yields_add_bind (buffer.lt_limit inside) (.pure _)
  · rw [List.getElem?_eq_none (by omega), if_neg (by omega)]
    exact .throw _

theorem yields_text :
    Yields (buffer.text offset) (Field.readAt Field.text buffer.bytes offset) := by
  rw [Field.readAt_text, text]
  by_cases inside : offset ≤ buffer.bytes.length
  · rcases buffer.exists_part?_eq_some inside (Nat.le_refl _) with ⟨tail, taken, bytes_eq⟩
    have tail_eq : tail.bytes = buffer.bytes.drop offset := by
      rw [bytes_eq, List.take_length]
    rw [taken, ← tail_eq]
    dsimp only
    cases found : tail.bytes.findIdx? (· == 0) with
    | none => exact .throw _
    | some count =>
        have before := (List.findIdx?_eq_some_iff_getElem.1 found).1
        have within : offset + count + 1 ≤ buffer.bytes.length := by
          rw [tail_eq, List.length_drop] at before
          omega
        apply yields_part_bind (Nat.zero_le count) (Nat.le_of_lt before)
        intro front front_eq
        rw [front_eq, List.drop_zero]
        dsimp only
        cases Text.decode? (tail.bytes.take count) with
        | none => exact .throw _
        | some text =>
            apply AddressSpace.yields_add_bind (buffer.lt_limit (by omega))
            exact AddressSpace.yields_add_bind (buffer.lt_limit within) (.pure _)
  · have behind : buffer.bytes.drop offset = [] := List.drop_eq_nil_of_le (by omega)
    rw [part?_eq_none (fun bounds => inside bounds.1), behind]
    exact .throw _

end Buffer

end DocumentProtocol
