import DocumentProtocol.Proofs.Message.Failure
import DocumentProtocol.Proofs.Message.Grammar
import Mathlib.Logic.Relation

/-!
# The walk over the sections

The reader of a sectioned message walks over the body from position to position. The sizes that it
steps by are those that the sender wrote, and the walk must not step over the boundary: what it
finds behind its last position is compared with what the flags promise, and a position behind the
end of the body would make that comparison meaningless.

`Message.turn` is one turn of the walk, and `Message.Turns` relates the positions before and after
it. A turn that succeeds goes forward and stays in front of the boundary, so by induction every
position that the walk comes by lies between the flags and the boundary. The main statement draws
the conclusions: a walk ends at the boundary or in an error of one of its turns, so a body is never
refused for what is behind its last section.
-/

namespace DocumentProtocol

namespace Message

open Relation (ReflTransGen)

variable {boundary start position next stop : Nat} {body : Bytes}

/-! ### Turns -/

/-- The section at a position, and the position behind it. -/
def turn (boundary : Nat) (body : Bytes) (position : Nat) :
    Except ProtocolError (Section × Nat) := do
  let (kind, rest) ← Field.byte (body.drop position)
  let (found, size) ← Section.read kind (rest.take (boundary - (position + 1)))
  return (found, position + 1 + size)

/-- The scan takes turns for as long as it is in front of the boundary. -/
theorem scan_eq_turn (boundary : Nat) (body : Bytes) (position : Nat) :
    scan boundary body position =
      if position < boundary then
        turn boundary body position >>= fun first =>
          scan boundary body first.2 >>= fun others =>
            .ok (first.1 :: others.1, others.2)
      else .ok ([], position) := by
  rw [scan, turn]
  split
  · simp only [bind_assoc, pure_bind]
    rfl
  · rfl

/-- A turn leads from one position to another. -/
def Turns (boundary : Nat) (body : Bytes) (position next : Nat) : Prop :=
  position < boundary ∧ ∃ found, turn boundary body position = .ok (found, next)

/-- A section takes its kind and at least five bytes, all of them in front of the boundary. -/
theorem Turns.bounds (turns : Turns boundary body position next) :
    position + 1 + Document.minimumSize ≤ next ∧ next ≤ boundary := by
  rcases turns with ⟨before, found, turned⟩
  simp only [turn, Except.bind_eq_ok_iff, Prod.exists] at turned
  rcases turned with ⟨kind, rest, _, first, size, read, turned⟩
  cases turned
  have bounds := Section.size_of_read read
  have room := List.length_take_le (boundary - (position + 1)) rest
  simp only [Document.minimumSize]
  omega

/-! ### Walks -/

/-- Every position that a walk comes by is between its start and the boundary. -/
theorem walk_bounds (atMost : start ≤ boundary)
    (walk : ReflTransGen (Turns boundary body) start position) :
    start ≤ position ∧ position ≤ boundary := by
  induction walk with
  | refl => exact ⟨Nat.le_refl _, atMost⟩
  | tail _ turns ih =>
      have bounds := turns.bounds
      omega

theorem walk_of_scan_eq_ok {sections : List Section}
    (scanned : scan boundary body start = .ok (sections, stop)) :
    ReflTransGen (Turns boundary body) start stop ∧ boundary ≤ stop := by
  induction distance : boundary - start using Nat.strongRecOn generalizing start sections with
  | ind distance ih =>
      rw [scan_eq_turn] at scanned
      split at scanned
      · rename_i before
        simp only [Except.bind_eq_ok_iff, Prod.exists] at scanned
        rcases scanned with ⟨first, next, turned, others, last, scanned, ended⟩
        cases ended
        have turns : Turns boundary body start next := ⟨before, first, turned⟩
        have bounds := turns.bounds
        rcases ih _ (by omega) scanned rfl with ⟨walk, past⟩
        exact ⟨.head turns walk, past⟩
      · rename_i past
        cases scanned
        exact ⟨.refl, Nat.not_lt.1 past⟩

/-- A walk that fails comes to a turn that fails in the same way. -/
theorem walk_of_scan_eq_error {error : ProtocolError}
    (scanned : scan boundary body start = .error error) :
    ∃ position, ReflTransGen (Turns boundary body) start position ∧ position < boundary ∧
      turn boundary body position = .error error := by
  induction distance : boundary - start using Nat.strongRecOn generalizing start with
  | ind distance ih =>
      rw [scan_eq_turn] at scanned
      split at scanned
      · rename_i before
        simp only [Except.bind_eq_error_iff, Prod.exists, reduceCtorEq, and_false,
          exists_false, or_false] at scanned
        rcases scanned with failed | ⟨first, next, turned, scanned⟩
        · exact ⟨start, .refl, before, failed⟩
        · have turns : Turns boundary body start next := ⟨before, first, turned⟩
          have bounds := turns.bounds
          rcases ih _ (by omega) scanned rfl with ⟨position, walk, inside, failed⟩
          exact ⟨position, .head turns walk, inside, failed⟩
      · cases scanned

/-! ### What a body is refused for -/

theorem boundary_eq_error_iff {flags : UInt32} {error : ProtocolError} :
    Message.boundary flags body = .error error ↔
      flags &&& checksumFlag ≠ 0 ∧ body.length < 4 + checksumSize ∧
        error = .malformed .checksumSize := by
  unfold Message.boundary
  split
  · rename_i clear
    simp [clear]
  · rename_i set
    split
    · rename_i short
      simp [set, short, eq_comm]
    · rename_i enough
      simp [enough]

/-- A body is refused for its flags, for its boundary or for a section, never for its trailer. -/
theorem decode_eq_error_iff {requestId : Int32} {error : ProtocolError} :
    decode requestId body = .error error ↔
      Field.uint32 body = .error error ∨
        ∃ flags rest, Field.uint32 body = .ok (flags, rest) ∧
          (Message.boundary flags body = .error error ∨
            ∃ boundary, Message.boundary flags body = .ok boundary ∧
              scan boundary body 4 = .error error) := by
  cases read : Field.uint32 body with
  | error failure => simp [decode, read, bind, Except.bind]
  | ok found =>
      rcases found with ⟨flags, rest⟩
      cases bounded : Message.boundary flags body with
      | error failure => simp [decode, read, bounded, bind, Except.bind]
      | ok boundary =>
          rw [decode_of_boundary read bounded]
          cases scanned : scan boundary body 4 with
          | error failure => simp [bounded, scanned, Except.map]
          | ok result => simp [bounded, scanned, Except.map]

/-- How the walk from behind the flags up to a boundary goes. -/
structure WalksWithin (boundary : Nat) (body : Bytes) : Prop where
  boundary_le : boundary ≤ body.length
  bounds : ∀ position, ReflTransGen (Turns boundary body) 4 position →
    4 ≤ position ∧ position ≤ boundary
  /-- A walk that comes to an end has come to the boundary. -/
  ends : ∀ sections stop, scan boundary body 4 = .ok (sections, stop) →
    ReflTransGen (Turns boundary body) 4 stop ∧ stop = boundary
  fails : ∀ error, scan boundary body 4 = .error error →
    ∃ position, ReflTransGen (Turns boundary body) 4 position ∧ position < boundary ∧
      turn boundary body position = .error error

theorem walksWithin_of_boundary {flags : UInt32} (enough : 4 ≤ body.length)
    (bounded : Message.boundary flags body = .ok boundary) : WalksWithin boundary body := by
  rcases boundary_bounds enough bounded with ⟨atLeast, inside⟩
  refine ⟨inside, ?_, ?_, ?_⟩
  · intro position walk
    exact walk_bounds atLeast walk
  · intro sections stop scanned
    rcases walk_of_scan_eq_ok scanned with ⟨walk, past⟩
    exact ⟨walk, Nat.le_antisymm (walk_bounds atLeast walk).2 past⟩
  · intro error scanned
    exact walk_of_scan_eq_error scanned

/--
The walk over the sections of any body stays between the flags and the boundary, and comes to an end
at the boundary if it does not fail. So there are never bytes left over behind the sections, and the
size of the checksum is wrong just for bodies that promise one and are too short for it.
-/
theorem walk_ends_at_boundary (requestId : Int32) (body : Bytes) :
    (∀ flags rest boundary, Field.uint32 body = .ok (flags, rest) →
      Message.boundary flags body = .ok boundary → WalksWithin boundary body) ∧
    decode requestId body ≠ .error (.malformed .trailingBytes) ∧
    (decode requestId body = .error (.malformed .checksumSize) ↔
      4 ≤ body.length ∧ body.length ≤ 7 ∧
        Bytes.toUInt32 (body.take 4) &&& checksumFlag ≠ 0) := by
  refine ⟨?_, ?_, ?_⟩
  · intro flags rest boundary read bounded
    exact walksWithin_of_boundary (Field.fixed_eq_ok_iff.1 read).1 bounded
  · intro refused
    rcases decode_eq_error_iff.1 refused with failed | ⟨flags, rest, _, failed | ⟨_, _, failed⟩⟩
    · cases Field.fixed_failsInPart _ _ _ _ failed
    · cases (boundary_eq_error_iff.1 failed).2.2
    · cases scan_failsInPart _ _ _ _ failed
  · constructor
    · intro refused
      rcases decode_eq_error_iff.1 refused with
        failed | ⟨flags, rest, read, failed | ⟨_, _, failed⟩⟩
      · cases Field.fixed_failsInPart _ _ _ _ failed
      · rcases Field.fixed_eq_ok_iff.1 read with ⟨enough, rfl, _⟩
        rcases boundary_eq_error_iff.1 failed with ⟨promised, short, _⟩
        simp only [checksumSize] at short
        exact ⟨enough, by omega, promised⟩
      · cases scan_failsInPart _ _ _ _ failed
    · rintro ⟨enough, short, promised⟩
      apply decode_eq_error_iff.2
      right
      refine ⟨_, _, Field.fixed_eq_ok_iff.2 ⟨enough, rfl, rfl⟩, ?_⟩
      left
      refine boundary_eq_error_iff.2 ⟨promised, ?_, rfl⟩
      simp only [checksumSize]
      omega

example : decode 7 [1, 0, 0, 0, 9, 9, 9] = .error (.malformed .checksumSize) := rfl

end Message

end DocumentProtocol
