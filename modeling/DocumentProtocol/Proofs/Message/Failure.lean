import DocumentProtocol.Message.Reply
import DocumentProtocol.Proofs.Document.Blocks

/-!
# How reading a body fails

A body that cannot be read is malformed, or one of its documents does not form one. No reader of a
body fails in any other way: `Operation.failsIllegibly` collects this from the readers of fields,
documents and sections, each of which fails as its parts do.

The readers of fields, documents and sections leave out some malformations. These concern the body
as a whole, what it must carry and what is left at its end, and no part of a body can be blamed for
them.
-/

namespace DocumentProtocol

/-- Whether a computation fails only with errors of some kind, if it fails. -/
def Except.FailsAs {ε α : Type} (kind : ε → Prop) (computation : Except ε α) : Prop :=
  ∀ error, computation = .error error → kind error

namespace Except.FailsAs

variable {ε δ α β : Type} {kind : ε → Prop}

theorem of_ok (value : α) : FailsAs kind (.ok value) := nofun

theorem of_error {failure : ε} (holds : kind failure) :
    FailsAs kind (.error failure : Except ε α) := by
  rintro _ ⟨⟩
  exact holds

theorem of_bind {first : Except ε α} {second : α → Except ε β} (left : FailsAs kind first)
    (right : ∀ value, FailsAs kind (second value)) : FailsAs kind (first >>= second) := by
  intro failure failed
  cases computed : first with
  | error found =>
      rw [computed] at failed
      cases failed
      exact left _ computed
  | ok value =>
      rw [computed] at failed
      exact right value _ failed

theorem mono {other : ε → Prop} {computation : Except ε α} (fails : FailsAs kind computation)
    (weaker : ∀ error, kind error → other error) : FailsAs other computation := by
  intro error failed
  exact weaker error (fails error failed)

theorem of_map {first : Except ε α} (function : α → β) (left : FailsAs kind first) :
    FailsAs kind (first.map function) := by
  intro failure failed
  cases computed : first with
  | error found =>
      rw [computed] at failed
      cases failed
      exact left _ computed
  | ok value =>
      rw [computed] at failed
      cases failed

theorem of_mapError {first : Except δ α} (function : δ → ε)
    (right : ∀ error, kind (function error)) : FailsAs kind (first.mapError function) := by
  intro failure failed
  cases computed : first with
  | error found =>
      rw [computed] at failed
      cases failed
      exact right found
  | ok value =>
      rw [computed] at failed
      cases failed

end Except.FailsAs

/-- Whether an error says that bytes cannot be read. -/
inductive ProtocolError.IsIllegible : ProtocolError → Prop where
  | malformed (cause : Malformation) : IsIllegible (.malformed cause)
  | document : IsIllegible .document

/-- Whether an error says that a part of a body cannot be read: a field, a document or a section. -/
inductive ProtocolError.IsPartial : ProtocolError → Prop where
  | truncatedInteger : IsPartial (.malformed .truncatedInteger)
  | unterminatedText : IsPartial (.malformed .unterminatedText)
  | invalidText : IsPartial (.malformed .invalidText)
  | truncatedDocument : IsPartial (.malformed .truncatedDocument)
  | shortDocument : IsPartial (.malformed .shortDocument)
  | unknownSection (kind : UInt8) : IsPartial (.malformed (.unknownSection kind))
  | sectionOverrun : IsPartial (.malformed .sectionOverrun)
  | document : IsPartial .document

theorem ProtocolError.IsPartial.isIllegible (error : ProtocolError) (inPart : error.IsPartial) :
    error.IsIllegible := by
  cases inPart with
  | document => exact .document
  | _ => exact .malformed _

/-- Whether an error comes from outside of a conversation. -/
inductive ProtocolError.IsInterruption : ProtocolError → Prop where
  | cancelled : IsInterruption .cancelled
  | timeout : IsInterruption .timeout

open Except.FailsAs ProtocolError

namespace Field

theorem fixed_failsInPart {α : Type} (size : Nat) (value : Bytes → α) (bytes : Bytes) :
    Except.FailsAs IsPartial (fixed size value bytes) := by
  rw [fixed]
  split
  · exact of_ok _
  · exact of_error .truncatedInteger

theorem text_failsInPart (bytes : Bytes) : Except.FailsAs IsPartial (text bytes) := by
  rw [text]
  split
  · exact of_ok _
  · exact of_error .unterminatedText
  · exact of_error .invalidText

end Field

namespace Document

theorem announcedSize_failsInPart (bytes : Bytes) :
    Except.FailsAs IsPartial (announcedSize bytes) := by
  rw [announcedSize]
  split
  · exact of_error .truncatedDocument
  · dsimp only
    split
    · exact of_error .shortDocument
    · split
      · exact of_error .truncatedDocument
      · exact of_ok _

theorem decode_failsInPart (bytes : Bytes) : Except.FailsAs IsPartial (decode bytes) := by
  apply of_bind (announcedSize_failsInPart bytes)
  intro size
  split
  · split
    · change Except.FailsAs IsPartial (.error _)
      exact of_error .truncatedDocument
    · exact of_ok _
  · split
    · change Except.FailsAs IsPartial (.error _)
      exact of_error .truncatedDocument
    · exact of_error .document

theorem decodeAll_failsInPart (bytes : Bytes) : Except.FailsAs IsPartial (decodeAll bytes) := by
  fun_induction decodeAll bytes with
  | case1 => exact of_ok _
  | case2 bytes _ failure announced =>
      exact of_error (announcedSize_failsInPart bytes _ announced)
  | case3 bytes _ size announced _ failure decoded =>
      exact of_error (decode_failsInPart _ _ decoded)
  | case4 bytes _ size announced _ document decoded ih => exact of_map _ ih

end Document

namespace Section

theorem read_failsInPart (kind : UInt8) (bytes : Bytes) :
    Except.FailsAs IsPartial (read kind bytes) := by
  rw [read]
  split
  · apply of_bind (of_mapError _ fun _ => IsPartial.sectionOverrun)
    intro size
    apply of_bind (Document.decode_failsInPart _)
    intro document
    exact of_ok _
  · split
    · apply of_bind
      · rw [sequenceSize]
        split
        · exact of_error .sectionOverrun
        · split
          · exact of_ok _
          · exact of_error .sectionOverrun
      · intro size
        apply of_bind (Field.text_failsInPart _)
        rintro ⟨identifier, rest⟩
        apply of_bind (Document.decodeAll_failsInPart _)
        intro blocks
        exact of_ok _
    · exact of_error (.unknownSection _)

end Section

namespace Message

theorem scan_failsInPart (boundary : Nat) (body : Bytes) (position : Nat) :
    Except.FailsAs IsPartial (scan boundary body position) := by
  fun_induction scan boundary body position with
  | case1 position _ ih =>
      apply of_bind (Field.fixed_failsInPart _ _ _)
      rintro ⟨kind, rest⟩
      apply of_bind (Section.read_failsInPart kind _)
      rintro ⟨first, size⟩
      apply of_bind (ih size)
      rintro ⟨others, stop⟩
      exact of_ok _
  | case2 => exact of_ok _

theorem boundary_failsIllegibly (flags : UInt32) (body : Bytes) :
    Except.FailsAs IsIllegible (boundary flags body) := by
  rw [boundary]
  split
  · exact of_ok _
  · split
    · exact of_error (.malformed _)
    · exact of_ok _

theorem trailer_failsIllegibly (flags : UInt32) (body : Bytes) (position : Nat) :
    Except.FailsAs IsIllegible (trailer flags body position) := by
  rw [trailer]
  dsimp only
  split
  · split
    · exact of_error (.malformed _)
    · exact of_ok _
  · split
    · exact of_error (.malformed _)
    · exact of_map _ ((Field.fixed_failsInPart _ _ _).mono IsPartial.isIllegible)

end Message

/-- A body that cannot be read is illegible, whatever its layout. -/
theorem Operation.failsIllegibly (operation : Operation) (requestId : Int32) (body : Bytes) :
    Except.FailsAs IsIllegible (operation.decode requestId body) := by
  cases operation with
  | query =>
      apply of_bind ((Field.fixed_failsInPart _ _ _).mono IsPartial.isIllegible)
      rintro ⟨flags, rest⟩
      apply of_bind ((Field.text_failsInPart _).mono IsPartial.isIllegible)
      rintro ⟨collection, rest⟩
      apply of_bind ((Field.fixed_failsInPart _ _ _).mono IsPartial.isIllegible)
      rintro ⟨skip, rest⟩
      apply of_bind ((Field.fixed_failsInPart _ _ _).mono IsPartial.isIllegible)
      rintro ⟨limit, rest⟩
      apply of_bind (of_mapError _ fun _ => IsIllegible.malformed _)
      intro size
      apply of_bind ((Document.decode_failsInPart _).mono IsPartial.isIllegible)
      intro query
      exact of_ok _
  | msg =>
      apply of_bind ((Field.fixed_failsInPart _ _ _).mono IsPartial.isIllegible)
      rintro ⟨flags, rest⟩
      apply of_bind (Message.boundary_failsIllegibly flags body)
      intro boundary
      apply of_bind ((Message.scan_failsInPart boundary body 4).mono IsPartial.isIllegible)
      rintro ⟨sections, stop⟩
      apply of_bind (Message.trailer_failsIllegibly flags body stop)
      intro checksum
      exact of_ok _
  | insert =>
      apply of_bind ((Field.fixed_failsInPart _ _ _).mono IsPartial.isIllegible)
      rintro ⟨flags, rest⟩
      apply of_bind ((Field.text_failsInPart _).mono IsPartial.isIllegible)
      rintro ⟨collection, rest⟩
      apply of_bind ((Document.decodeAll_failsInPart _).mono IsPartial.isIllegible)
      intro blocks
      cases blocks with
      | nil => exact of_error (.malformed _)
      | cons first others => exact of_ok _

end DocumentProtocol
