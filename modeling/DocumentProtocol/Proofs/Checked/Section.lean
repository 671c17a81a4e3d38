import DocumentProtocol.Proofs.Checked.Document
import DocumentProtocol.Proofs.Message.Grammar

/-!
# Sections of a buffer

The sections of a message are found by offsets into its body. The body is cut at the boundary, and
in what is left a section begins behind its kind: the document of a body section ends at the sum of
its offset and its size, and a document sequence is cut once more at its own end before its
identifier is looked for.

The sizes are those that the sender wrote, so every cut relies on a comparison made before it. The
walk ends because a section takes at least five bytes behind its kind.
-/

namespace DocumentProtocol

namespace Section

/-- The size of a document sequence, as a word at an offset. -/
theorem sequenceSize_drop (bytes : Bytes) (start : Nat) :
    sequenceSize (bytes.drop start) =
      ((Field.readAt Field.int32 bytes start).mapError fun _ => .malformed .sectionOverrun) >>=
        fun found =>
          if 5 ≤ found.1.toInt ∧ found.1.toInt ≤ (bytes.drop start).length then
            .ok found.1.toInt.toNat
          else .error (.malformed .sectionOverrun) := by
  rw [Field.readAt_eq_map, sequenceSize]
  cases Field.int32 (bytes.drop start) <;> rfl

end Section

namespace Buffer

open Checked

variable {space : AddressSpace}

/-- A section with fields of the query that begins at an offset, and the offset behind it. -/
def bodySection (sections : Buffer space) (start : Nat) : Checked (Section × Nat) := do
  let rest ← sections.part start sections.bytes.length
  let size ← ofExcept ((Document.announcedSize rest.bytes).mapError
    fun _ => .malformed .sectionOverrun)
  let stop ← space.add start size
  let own ← sections.part start stop
  let document ← ofExcept (Document.decode own.bytes)
  return (.body ⟨document, size⟩, stop)

/-- Where a document sequence ends, if this is not behind the boundary, and the offset behind its
size. -/
def sequenceStop (sections : Buffer space) (start boundary : Nat) : Checked (Nat × Nat) := do
  let (size, afterSize) ← (sections.int32 start).adapt fun _ => .malformed .sectionOverrun
  if size.toInt < 5 then throw (.malformed .sectionOverrun)
  else
    let stop ← space.add start size.toInt.toNat
    if boundary < stop then throw (.malformed .sectionOverrun)
    else return (stop, afterSize)

def sequenceSection (sections : Buffer space) (start boundary : Nat) :
    Checked (Section × Nat) := do
  let (stop, afterSize) ← sections.sequenceStop start boundary
  let own ← sections.part 0 stop
  let (identifier, behind) ← own.text afterSize
  let rest ← sections.part behind stop
  let blocks ← rest.documents
  return (.sequence identifier blocks, stop)

def sectionAt (sections : Buffer space) (kind : UInt8) (start boundary : Nat) :
    Checked (Section × Nat) :=
  if kind = Section.bodyKind then sections.bodySection start
  else if kind = Section.sequenceKind then sections.sequenceSection start boundary
  else throw (.malformed (.unknownSection kind))

/-- The sections from an offset up to the boundary, and the offset behind the last of them. -/
def scan (body : Buffer space) (boundary position : Nat) : Checked (List Section × Nat) :=
  if position < boundary then do
    let (kind, next) ← body.byte position
    let sections ← body.part 0 boundary
    let (first, stop) ← sections.sectionAt kind next boundary
    if _advanced : position + Document.minimumSize ≤ stop then
      let (others, last) ← body.scan boundary stop
      return (first :: others, last)
    else mishap .stalled
  else pure ([], position)
termination_by boundary - position
decreasing_by
  simp only [Document.minimumSize] at _advanced
  omega

/-- What a reader of a section finds, with the offset behind the section in place of its size. -/
def endingAt (start : Nat) (found : Section × Nat) : Section × Nat := (found.1, start + found.2)

variable {sections : Buffer space} {start : Nat}

theorem yields_bodySection (inside : start ≤ sections.bytes.length) :
    Yields (sections.bodySection start)
      (endingAt start <$> Section.readBody (sections.bytes.drop start)) := by
  rw [bodySection, Section.readBody]
  simp only [map_bind, map_pure]
  apply yields_rest_bind inside
  intro rest rest_eq
  rw [← rest_eq]
  apply Yields.bind (.ofExcept _)
  intro size announced
  have size_le := (Document.announcedSize_eq_ok (Except.mapError_eq_ok_iff.1 announced)).2
  rw [rest_eq, List.length_drop] at size_le
  have stop_le : start + size ≤ sections.bytes.length := by omega
  apply AddressSpace.yields_add_bind (sections.lt_limit stop_le)
  apply yields_part_bind (Nat.le_add_right start size) stop_le
  intro own own_eq
  rw [List.drop_take, Nat.add_sub_cancel_left, ← rest_eq] at own_eq
  rw [← own_eq]
  exact Yields.bind (.ofExcept _) fun document _ => .pure _

theorem yields_sequenceStop :
    Yields (sections.sequenceStop start sections.bytes.length)
      ((fun size => (start + size, start + 4)) <$>
        Section.sequenceSize (sections.bytes.drop start)) := by
  rw [sequenceStop, Section.sequenceSize_drop, map_bind]
  apply Yields.bind ((sections.yields_int32 start).adapt _)
  rintro ⟨size, afterSize⟩ found
  rw [Except.mapError_eq_ok_iff, Field.int32, Field.readAt_fixed (by decide)] at found
  split at found
  · rename_i enough
    cases found
    dsimp only
    generalize Bytes.toInt32 ((sections.bytes.drop start).take 4) = size
    rw [List.length_drop]
    split
    · rw [if_neg (by omega)]
      exact .throw _
    · -- The size is not compared with anything yet, so the sum has to be in range for any word.
      have fits := sections.fits
      have room := space.two_mul_toInt_lt size
      apply AddressSpace.yields_add_bind (by omega)
      split
      · rw [if_neg (by omega)]
        exact .throw _
      · rw [if_pos (by omega)]
        exact .pure _
  · cases found

theorem yields_sequenceSection :
    Yields (sections.sequenceSection start sections.bytes.length)
      (endingAt start <$> Section.readSequence (sections.bytes.drop start)) := by
  rw [sequenceSection, Section.readSequence]
  simp only [map_bind]
  apply Yields.bind_map yields_sequenceStop
  intro size read
  have bounds := (Section.sequenceSize_eq_ok_iff.1 read).2
  rw [List.length_drop] at bounds
  have stop_le : start + size ≤ sections.bytes.length := by omega
  apply yields_part_bind (Nat.zero_le _) stop_le
  intro own own_eq
  rw [List.drop_zero] at own_eq
  have behindStart : (sections.bytes.drop start).take size = own.bytes.drop start := by
    rw [own_eq, List.drop_take, Nat.add_sub_cancel_left]
  have length_eq : own.bytes.length = start + size := by
    rw [own_eq, List.length_take, Nat.min_eq_left stop_le]
  rw [behindStart, List.drop_drop]
  apply Yields.read_bind Field.trims_text (own.yields_text _)
  intro identifier behind _ behind_le
  dsimp only
  apply yields_part_bind (by omega) stop_le
  intro rest rest_eq
  rw [← own_eq] at rest_eq
  rw [← rest_eq]
  exact Yields.bind rest.yields_documents fun blocks _ => .pure _

theorem yields_sectionAt (kind : UInt8) (inside : start ≤ sections.bytes.length) :
    Yields (sections.sectionAt kind start sections.bytes.length)
      (endingAt start <$> Section.read kind (sections.bytes.drop start)) := by
  rw [sectionAt, Section.read]
  split
  · exact yields_bodySection inside
  · split
    · exact yields_sequenceSection
    · exact .throw _

theorem yields_scan (body : Buffer space) {boundary : Nat} (inside : boundary ≤ body.bytes.length)
    (position : Nat) :
    Yields (body.scan boundary position) (Message.scan boundary body.bytes position) := by
  induction distance : boundary - position using Nat.strongRecOn generalizing position with
  | ind distance ih =>
      rw [scan, Message.scan]
      split
      · rename_i before
        apply Yields.read_bind (Field.trims_fixed _ _) (body.yields_byte position)
        intro kind later found _
        rw [Field.readAt_fixed Nat.one_pos, if_pos (by omega)] at found
        cases found
        dsimp only
        apply yields_part_bind (Nat.zero_le _) inside
        intro sections sections_eq
        rw [List.drop_zero] at sections_eq
        have length_eq : sections.bytes.length = boundary := by
          rw [sections_eq, List.length_take, Nat.min_eq_left inside]
        -- Bytes up to the boundary and then behind the kind, or the other way round, are the same.
        rw [← List.drop_take, ← sections_eq]
        have yields (kind : UInt8) : Yields (sections.sectionAt kind (position + 1) boundary)
            (endingAt (position + 1) <$> Section.read kind (sections.bytes.drop (position + 1))) :=
          length_eq ▸ yields_sectionAt kind (by omega)
        apply Yields.bind_map (yields _)
        rintro ⟨first, size⟩ read
        have advanced : position + Document.minimumSize ≤ position + 1 + size := by
          have atLeast := (Section.size_of_read read).1
          simp only [Document.minimumSize]
          omega
        simp only [endingAt, advanced, ↓reduceDIte]
        exact Yields.bind (ih _ (by omega) _ rfl) fun found _ => .pure _
      · exact .pure _

end Buffer

end DocumentProtocol
