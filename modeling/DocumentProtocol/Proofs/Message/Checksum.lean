import DocumentProtocol.Proofs.Message.Grammar

/-!
# What a checksum changes

A message may end with a checksum, which its first flag announces. The main statement compares two
bodies with the same bytes behind the flags, one that ends there and one that goes on with a
checksum: they are read alike, with the same request or the same error, and only the second request
knows of a checksum. It holds for all bytes, also for those that cannot be read as sections.

The bodies differ in front of the sections, in the flags, and behind them. The reader of the
sections sees neither: `Message.scan_congr` says that it looks at nothing but the window between its
position and the boundary.
-/

namespace DocumentProtocol

theorem UInt32.and_or_distrib_right (first second mask : UInt32) :
    (first ||| second) &&& mask = first &&& mask ||| second &&& mask := by
  apply UInt32.toBitVec_inj.1
  simp only [UInt32.toBitVec_and, UInt32.toBitVec_or, BitVec.and_or_distrib_right]

/-- A request with a checksum, and with the flag that announces one. -/
def Request.withChecksum (checksum : UInt32) (request : Request) : Request :=
  { request with
    info :=
      { request.info with
        flags := request.info.flags ||| Message.checksumFlag
        checksum := some checksum } }

namespace Message

/-! ### Flags -/

theorem or_checksumFlag_ne_zero {flags : UInt32} (clear : flags &&& checksumFlag = 0) :
    (flags ||| checksumFlag) &&& checksumFlag ≠ 0 := by
  rw [UInt32.and_or_distrib_right, clear]
  decide

theorem or_checksumFlag_and_moreToComeFlag (flags : UInt32) :
    (flags ||| checksumFlag) &&& moreToComeFlag = flags &&& moreToComeFlag := by
  have apart : checksumFlag &&& moreToComeFlag = 0 := by decide
  rw [UInt32.and_or_distrib_right, apart, UInt32.or_zero]

/-! ### Sections -/

/-- Reading sections depends on nothing but the bytes between the position and the boundary. -/
theorem scan_congr {boundary position : Nat} {body other : Bytes}
    (inside : boundary ≤ body.length) (otherInside : boundary ≤ other.length)
    (same : window boundary body position = window boundary other position) :
    scan boundary body position = scan boundary other position := by
  induction distance : boundary - position using Nat.strongRecOn generalizing position with
  | ind distance ih =>
      rw [scan, scan]
      split
      · rename_i before
        rcases byte_eq_ok before inside with ⟨kind, rest, byte, window_eq⟩
        rcases byte_eq_ok before otherInside with ⟨otherKind, otherRest, otherByte, other_eq⟩
        rw [window_eq, other_eq, List.cons.injEq] at same
        rcases same with ⟨rfl, rest_eq⟩
        have next (size : Nat) : scan boundary body (position + 1 + size) =
            scan boundary other (position + 1 + size) := by
          apply ih _ (by omega) _ rfl
          rw [Nat.add_assoc, window_add, window_add, window_eq, other_eq, rest_eq]
        simp only [byte, otherByte, bind, Except.bind, rest_eq, next]
      · rfl

/-! ### Bodies -/

/-- A body without a checksum. -/
def bareBody (flags : UInt32) (bytes : Bytes) : Bytes := Bytes.ofUInt32 flags ++ bytes

/-- The same body with a checksum behind it. -/
def sealedBody (flags : UInt32) (bytes : Bytes) (checksum : UInt32) : Bytes :=
  Bytes.ofUInt32 (flags ||| checksumFlag) ++ bytes ++ Bytes.ofUInt32 checksum

section Comparison

variable {flags : UInt32} (clear : flags &&& checksumFlag = 0) (bytes : Bytes) (checksum : UInt32)

theorem window_bareBody : window (4 + bytes.length) (bareBody flags bytes) 4 = bytes := by
  rw [window, bareBody, List.take_of_length_le (by simp), List.drop_left' (by simp)]

theorem window_sealedBody :
    window (4 + bytes.length) (sealedBody flags bytes checksum) 4 = bytes := by
  rw [window, sealedBody, List.take_left' (by simp), List.drop_left' (by simp)]

theorem scan_sealedBody :
    scan (4 + bytes.length) (sealedBody flags bytes checksum) 4 =
      scan (4 + bytes.length) (bareBody flags bytes) 4 := by
  apply scan_congr
  · simp [sealedBody]
  · simp [bareBody]
  · rw [window_sealedBody, window_bareBody]

theorem uint32_bareBody : Field.uint32 (bareBody flags bytes) = .ok (flags, bytes) := by
  apply Field.fixed_eq_ok_iff.2
  simp [bareBody]

theorem uint32_sealedBody :
    Field.uint32 (sealedBody flags bytes checksum) =
      .ok (flags ||| checksumFlag, bytes ++ Bytes.ofUInt32 checksum) := by
  apply Field.fixed_eq_ok_iff.2
  simp [sealedBody]

theorem drop_bareBody : (bareBody flags bytes).drop (4 + bytes.length) = [] := by
  simp [bareBody]

theorem drop_sealedBody :
    (sealedBody flags bytes checksum).drop (4 + bytes.length) = Bytes.ofUInt32 checksum := by
  rw [sealedBody, List.drop_left' (by simp)]

include clear

theorem withChecksum_requestOf (requestId : Int32) (sections : List Section) :
    (requestOf requestId flags sections []).withChecksum checksum =
      requestOf requestId (flags ||| checksumFlag) sections (Bytes.ofUInt32 checksum) := by
  simp only [Request.withChecksum, requestOf, checksumOf, or_checksumFlag_and_moreToComeFlag,
    if_neg (or_checksumFlag_ne_zero clear), Bytes.toUInt32_ofUInt32]

theorem boundary_bareBody :
    boundary flags (bareBody flags bytes) = .ok (4 + bytes.length) := by
  rw [boundary_eq_ok_iff, if_pos clear]
  simp [bareBody]

theorem boundary_sealedBody :
    boundary (flags ||| checksumFlag) (sealedBody flags bytes checksum) =
      .ok (4 + bytes.length) := by
  rw [boundary_eq_ok_iff, if_neg (or_checksumFlag_ne_zero clear)]
  simp [sealedBody, checksumSize]
  omega

/--
A body is read alike with a checksum and without: the same error, or the same request, which only
knows that there is a checksum and which one it is.
-/
theorem decode_sealedBody (requestId : Int32) :
    decode requestId (sealedBody flags bytes checksum) =
        (decode requestId (bareBody flags bytes)).map (Request.withChecksum checksum) ∧
      ∀ request, decode requestId (bareBody flags bytes) = .ok request →
        request.info.flags = flags ∧ request.info.checksum = none := by
  rw [decode_of_boundary (uint32_bareBody bytes) (boundary_bareBody clear bytes),
    decode_of_boundary (uint32_sealedBody bytes checksum)
      (boundary_sealedBody clear bytes checksum), scan_sealedBody]
  cases scan (4 + bytes.length) (bareBody flags bytes) 4 with
  | error error => exact ⟨rfl, nofun⟩
  | ok result =>
      rcases result with ⟨sections, last⟩
      simp only [Except.map, Except.ok.injEq, drop_bareBody, drop_sealedBody]
      refine ⟨(withChecksum_requestOf clear checksum requestId sections).symm, ?_⟩
      rintro request rfl
      exact ⟨rfl, if_pos clear⟩

end Comparison

/-- A section that would be the document with a null if it could reach into the checksum. -/
def reaching : Bytes := [0, 8, 0, 0, 0]

theorem decode_sealedBody_reaching :
    moreToComeFlag &&& checksumFlag = 0 ∧
      sealedBody moreToComeFlag reaching 0x610A = [3, 0, 0, 0, 0, 8, 0, 0, 0, 10, 97, 0, 0] ∧
      decode 7 (bareBody moreToComeFlag reaching) = .error (.malformed .sectionOverrun) ∧
      decode 7 (sealedBody moreToComeFlag reaching 0x610A) =
        .error (.malformed .sectionOverrun) := by
  have clear : moreToComeFlag &&& checksumFlag = 0 := by decide
  have failed : decode 7 (bareBody moreToComeFlag reaching) =
      .error (.malformed .sectionOverrun) := by
    have scanned : scan (4 + reaching.length) (bareBody moreToComeFlag reaching) 4 =
        .error (.malformed .sectionOverrun) := by
      rw [scan, if_pos (by decide)]
      rfl
    rw [decode_of_boundary (uint32_bareBody reaching) (boundary_bareBody clear reaching), scanned]
    rfl
  refine ⟨clear, by decide, failed, ?_⟩
  rw [(decode_sealedBody clear reaching 0x610A 7).1, failed]
  rfl

end Message

end DocumentProtocol
