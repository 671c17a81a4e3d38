import DocumentProtocol.Message.Section
import DocumentProtocol.Proofs.Document.Blocks
import DocumentProtocol.Proofs.Document.Insertion

/-!
# The grammar of sectioned messages

`Section.Spelled` says which bytes a section is written in and `Message.Spelled` which bytes a body
is written in, without positions: flags, sections in a row, and a trailer of four bytes just when
the first flag is set. The main statement is that the reader accepts a body exactly when it is
spelled so, and that the request is then the one that `Message.Means` describes.

The reader walks by position up to a boundary. The bytes between the two are the invariant: reading
a section takes its bytes off their front, and `Message.scan_eq_ok_iff` follows by induction.
-/

namespace DocumentProtocol

namespace Field

theorem fixed_eq_ok_iff {α : Type} {size : Nat} {value : Bytes → α} {bytes rest : Bytes}
    {found : α} :
    fixed size value bytes = .ok (found, rest) ↔
      size ≤ bytes.length ∧ value (bytes.take size) = found ∧ bytes.drop size = rest := by
  unfold fixed Bytes.cut?
  by_cases enough : size ≤ bytes.length <;> simp [enough]

theorem text_eq_ok_iff {bytes rest : Bytes} {text : String} :
    Field.text bytes = .ok (text, rest) ↔
      bytes = Text.terminated text ++ rest ∧ Text.holdsZero text = false := by
  unfold Field.text
  constructor
  · intro read
    split at read
    · rename_i found
      simp only [Except.ok.injEq] at read
      subst read
      exact Text.readTerminated_eq_ok found
    · cases read
    · cases read
  · rintro ⟨rfl, free⟩
    rw [Text.readTerminated_terminated free]

end Field

namespace Section

/-- The fields that a section brings to the query. -/
def fields : Section → List (String × Value)
  | .body block => block.document
  | .sequence identifier blocks => [(identifier, .array ((Block.documents blocks).map .document))]

def blocks : Section → List Block
  | .body block => [block]
  | .sequence _ blocks => blocks

/-- The bytes of a section, from its kind on. -/
inductive Spelled : Section → Bytes → Prop where
  | body {bytes : Bytes} {document : Document} (decoded : Document.decode bytes = .ok document) :
      Spelled (.body ⟨document, bytes.length⟩) (bodyKind :: bytes)
  /-- The size counts itself, the identifier with its terminator and the documents. -/
  | sequence {size : Int32} {identifier : String} {bytes : Bytes} {blocks : List Block}
      (size_eq : size.toInt = (4 + ((Text.encode identifier).length + 1) + bytes.length : Nat))
      (free : Text.holdsZero identifier = false) (row : Block.Row bytes blocks) :
      Spelled (.sequence identifier blocks)
        (sequenceKind :: (Bytes.ofInt32 size ++ (Text.terminated identifier ++ bytes)))

/-- Some bytes are sections one after the other. -/
inductive Row : Bytes → List Section → Prop where
  | nil : Row [] []
  | cons {front rest : Bytes} {first : Section} {others : List Section}
      (spelled : Spelled first front) (row : Row rest others) :
      Row (front ++ rest) (first :: others)

theorem readBody_eq_ok_iff {bytes : Bytes} {found : Section} {size : Nat} :
    readBody bytes = .ok (found, size) ↔
      size ≤ bytes.length ∧ Spelled found (bodyKind :: bytes.take size) := by
  simp only [readBody, Except.bind_eq_ok_iff, Except.mapError_eq_ok_iff]
  constructor
  · rintro ⟨announced, size_eq, document, decoded, read⟩
    simp only [pure, Except.pure, Except.ok.injEq, Prod.mk.injEq] at read
    rcases read with ⟨rfl, rfl⟩
    have size_le := (Document.announcedSize_eq_ok size_eq).2
    have spelled := Spelled.body decoded
    rw [List.length_take, Nat.min_eq_left size_le] at spelled
    exact ⟨size_le, spelled⟩
  · rintro ⟨size_le, spelled⟩
    have taken : (bytes.take size).length = size := by
      rw [List.length_take, Nat.min_eq_left size_le]
    cases spelled with
    | body decoded =>
        have announced := Document.announcedSize_append (Document.announcedSize_of_decode decoded)
          (bytes.drop size)
        rw [List.take_append_drop, taken] at announced
        exact ⟨size, announced, _, decoded, by simp [taken, pure, Except.pure]⟩

theorem sequenceSize_eq_ok_iff {bytes : Bytes} {size : Nat} :
    sequenceSize bytes = .ok size ↔
      (Bytes.toInt32 (bytes.take 4)).toInt = size ∧ 5 ≤ size ∧ size ≤ bytes.length := by
  unfold sequenceSize
  cases read : Field.int32 bytes with
  | error error =>
      have short : ¬4 ≤ bytes.length := by
        intro enough
        simp [Field.int32, Field.fixed, Bytes.cut?, enough] at read
      simp only [reduceCtorEq, false_iff]
      omega
  | ok found =>
      rcases found with ⟨value, rest⟩
      rcases Field.fixed_eq_ok_iff.1 read with ⟨_, rfl, _⟩
      dsimp only
      split
      · simp only [Except.ok.injEq]
        omega
      · simp only [reduceCtorEq, false_iff]
        omega

theorem readSequence_eq_ok_iff {bytes : Bytes} {found : Section} {size : Nat} :
    readSequence bytes = .ok (found, size) ↔
      size ≤ bytes.length ∧ Spelled found (sequenceKind :: bytes.take size) := by
  simp only [readSequence, Except.bind_eq_ok_iff, sequenceSize_eq_ok_iff, Prod.exists,
    Field.text_eq_ok_iff, Document.decodeAll_eq_ok_iff, pure, Except.pure, Except.ok.injEq,
    Prod.mk.injEq]
  constructor
  · rintro ⟨size, ⟨size_eq, atLeast, size_le⟩, identifier, rest, ⟨bytes_eq, free⟩, blocks, row,
      rfl, rfl⟩
    have front : bytes.take 4 = (bytes.take size).take 4 := by
      rw [List.take_take, Nat.min_eq_left (by omega)]
    have whole : bytes.take size =
        Bytes.ofInt32 (Bytes.toInt32 (bytes.take 4)) ++ (Text.terminated identifier ++ rest) := by
      rw [Bytes.ofInt32_toInt32 (by rw [List.length_take]; omega), ← bytes_eq, front,
        List.take_append_drop]
    have length := congrArg List.length whole
    simp only [List.length_take, List.length_append, Bytes.length_ofInt32,
      Text.length_terminated] at length
    refine ⟨size_le, ?_⟩
    rw [whole]
    apply Spelled.sequence _ free row
    omega
  · rintro ⟨size_le, spelled⟩
    generalize whole : bytes.take size = taken at spelled
    have length : taken.length = size := by
      rw [← whole, List.length_take, Nat.min_eq_left size_le]
    cases spelled with
    | @sequence value identifier rest blocks size_eq free row =>
        simp only [List.length_append, Bytes.length_ofInt32, Text.length_terminated] at length
        have front : bytes.take 4 = Bytes.ofInt32 value := by
          have cut : bytes.take 4 = (bytes.take size).take 4 := by
            rw [List.take_take, Nat.min_eq_left (by omega)]
          rw [cut, whole, List.take_left' (by simp)]
        refine ⟨size, ⟨?_, by omega, size_le⟩, identifier, rest, ⟨?_, free⟩, blocks, row, rfl, rfl⟩
        · rw [front, Bytes.toInt32_ofInt32]
          omega
        · rw [whole, List.drop_left' (by simp)]

theorem read_eq_ok_iff {kind : UInt8} {bytes : Bytes} {found : Section} {size : Nat} :
    read kind bytes = .ok (found, size) ↔
      size ≤ bytes.length ∧ Spelled found (kind :: bytes.take size) := by
  unfold read
  split
  · rename_i body
    rw [body, readBody_eq_ok_iff]
  · split
    · rename_i sequence
      rw [sequence, readSequence_eq_ok_iff]
    · rename_i notBody notSequence
      simp only [reduceCtorEq, false_iff, not_and]
      intro _ spelled
      generalize written : kind :: bytes.take size = front at spelled
      cases spelled with
      | body => exact notBody (List.cons.inj written).1
      | sequence => exact notSequence (List.cons.inj written).1

/-- A section takes at least five bytes behind its kind, and no more than there are. -/
theorem size_of_read {kind : UInt8} {bytes : Bytes} {found : Section} {size : Nat}
    (read : read kind bytes = .ok (found, size)) :
    5 ≤ size ∧ size ≤ bytes.length := by
  rcases read_eq_ok_iff.1 read with ⟨inside, spelled⟩
  refine ⟨?_, inside⟩
  have taken : (bytes.take size).length = size := by
    rw [List.length_take, Nat.min_eq_left inside]
  generalize written : kind :: bytes.take size = front at spelled
  cases spelled with
  | body decoded =>
      cases written
      have atLeast := Document.length_of_decode decoded
      simp only [Document.minimumSize] at atLeast
      omega
  | @sequence word identifier rest blocks size_eq free row =>
      have length := congrArg List.length written
      simp only [List.length_cons, List.length_append, Bytes.length_ofInt32,
        Text.length_terminated] at length
      omega

theorem Spelled.length_pos {written : Section} {bytes : Bytes} (spelled : Spelled written bytes) :
    0 < bytes.length := by
  cases spelled <;> simp

theorem row_nil_iff {sections : List Section} : Row [] sections ↔ sections = [] := by
  constructor
  · intro row
    generalize empty : ([] : Bytes) = bytes at row
    cases row with
    | nil => rfl
    | cons spelled =>
        have positive := spelled.length_pos
        rw [(List.append_eq_nil_iff.1 empty.symm).1] at positive
        simp at positive
  · rintro rfl
    exact .nil

/-- A row begins with a section that begins with its kind. -/
theorem row_cons_iff {kind : UInt8} {bytes : Bytes} {sections : List Section} :
    Row (kind :: bytes) sections ↔
      ∃ size first others, size ≤ bytes.length ∧ Spelled first (kind :: bytes.take size) ∧
        Row (bytes.drop size) others ∧ sections = first :: others := by
  constructor
  · intro row
    generalize written : kind :: bytes = whole at row
    cases row with
    | nil => cases written
    | @cons front after first others spelled row =>
        have positive := spelled.length_pos
        cases front with
        | nil => simp at positive
        | cons byte front =>
            simp only [List.cons_append, List.cons.injEq] at written
            rcases written with ⟨rfl, rfl⟩
            refine ⟨front.length, first, others, ?_, ?_, ?_, rfl⟩
            · simp
            · rwa [List.take_left' rfl]
            · rwa [List.drop_left' rfl]
  · rintro ⟨size, first, others, _, spelled, row, rfl⟩
    rw [← List.take_append_drop size bytes, ← List.cons_append]
    exact .cons spelled row

theorem foldl_max_largest (sections : List Section) (least : Nat) :
    (sections.map largest).foldl max least =
      ((sections.flatMap blocks).map Block.size).foldl max least := by
  induction sections generalizing least with
  | nil => rfl
  | cons first others ih =>
      cases first with
      | body block => simp [largest, blocks, ih]
      | sequence identifier documents =>
          have sizes : Block.largest documents = (documents.map Block.size).foldl max 0 := by
            rw [List.foldl_map]
            rfl
          have inner : max least (Block.largest documents) =
              (documents.map Block.size).foldl max least := by
            rw [sizes, List.foldl_max, List.foldl_max]
            cases (documents.map Block.size).max? <;> simp
          simp [largest, blocks, ih, inner]

end Section

namespace Message

/-- The bytes between a position and the boundary. -/
def window (boundary : Nat) (body : Bytes) (position : Nat) : Bytes :=
  (body.take boundary).drop position

theorem window_of_le {boundary position : Nat} {body : Bytes} (past : boundary ≤ position) :
    window boundary body position = [] := by
  rw [window, List.drop_eq_nil_iff, List.length_take]
  omega

theorem window_add {boundary position : Nat} {body : Bytes} (size : Nat) :
    window boundary body (position + size) = (window boundary body position).drop size := by
  rw [window, window, List.drop_drop]

theorem length_window {boundary position : Nat} {body : Bytes} (inside : boundary ≤ body.length) :
    (window boundary body position).length = boundary - position := by
  rw [window, List.length_drop, List.length_take, Nat.min_eq_left inside]

theorem byte_eq_ok {boundary position : Nat} {body : Bytes} (before : position < boundary)
    (inside : boundary ≤ body.length) :
    ∃ kind rest, Field.byte (body.drop position) = .ok (kind, rest) ∧
      window boundary body position = kind :: rest.take (boundary - (position + 1)) := by
  have present : position < body.length := by omega
  refine ⟨body[position], body.drop (position + 1), ?_, ?_⟩
  · rw [Field.byte, Field.fixed_eq_ok_iff]
    refine ⟨?_, ?_, by rw [List.drop_drop]⟩
    · rw [List.length_drop]
      omega
    · rw [List.drop_eq_getElem_cons present]
      rfl
  · rw [window, List.drop_take, List.drop_eq_getElem_cons present]
    have size_eq : boundary - position = boundary - (position + 1) + 1 := by omega
    rw [size_eq, List.take_succ_cons]

/-- The scan reads the sections in a row that end at the boundary, and stops there. -/
theorem scan_eq_ok_iff {boundary position stop : Nat} {body : Bytes} {sections : List Section}
    (inside : boundary ≤ body.length) (atMost : position ≤ boundary) :
    scan boundary body position = .ok (sections, stop) ↔
      Section.Row (window boundary body position) sections ∧ stop = boundary := by
  induction distance : boundary - position using Nat.strongRecOn generalizing position sections with
  | ind distance ih =>
      rw [scan]
      split
      · rename_i before
        rcases byte_eq_ok before inside with ⟨kind, rest, byte, window_eq⟩
        have length :
            (rest.take (boundary - (position + 1))).length = boundary - (position + 1) := by
          have whole : (window boundary body position).length = boundary - position :=
            length_window inside
          rw [window_eq, List.length_cons] at whole
          omega
        have next (size : Nat) : window boundary body (position + 1 + size) =
            (rest.take (boundary - (position + 1))).drop size := by
          rw [Nat.add_assoc, window_add, window_eq, Nat.add_comm 1 size, List.drop_succ_cons]
        simp only [byte, Except.bind_eq_ok_iff, Prod.exists, Section.read_eq_ok_iff, pure,
          Except.pure, Except.ok.injEq, Prod.mk.injEq]
        rw [window_eq, Section.row_cons_iff]
        constructor
        · rintro ⟨_, _, ⟨rfl, rfl⟩, first, size, ⟨size_le, spelled⟩, others, _, scanned, rfl, rfl⟩
          rcases (ih _ (by omega) (by omega) rfl).1 scanned with ⟨row, stop_eq⟩
          rw [next] at row
          exact ⟨⟨size, first, others, size_le, spelled, row, rfl⟩, stop_eq⟩
        · rintro ⟨⟨size, first, others, size_le, spelled, row, rfl⟩, rfl⟩
          rw [← next] at row
          have scanned := (ih _ (by omega) (by omega) rfl).2 ⟨row, rfl⟩
          exact ⟨kind, rest, ⟨rfl, rfl⟩, first, size, ⟨size_le, spelled⟩, others, stop, scanned,
            rfl, rfl⟩
      · rename_i past
        rw [window_of_le (Nat.not_lt.1 past), Section.row_nil_iff]
        simp only [Except.ok.injEq, Prod.mk.injEq]
        constructor
        · rintro ⟨rfl, rfl⟩
          exact ⟨rfl, by omega⟩
        · rintro ⟨rfl, rfl⟩
          exact ⟨rfl, by omega⟩

theorem boundary_eq_ok_iff {flags : UInt32} {body : Bytes} {stop : Nat} :
    boundary flags body = .ok stop ↔
      if flags &&& checksumFlag = 0 then stop = body.length
      else 4 + checksumSize ≤ body.length ∧ stop = body.length - checksumSize := by
  unfold boundary
  split
  · simp [eq_comm]
  · split
    · simp only [reduceCtorEq, false_iff]
      omega
    · simp only [Except.ok.injEq]
      omega

theorem boundary_bounds {flags : UInt32} {body : Bytes} {stop : Nat} (enough : 4 ≤ body.length)
    (found : boundary flags body = .ok stop) : 4 ≤ stop ∧ stop ≤ body.length := by
  rw [boundary_eq_ok_iff] at found
  split at found
  · omega
  · simp only [checksumSize] at found
    omega

def trailerSize (flags : UInt32) : Nat := if flags &&& checksumFlag = 0 then 0 else checksumSize

def checksumOf (flags : UInt32) (trailer : Bytes) : Option UInt32 :=
  if flags &&& checksumFlag = 0 then none else some (Bytes.toUInt32 trailer)

/-- Behind a boundary there are just the bytes that the flags promise. -/
theorem length_drop_of_boundary {flags : UInt32} {body : Bytes} {stop : Nat}
    (found : boundary flags body = .ok stop) : (body.drop stop).length = trailerSize flags := by
  rw [boundary_eq_ok_iff] at found
  rw [trailerSize, List.length_drop]
  split
  · rename_i clear
    rw [if_pos clear] at found
    omega
  · rename_i set
    rw [if_neg set] at found
    omega

theorem trailer_of_boundary {flags : UInt32} {body : Bytes} {stop : Nat}
    (found : boundary flags body = .ok stop) :
    trailer flags body stop = .ok (checksumOf flags (body.drop stop)) := by
  have length := length_drop_of_boundary found
  rw [trailerSize, List.length_drop] at length
  unfold trailer checksumOf
  split
  · rename_i clear
    rw [if_pos clear] at length
    simp [length]
  · rename_i set
    rw [if_neg set] at length
    have four : (body.drop stop).length = 4 := by
      rw [List.length_drop, length, checksumSize]
    have enough : 4 ≤ (body.drop stop).length := by omega
    have all : (body.drop stop).take 4 = body.drop stop := List.take_of_length_le (by omega)
    simp only [length, ne_eq, not_true_eq_false, ↓reduceIte, Field.uint32, Field.fixed, Bytes.cut?,
      enough, Except.map, all]

/--
The bytes of a message: its flags, its sections in a row, and a trailer just when the flags promise
a checksum.
-/
structure Spelled (flags : UInt32) (sections : List Section) (trailer body : Bytes) : Prop where
  bytes_eq : ∃ bytes, Section.Row bytes sections ∧ body = Bytes.ofUInt32 flags ++ bytes ++ trailer
  trailer_length : trailer.length = trailerSize flags

/-- What a message comes to as a request. -/
structure Means (requestId : Int32) (flags : UInt32) (sections : List Section) (trailer : Bytes)
    (request : Request) : Prop where
  operation_eq : request.operation = .msg
  query_eq : request.query =
    (sections.flatMap Section.fields).foldl
      (fun (query : Document) field => query.insert field.1 field.2) []
  /-- A name of the query stands where it came first. -/
  keys_eq : request.query.keys = ((sections.flatMap Section.fields).map Prod.fst).eraseDups
  /-- The value under a name is the one that came last. -/
  find?_eq : ∀ key, request.query.find? key = (sections.flatMap Section.fields).reverse.lookup key
  info_eq : request.info =
    { requestId := requestId
      flags := flags
      database := (request.query.find? databaseKey).bind Value.text?
      sequenceIds := sections.filterMap Section.identifier?
      checksum := checksumOf flags trailer
      moreToCome := flags &&& moreToComeFlag ≠ 0
      largestDocument := ((sections.flatMap Section.blocks).map Block.size).max?.getD 0 }

theorem query_eq_ofFields (sections : List Section) :
    query sections = Document.ofFields (sections.flatMap Section.fields) := by
  have join (start : Document) :
      sections.foldl Section.joinTo start = start.insertAll (sections.flatMap Section.fields) := by
    induction sections generalizing start with
    | nil => rfl
    | cons first others ih =>
        cases first <;> simp [Section.joinTo, Section.fields, ih]
  exact join []

def requestOf (requestId : Int32) (flags : UInt32) (sections : List Section) (trailer : Bytes) :
    Request where
  operation := .msg
  query := query sections
  info :=
    { requestId := requestId
      flags := flags
      database := ((query sections).find? databaseKey).bind Value.text?
      sequenceIds := sections.filterMap Section.identifier?
      checksum := checksumOf flags trailer
      moreToCome := flags &&& moreToComeFlag ≠ 0
      largestDocument := (sections.map Section.largest).foldl max 0 }

theorem means_iff {requestId : Int32} {flags : UInt32} {sections : List Section} {trailer : Bytes}
    {request : Request} :
    Means requestId flags sections trailer request ↔
      request = requestOf requestId flags sections trailer := by
  have largest : (sections.map Section.largest).foldl max 0 =
      ((sections.flatMap Section.blocks).map Block.size).max?.getD 0 := by
    rw [Section.foldl_max_largest, List.foldl_max, Nat.zero_max]
  constructor
  · rintro ⟨operation_eq, query_eq, _, _, info_eq⟩
    rcases request with ⟨operation, query, info⟩
    subst operation_eq query_eq
    dsimp only at info_eq
    rw [info_eq, requestOf, largest, query_eq_ofFields]
    rfl
  · rintro rfl
    refine
      { operation_eq := rfl
        query_eq := query_eq_ofFields sections
        keys_eq := ?_
        find?_eq := ?_
        info_eq := by rw [requestOf, largest] }
    · rw [requestOf, query_eq_ofFields, Document.keys_ofFields]
    · intro key
      rw [requestOf, query_eq_ofFields, Document.find?_ofFields]

/-- The bytes between the flags and the trailer are those up to the boundary. -/
theorem spelled_iff {flags : UInt32} {sections : List Section} {trailer body : Bytes} :
    Spelled flags sections trailer body ↔
      4 ≤ body.length ∧ Bytes.toUInt32 (body.take 4) = flags ∧
        ∃ stop, boundary flags body = .ok stop ∧ 4 ≤ stop ∧
          Section.Row (window stop body 4) sections ∧ trailer = body.drop stop := by
  constructor
  · rintro ⟨⟨bytes, row, rfl⟩, trailer_length⟩
    have window_eq : window (4 + bytes.length) (Bytes.ofUInt32 flags ++ bytes ++ trailer) 4 =
        bytes := by
      rw [window, List.take_left' (by simp), List.drop_left' (by simp)]
    refine ⟨?_, ?_, 4 + bytes.length, ?_, by omega, by rwa [window_eq], ?_⟩
    · simp only [List.length_append, Bytes.length_ofUInt32]
      omega
    · rw [List.append_assoc, List.take_left' (by simp), Bytes.toUInt32_ofUInt32]
    · rw [boundary_eq_ok_iff]
      simp only [trailerSize] at trailer_length
      simp only [List.length_append, Bytes.length_ofUInt32, trailer_length]
      split <;> omega
    · rw [List.drop_left' (by simp)]
  · rintro ⟨enough, rfl, stop, found, atLeast, row, rfl⟩
    refine ⟨⟨window stop body 4, row, ?_⟩, length_drop_of_boundary found⟩
    have front : body.take 4 = (body.take stop).take 4 := by
      rw [List.take_take, Nat.min_eq_left atLeast]
    rw [Bytes.ofUInt32_toUInt32 (by rw [List.length_take]; omega), window, front,
      List.take_append_drop, List.take_append_drop]

/-- A body with a boundary is read as what the sections in front of the boundary come to. -/
theorem decode_of_boundary {requestId : Int32} {flags : UInt32} {body rest : Bytes} {stop : Nat}
    (read : Field.uint32 body = .ok (flags, rest)) (found : boundary flags body = .ok stop) :
    decode requestId body = (scan stop body 4).map fun (sections, _) =>
      requestOf requestId flags sections (body.drop stop) := by
  rcases boundary_bounds (Field.fixed_eq_ok_iff.1 read).1 found with ⟨atLeast, inside⟩
  simp only [decode, read, found, bind, Except.bind]
  cases scanned : scan stop body 4 with
  | error error => rfl
  | ok result =>
      rcases result with ⟨sections, last⟩
      cases ((scan_eq_ok_iff inside atLeast).1 scanned).2
      simp only [trailer_of_boundary found]
      rfl

theorem decode_of_spelled {requestId : Int32} {flags : UInt32} {sections : List Section}
    {trailer body : Bytes} (spelled : Spelled flags sections trailer body) :
    decode requestId body = .ok (requestOf requestId flags sections trailer) := by
  rcases spelled_iff.1 spelled with ⟨enough, flags_eq, stop, found, atLeast, row, rfl⟩
  have inside := (boundary_bounds enough found).2
  have read : Field.uint32 body = .ok (flags, body.drop 4) :=
    Field.fixed_eq_ok_iff.2 ⟨enough, flags_eq, rfl⟩
  rw [decode_of_boundary read found, (scan_eq_ok_iff inside atLeast).2 ⟨row, rfl⟩]
  rfl

/-- A body that is read is spelled by some sections, and the request is what they come to. -/
theorem spelled_of_decode {requestId : Int32} {body : Bytes} {request : Request}
    (decoded : decode requestId body = .ok request) :
    ∃ flags sections trailer, Spelled flags sections trailer body ∧
      request = requestOf requestId flags sections trailer := by
  have parts := decoded
  simp only [decode, Except.bind_eq_ok_iff, Prod.exists] at parts
  rcases parts with ⟨flags, _, read, stop, found, _⟩
  rw [decode_of_boundary read found] at decoded
  rcases Except.map_eq_ok_iff.1 decoded with ⟨⟨sections, _⟩, scanned, rfl⟩
  rcases Field.fixed_eq_ok_iff.1 read with ⟨enough, flags_eq, _⟩
  rcases boundary_bounds enough found with ⟨atLeast, inside⟩
  have row := ((scan_eq_ok_iff inside atLeast).1 scanned).1
  exact ⟨flags, sections, body.drop stop,
    spelled_iff.2 ⟨enough, flags_eq, stop, found, atLeast, row, rfl⟩, rfl⟩

/--
A body is read exactly when it is flags, sections and the promised trailer, and the request is then
what these mean.
-/
theorem decode_eq_ok_iff_spelled (requestId : Int32) (body : Bytes) (request : Request) :
    decode requestId body = .ok request ↔
      ∃ flags sections trailer, Spelled flags sections trailer body ∧
        Means requestId flags sections trailer request := by
  constructor
  · intro decoded
    rcases spelled_of_decode decoded with ⟨flags, sections, trailer, spelled, request_eq⟩
    exact ⟨flags, sections, trailer, spelled, means_iff.2 request_eq⟩
  · rintro ⟨flags, sections, trailer, spelled, means⟩
    rw [means_iff.1 means]
    exact decode_of_spelled spelled

end Message

end DocumentProtocol
