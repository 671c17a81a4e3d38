import DocumentProtocol.Proofs.Message.Layout

/-!
# What stands behind a query

A legacy query ends with its document, and its reader stops there: a second document may follow that
selects fields, or anything else. `Query.front` is what is read, and `Query.Conveys` is the request
that it conveys: the collection is for commands when its name ends in `.$cmd`, and the database is
what stands before the first dot, if that is not empty.

The main statement is that a body is read just when it begins with such a front, that the request is
then the one that the front conveys, whatever follows it, and that a query that survives comes back
from its body, also with other bytes behind it.
-/

namespace DocumentProtocol

/-! ### Names of collections -/

theorem Request.databaseOf?_eq_some_iff {collection database : String} :
    databaseOf? collection = some database ↔
      database ≠ "" ∧ '.' ∉ database.toList ∧ ∃ rest, collection = database ++ "." ++ rest := by
  constructor
  · intro found
    simp only [databaseOf?, Option.ite_none_right_eq_some, Option.some.injEq] at found
    rcases found with ⟨⟨shorter, present⟩, rfl⟩
    have split := List.takeWhile_append_dropWhile (p := (· ≠ '.')) (l := collection.toList)
    generalize before : collection.toList.takeWhile (· ≠ '.') = name at *
    generalize after : collection.toList.dropWhile (· ≠ '.') = behind at *
    cases behind with
    | nil =>
        rw [← split] at shorter
        simp at shorter
    | cons dot behind =>
        -- The search has stopped at a character, which is the one that it was for.
        have dot_eq : dot = '.' := by
          have head := List.head?_dropWhile_not (p := (· ≠ '.')) (l := collection.toList)
          rw [after] at head
          simpa using head
        refine ⟨?_, ?_, String.ofList behind, ?_⟩
        · simpa using present
        · rw [String.toList_ofList, ← before]
          intro mem
          simpa using List.mem_takeWhile_imp mem
        · apply String.toList_inj.1
          rw [← split, dot_eq]
          simp
  · rintro ⟨present, free, rest, rfl⟩
    have before : (database ++ "." ++ rest).toList.takeWhile (· ≠ '.') = database.toList := by
      rw [String.toList_append, String.toList_append, List.append_assoc]
      exact Text.takeWhile_ne_append free rest.toList
    have shorter : database.toList.length < (database ++ "." ++ rest).toList.length := by
      simp
    have named : database.toList ≠ [] := by
      simpa using present
    simp only [databaseOf?, before]
    rw [if_pos ⟨shorter, named⟩, String.ofList_toList]

namespace Query

theorem isCommandName_iff {collection : String} :
    isCommandName collection = true ↔ ∃ name, collection = name ++ ".$cmd" := by
  rw [isCommandName, List.isPrefixOf_iff_prefix, List.reverse_prefix]
  constructor
  · rintro ⟨name, whole⟩
    refine ⟨String.ofList name, ?_⟩
    apply String.toList_inj.1
    rw [← whole]
    simp [commandCollection]
  · rintro ⟨name, rfl⟩
    exact ⟨name.toList, by simp [commandCollection]⟩

/-! ### Fronts -/

/-- Whether a request is the one that some fields and the bytes of a document convey. -/
structure Conveys (requestId : Int32) (flags : UInt32) (collection : String) (skip limit : Int32)
    (document : Bytes) (request : Request) : Prop where
  operation_eq : request.operation = .query
  query_eq : Document.decode document = .ok request.query
  isCommand_iff : request.info.isCommand = true ↔ ∃ name, collection = name ++ ".$cmd"
  /-- The database is what stands before the first dot, if there is something. -/
  database_iff : ∀ database, request.info.database = some database ↔
    database ≠ "" ∧ '.' ∉ database.toList ∧ ∃ rest, collection = database ++ "." ++ rest
  info_eq : request.info =
    { requestId := requestId
      flags := flags
      collection := some collection
      skip := some skip
      limit := some limit
      isCommand := request.info.isCommand
      database := request.info.database
      largestDocument := document.length }

section Reading

variable {requestId : Int32} {flags : UInt32} {collection : String} {skip limit : Int32}
  {document rest body : Bytes} {query : Document} {request : Request}

/-- Fields and the bytes of a document convey just one request. -/
theorem conveys_iff (decoded : Document.decode document = .ok query) :
    Conveys requestId flags collection skip limit document request ↔
      request = requestOf requestId flags collection skip limit ⟨query, document.length⟩ := by
  constructor
  · rintro ⟨operation_eq, query_eq, isCommand_iff, database_iff, info_eq⟩
    have same : request.query = query := Except.ok.inj (query_eq.symm.trans decoded)
    have command : request.info.isCommand = isCommandName collection := by
      rw [Bool.eq_iff_iff, isCommand_iff, isCommandName_iff]
    have database : request.info.database = Request.databaseOf? collection := by
      apply Option.ext
      intro name
      rw [database_iff, Request.databaseOf?_eq_some_iff]
    rw [command, database] at info_eq
    cases request
    cases operation_eq
    cases same
    cases info_eq
    rfl
  · rintro rfl
    exact
      { operation_eq := rfl
        query_eq := decoded
        isCommand_iff := isCommandName_iff
        database_iff := fun _ => Request.databaseOf?_eq_some_iff
        info_eq := rfl }

theorem spelled_front (free : Text.holdsZero collection = false)
    (decoded : Document.decode document = .ok query) (rest : Bytes) :
    Spelled flags collection skip limit ⟨query, document.length⟩
      (front flags collection skip limit document ++ rest) where
  free := free
  bytes_eq := ⟨document, rest, decoded, rfl, by simp [front]⟩

/-- A body that begins with a front is read as what the front conveys. -/
theorem decode_front (requestId : Int32) (free : Text.holdsZero collection = false)
    (decoded : Document.decode document = .ok query) (rest : Bytes) :
    decode requestId (front flags collection skip limit document ++ rest) =
      .ok (requestOf requestId flags collection skip limit ⟨query, document.length⟩) :=
  decode_of_spelled requestId (spelled_front free decoded rest)

theorem decode_eq_ok_iff_conveys :
    decode requestId body = .ok request ↔ ∃ flags collection skip limit document rest,
      Text.holdsZero collection = false ∧
        body = front flags collection skip limit document ++ rest ∧
        Conveys requestId flags collection skip limit document request := by
  constructor
  · intro read
    rcases decode_eq_ok_iff.1 read with ⟨flags, collection, skip, limit, block, spelled, rfl⟩
    rcases spelled with ⟨free, document, rest, decoded, size_eq, rfl⟩
    refine ⟨flags, collection, skip, limit, document, rest, free, by simp [front], ?_⟩
    rw [conveys_iff decoded, size_eq]
  · rintro ⟨flags, collection, skip, limit, document, rest, free, rfl, conveys⟩
    rw [decode_front requestId free conveys.query_eq]
    exact congrArg Except.ok ((conveys_iff conveys.query_eq).1 conveys).symm

end Reading

/-! ### Writing -/

theorem length_front (flags : UInt32) (collection : String) (skip limit : Int32)
    (document : Bytes) :
    (front flags collection skip limit document).length =
      4 + ((Text.encode collection).length + 1) + 4 + 4 + document.length := by
  simp [front]
  omega

/--
A body is read just when it begins with the front of a query, and what follows the front makes no
difference. A query that survives can be sent unless the message is too long; its body is read as
the same query, whatever is put behind it.
-/
theorem decode_ignores_surplus (requestId : Int32) :
    (∀ body request, decode requestId body = .ok request ↔
      ∃ flags collection skip limit document rest, Text.holdsZero collection = false ∧
        body = front flags collection skip limit document ++ rest ∧
        Conveys requestId flags collection skip limit document request) ∧
    (∀ flags collection skip limit document query, Text.holdsZero collection = false →
      Document.decode document = .ok query → ∀ rest,
        decode requestId (front flags collection skip limit document ++ rest) =
          decode requestId (front flags collection skip limit document)) ∧
    ∀ sentId collection skip limit query, Text.holdsZero collection = false → query.Survives →
      ((∃ frame, encode sentId collection skip limit query = .ok frame) ↔
        Header.size + (4 + ((Text.encode collection).length + 1) + 4 + 4 + query.bytes.length) <
          Bytes.wordLimit) ∧
      ∀ frame, encode sentId collection skip limit query = .ok frame → ∀ rest,
        ∃ request, decode requestId (frame.body ++ rest) = .ok request ∧ request.query = query ∧
          Conveys requestId 0 collection skip limit query.bytes request := by
  refine ⟨fun body request => decode_eq_ok_iff_conveys, ?_, ?_⟩
  · intro flags collection skip limit document query free decoded rest
    have alone : decode requestId (front flags collection skip limit document ++ []) = _ :=
      decode_front requestId free decoded []
    rw [List.append_nil] at alone
    rw [alone, decode_front requestId free decoded]
  · intro sentId collection skip limit query free survives
    simp only [encode_eq_ok_iff, survives.encode_eq, Except.ok.injEq, exists_eq_left',
      Frame.exists_make_iff, length_front, true_and]
    intro frame made rest
    rw [(Frame.make_eq_ok_iff.1 made).2.2.2.2]
    refine ⟨_, decode_front requestId free survives.decode_eq rest, rfl, ?_⟩
    exact (conveys_iff survives.decode_eq).2 rfl

/-- A name with two dots and a letter of two bytes. -/
def dotted : String := "ü.a.$cmd"

def ping : Document := [("ping", .int32 1)]

/-- Bytes that are no document. -/
def surplus : Bytes := [255, 0, 7]

theorem decode_ignores_surplus_dotted :
    Text.holdsZero dotted = false ∧ ping.Survives ∧
      ∃ frame request, encode 1 dotted 3 (-1) ping = .ok frame ∧
        decode 7 (frame.body ++ surplus) = .ok request ∧ request.query = ping ∧
        request.info.database = some "ü" ∧ request.info.isCommand = true ∧
        decode 7 (front 0 dotted 3 (-1) ping.bytes) = .ok request := by
  have free : Text.holdsZero dotted = false := by decide
  have survives : ping.Survives := by decide
  rcases decode_ignores_surplus 7 with ⟨_, independent, comesBack⟩
  rcases comesBack 1 dotted 3 (-1) ping free survives with ⟨fits, reads⟩
  rcases fits.2 (by decide) with ⟨frame, written⟩
  rcases reads frame written surplus with ⟨request, read, query_eq, conveys⟩
  refine ⟨free, survives, frame, request, written, read, query_eq, ?_, ?_, ?_⟩
  · rw [conveys.database_iff]
    exact ⟨by decide, by decide, "a.$cmd", by decide⟩
  · rw [conveys.isCommand_iff]
    exact ⟨"ü.a", by decide⟩
  · have alone := independent 0 dotted 3 (-1) _ ping free survives.decode_eq surplus
    rcases encode_eq_ok_iff.1 written with ⟨bytes, bytes_eq, made⟩
    cases Document.eq_bytes_of_encode bytes_eq
    rwa [← alone, ← (Frame.make_eq_ok_iff.1 made).2.2.2.2]

end Query

end DocumentProtocol
