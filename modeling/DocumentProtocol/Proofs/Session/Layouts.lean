import DocumentProtocol.Proofs.Responder.Truth
import DocumentProtocol.Proofs.Session.Capacity

/-!
# A command in either layout

A client can send a command as a sectioned message, which names the database in a field behind those
of the command, or as a legacy query, which names it in front of the collection of commands.

The main statement is that a server reads the same command for the same database from both. The
queries differ in the field of the database, which comes last, so every responder whose predicate
does not ask for this field takes both or neither, and the same one comes first.
-/

namespace DocumentProtocol

/-! ### Predicates and the field of the database -/

namespace Client.Call

variable {database : String} {document : Document}

theorem addressed_eq_append (absent : document.hasKey Message.databaseKey = false) :
    addressed database document = document ++ [(Message.databaseKey, .string database)] := by
  apply Document.insert_of_not_mem
  simp only [Document.hasKey, Document.find?, Option.isSome_eq_false_iff, Option.isNone_iff_eq_none,
    List.lookup_eq_none_iff, bne_iff_ne] at absent
  intro mem
  rcases List.mem_map.1 mem with ⟨field, inside, same⟩
  exact absent field inside same.symm

theorem find?_addressed {key : String} (other : key ≠ Message.databaseKey) :
    (addressed database document).find? key = document.find? key := by
  rw [addressed, Document.find?_insert, if_neg other]

theorem commandName_addressed (present : document ≠ []) :
    (addressed database document).commandName = document.commandName := by
  rw [addressed, Document.commandName, Document.commandName, Document.keys_insert]
  cases document with
  | nil => exact absurd rfl present
  | cons field rest => split <;> simp

end Client.Call

namespace Predicate

open Client.Call (addressed)

/-- Predicates that do not look at the field under which a message names its database. -/
inductive IgnoresDatabase : Predicate → Prop where
  | firstKeyIs (name : String) : IgnoresDatabase (Predicate.firstKeyIs name)
  | firstKeyIn (names : List String) : IgnoresDatabase (Predicate.firstKeyIn names)
  | isHandshake : IgnoresDatabase Predicate.isHandshake
  | any : IgnoresDatabase Predicate.any
  | hasKey {key : String} (other : key ≠ Message.databaseKey) :
      IgnoresDatabase (Predicate.hasKey key)
  | isTrue {key : String} (other : key ≠ Message.databaseKey) :
      IgnoresDatabase (Predicate.isTrue key)

variable {database : String} {document : Document}

theorem isTrue_addressed {key : String} (other : key ≠ Message.databaseKey) :
    isTrue key (addressed database document) = isTrue key document := by
  rw [isTrue, isTrue, Client.Call.find?_addressed other]

theorem IgnoresDatabase.addressed_eq {accepts : Predicate} (ignores : accepts.IgnoresDatabase)
    (present : document ≠ []) : accepts (addressed database document) = accepts document := by
  have name_eq : (addressed database document).commandName = document.commandName :=
    Client.Call.commandName_addressed present
  cases ignores with
  | firstKeyIs name => simp only [Predicate.firstKeyIs, name_eq]
  | firstKeyIn names => simp only [Predicate.firstKeyIn, name_eq]
  | isHandshake =>
      have names : ∀ name ∈ handshakeCommands, name ≠ Message.databaseKey := by decide
      rw [Predicate.isHandshake, Predicate.isHandshake, Bool.eq_iff_iff, List.any_eq_true,
        List.any_eq_true]
      apply exists_congr
      intro name
      apply and_congr_right
      intro mem
      rw [isTrue_addressed (names name mem)]
  | any => rfl
  | hasKey other =>
      rw [Predicate.hasKey, Predicate.hasKey, Document.hasKey, Document.hasKey,
        Client.Call.find?_addressed other]
  | isTrue other => exact isTrue_addressed other

end Predicate

/-! ### Both layouts -/

/-- Whether two requests are one command for a database, as a message and as a legacy query. -/
structure Request.AreAlike (database : String) (document : Document) (message legacy : Request) :
    Prop where
  message_database : message.info.database = some database
  legacy_database : legacy.info.database = some database
  commandName_eq : message.commandName = legacy.commandName
  /-- The message names the database behind the fields of the command. -/
  message_query : message.query = document ++ [(Message.databaseKey, .string database)]
  legacy_query : legacy.query = document
  isCommand : legacy.info.isCommand = true
  findMatch_eq : ∀ {Backend : Type} (registry : Registry Backend),
    (∀ responder ∈ registry.responders, responder.accepts.IgnoresDatabase) →
      registry.findMatch message.query = registry.findMatch legacy.query

namespace Client.Call

variable {database : String} {document : Document}

/-- The database of a legacy call is found again in front of the collection of commands. -/
theorem databaseOf?_append (named : database ≠ "") (undotted : '.' ∉ database.toList) :
    Request.databaseOf? (database ++ Query.commandCollection) = some database := by
  apply Request.databaseOf?_eq_some_iff.2
  refine ⟨named, undotted, "$cmd", ?_⟩
  rw [String.append_assoc]
  rfl

theorem areAlike_request (named : database ≠ "") (undotted : '.' ∉ database.toList)
    (present : document ≠ []) (absent : document.hasKey Message.databaseKey = false)
    (first second : Int32) :
    Request.AreAlike database document ((command database document []).request first)
      ((legacy database document).request second) where
  message_database := by
    have found : (addressed database document).find? Message.databaseKey =
        some (.string database) := by
      rw [addressed, Document.find?_insert, if_pos rfl]
    simp only [request, Message.posed, Message.joined, List.foldl_nil, found]
    rfl
  legacy_database := databaseOf?_append named undotted
  commandName_eq := commandName_addressed present
  message_query := addressed_eq_append absent
  legacy_query := rfl
  isCommand := rfl
  findMatch_eq := by
    intro Backend registry ignore
    apply Registry.findMatch_congr
    · intro responder mem
      exact (ignore responder mem).addressed_eq present
    · exact commandName_addressed present

theorem length_addressed (database : String)
    (absent : document.hasKey Message.databaseKey = false) :
    (addressed database document).bytes.length =
      document.bytes.length + (Text.encode database).length + 10 := by
  have key : (Text.encode Message.databaseKey).length = 3 := by decide
  rw [addressed_eq_append absent, Document.length_bytes, Document.length_bytes,
    Document.fieldsBytes_append]
  simp only [Value.fieldsBytes, List.append_nil, List.length_append, Value.length_fieldBytes,
    Value.payload, Document.textPayload, Bytes.length_ofInt32, Text.length_terminated, key]
  omega

/-- How long the legacy query of a command is, its database and the document apart. -/
def legacyOverhead : Nat := Header.size + 18

theorem exists_frame_legacy_iff (survives : document.Survives) (requestId : Int32) :
    (∃ frame, (legacy database document).frame requestId = .ok frame) ↔
      document.bytes.length + (Text.encode database).length + legacyOverhead <
        Bytes.wordLimit := by
  have collection : (Text.encode (database ++ Query.commandCollection)).length =
      (Text.encode database).length + 5 := by
    have suffix : (Text.encode Query.commandCollection).length = 5 := by decide
    rw [← suffix]
    simp [Text.encode]
  have length_eq : Header.size + (Query.front 0 (database ++ Query.commandCollection) 0 (-1)
      document.bytes).length =
        document.bytes.length + (Text.encode database).length + legacyOverhead := by
    simp only [Query.front, List.length_append, Bytes.length_ofUInt32, Bytes.length_ofInt32,
      Text.length_terminated, collection, legacyOverhead]
    omega
  have frame_eq : (legacy database document).frame requestId =
      Frame.make requestId 0 Opcode.query.code
        (Query.front 0 (database ++ Query.commandCollection) 0 (-1) document.bytes) := by
    simp only [frame, Query.encode, Query.body, survives.encode_eq]
    rfl
  rw [frame_eq, Frame.exists_make_iff, length_eq]

/-- A command that can be sent as a legacy query can be sent as a message. -/
theorem exists_frame_command (survives : document.Survives)
    (absent : document.hasKey Message.databaseKey = false)
    (small : document.bytes.length + (Text.encode database).length + legacyOverhead <
      Bytes.wordLimit) (requestId : Int32) :
    ∃ frame, (command database document []).frame requestId = .ok frame := by
  have length_eq := length_addressed database absent
  simp only [legacyOverhead] at small
  have addressed : (addressed database document).Survives := by
    apply survives.insert (by cbv)
    change (addressed database document).bytes.length < Bytes.wordLimit
    omega
  apply (Message.exists_encode_alone_iff requestId addressed).2
  simp only [Message.overhead]
  omega

/--
A command for a database is the same command for it in both layouts: the server reads both, finds
the database and the name of the command, and the responders that do not ask for the field of the
database answer both alike. Both can be sent unless they are too long for a frame.
-/
theorem layouts_agree (database : String) (document : Document) (named : database ≠ "")
    (free : Text.holdsZero database = false) (undotted : '.' ∉ database.toList)
    (present : document ≠ []) (absent : document.hasKey Message.databaseKey = false)
    (survives : document.Survives) (first second : Int32) :
    (document.bytes.length + (Text.encode database).length + legacyOverhead < Bytes.wordLimit →
      (∃ frame, (command database document []).frame first = .ok frame) ∧
        ∃ frame, (legacy database document).frame second = .ok frame) ∧
    ∀ message query, (command database document []).frame first = .ok message →
      (legacy database document).frame second = .ok query →
        ∃ request other, Request.ofMessage message.header message.body = .ok request ∧
          Request.ofMessage query.header query.body = .ok other ∧
          request.operation = .msg ∧ other.operation = .query ∧
          Request.AreAlike database document request other := by
  constructor
  · intro small
    exact ⟨exists_frame_command survives absent small first,
      (exists_frame_legacy_iff survives second).2 small⟩
  · intro message query sent legacySent
    refine ⟨_, _, Frame.ofMessage_eq_ok_iff.2 (carries_of_isSound ?_ sent),
      Frame.ofMessage_eq_ok_iff.2 (carries_of_isSound ?_ legacySent), rfl, rfl,
      areAlike_request named undotted present absent first second⟩
    · exact .command survives (by simp)
    · exact .legacy free survives

/-- A command with a field whose name begins like that of the database. -/
def greeting : Document := [("hello", .int32 1), ("$d", .null)]

theorem layouts_agree_greeting :
    ∃ message query request other, (command "café" greeting []).frame 7 = .ok message ∧
      (legacy "café" greeting).frame 8 = .ok query ∧
      Request.ofMessage message.header message.body = .ok request ∧
      Request.ofMessage query.header query.body = .ok other ∧
      Request.AreAlike "café" greeting request other := by
  have survives : greeting.Survives := by decide
  rcases layouts_agree "café" greeting (by decide) (by decide) (by decide) (by decide)
    (by decide) survives 7 8 with ⟨sendable, alike⟩
  rcases sendable (by decide) with ⟨⟨message, sent⟩, query, legacySent⟩
  rcases alike message query sent legacySent with
    ⟨request, other, read, legacyRead, _, _, areAlike⟩
  exact ⟨message, query, request, other, sent, legacySent, read, legacyRead, areAlike⟩

end Client.Call

end DocumentProtocol
