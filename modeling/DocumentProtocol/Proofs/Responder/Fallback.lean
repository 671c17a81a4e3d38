import DocumentProtocol.Proofs.Message.Delivery
import DocumentProtocol.Responder.Builtin

/-!
# What is left to a backend

A registry is usually the built-in responders followed by one that accepts every query and hands it
to a backend. Responders see the query document and nothing else. For a command this is the command;
for a legacy insert it is the first document to be stored, and for a legacy query the condition on
the documents to be found, which are data of the client.

So it depends on these data who answers. `Document.IsBuiltIn` says which documents the built-in
responders take for a command of theirs, and the main statement is that the backend gets all other
requests and none of these.
-/

namespace DocumentProtocol

/-! ### The built-in commands -/

namespace Document

/-- Whether a name of the handshake has a truthy value in a document, wherever it stands. -/
def IsHandshake (query : Document) : Prop :=
  ∃ name ∈ handshakeCommands, ∃ value, query.find? name = some value ∧ value.isTruthy = true

/-- The names of commands by which the other built-in responders know their queries. -/
def builtInNames : List String := ["ping", "buildInfo", "buildinfo", "endSessions"]

/-- Whether a built-in responder accepts a document. -/
def IsBuiltIn (query : Document) : Prop :=
  query.IsHandshake ∨ query.commandName ∈ builtInNames

/-- Which built-in responder answers a query, and with which document. -/
inductive AnsweredBy (info : ServerInfo) (now : Int64) (query : Document) :
    String → Document → Prop where
  | handshake (asked : query.IsHandshake) :
      AnsweredBy info now query "handshake" (info.handshakeDocument now)
  | ping (other : ¬query.IsHandshake) (named : query.commandName = "ping") :
      AnsweredBy info now query "ping" [("ok", ServerInfo.success)]
  | buildInfo (other : ¬query.IsHandshake)
      (named : query.commandName = "buildInfo" ∨ query.commandName = "buildinfo") :
      AnsweredBy info now query "buildInfo" info.buildInfoDocument
  | endSessions (other : ¬query.IsHandshake) (named : query.commandName = "endSessions") :
      AnsweredBy info now query "endSessions" [("ok", ServerInfo.success)]

theorem IsBuiltIn.exists_answeredBy {query : Document} (builtIn : query.IsBuiltIn)
    (info : ServerInfo) (now : Int64) :
    ∃ name document, AnsweredBy info now query name document := by
  by_cases asked : query.IsHandshake
  · exact ⟨_, _, .handshake asked⟩
  · rcases builtIn with handshake | named
    · exact absurd handshake asked
    · simp only [builtInNames, List.mem_cons, List.not_mem_nil, or_false] at named
      rcases named with ping | buildInfo | buildinfo | endSessions
      · exact ⟨_, _, .ping asked ping⟩
      · exact ⟨_, _, .buildInfo asked (.inl buildInfo)⟩
      · exact ⟨_, _, .buildInfo asked (.inr buildinfo)⟩
      · exact ⟨_, _, .endSessions asked endSessions⟩

end Document

namespace Predicate

variable {query : Document} {name : String} {names : List String}

theorem isHandshake_iff : isHandshake query = true ↔ query.IsHandshake := by
  simp only [isHandshake, List.any_eq_true, isTrue, Option.any_eq_true, Document.IsHandshake]

theorem isHandshake_eq_false (other : ¬query.IsHandshake) : isHandshake query = false :=
  Bool.eq_false_iff.2 (mt isHandshake_iff.1 other)

theorem firstKeyIs_eq_true (named : query.commandName = name) : firstKeyIs name query = true := by
  simp [firstKeyIs, named]

theorem firstKeyIs_eq_false (other : query.commandName ≠ name) : firstKeyIs name query = false := by
  simp [firstKeyIs, other]

theorem firstKeyIn_eq_true (named : query.commandName ∈ names) : firstKeyIn names query = true := by
  simp [firstKeyIn, named]

theorem firstKeyIn_eq_false (other : query.commandName ∉ names) :
    firstKeyIn names query = false := by
  simp [firstKeyIn, other]

end Predicate

instance (query : Document) : Decidable query.IsHandshake :=
  decidable_of_iff _ Predicate.isHandshake_iff

instance (query : Document) : Decidable query.IsBuiltIn :=
  inferInstanceAs (Decidable (_ ∨ _))

/-! ### The registry of a backend -/

namespace Registry

variable {Backend : Type}

/-- The built-in responders, followed by one that accepts every query. -/
def withFallback (info : ServerInfo) (clock : Backend → Int64) (name : String)
    (handle : Handler Backend) : Registry Backend :=
  (registerDefaults {} info clock).registerNamed name Predicate.any handle

section Dispatch

variable {info : ServerInfo} {clock : Backend → Int64} {name : String}
  {handle : Handler Backend} {query : Document} {backend : Backend}

open Predicate

/-- The responder that a query is answered by is found, and gives its answer. -/
theorem findMatch_of_answeredBy {builtIn : String} {document : Document}
    (answered : query.AnsweredBy info (clock backend) builtIn document) :
    ∃ accepts answer, (withFallback info clock name handle).findMatch query =
      .ok ⟨builtIn, accepts, answer⟩ ∧
        ∀ details, answer query details backend = (.ok document, backend) := by
  simp only [findMatch, withFallback, registerDefaults, registerNamed, List.nil_append,
    List.cons_append, List.find?_cons]
  cases answered with
  | handshake asked =>
      rw [isHandshake_iff.2 asked]
      exact ⟨_, _, rfl, fun _ => rfl⟩
  | ping other named =>
      rw [isHandshake_eq_false other, firstKeyIs_eq_true named]
      exact ⟨_, _, rfl, fun _ => rfl⟩
  | buildInfo other named =>
      have notPing : query.commandName ≠ "ping" := by
        rcases named with named | named <;> simp [named]
      rw [isHandshake_eq_false other, firstKeyIs_eq_false notPing,
        firstKeyIn_eq_true (by simpa using named)]
      exact ⟨_, _, rfl, fun _ => rfl⟩
  | endSessions other named =>
      rw [isHandshake_eq_false other, firstKeyIs_eq_false (by simp [named]),
        firstKeyIn_eq_false (by simp [named]), firstKeyIs_eq_true named]
      exact ⟨_, _, rfl, fun _ => rfl⟩

/-- A built-in responder answers without the backend. -/
theorem dispatch_of_answeredBy {builtIn : String} {document : Document}
    (answered : query.AnsweredBy info (clock backend) builtIn document) (details : RequestInfo) :
    (withFallback info clock name handle).dispatch query details backend =
      (.ok document, backend) := by
  rcases findMatch_of_answeredBy answered with ⟨accepts, answer, found, answer_eq⟩
  rw [dispatch, found]
  simp only [answer_eq]
  rfl

theorem findMatch_of_not_isBuiltIn (other : ¬query.IsBuiltIn) :
    (withFallback info clock name handle).findMatch query =
      .ok ⟨name, Predicate.any, handle⟩ := by
  simp only [Document.IsBuiltIn, not_or, Document.builtInNames, List.mem_cons, List.not_mem_nil,
    or_false] at other
  rcases other with ⟨notHandshake, notPing, notBuildInfo, notBuildinfo, notEndSessions⟩
  simp only [findMatch, withFallback, registerDefaults, registerNamed, List.nil_append,
    List.cons_append, List.find?_cons]
  rw [isHandshake_eq_false notHandshake, firstKeyIs_eq_false notPing,
    firstKeyIn_eq_false (by simp [notBuildInfo, notBuildinfo]),
    firstKeyIs_eq_false notEndSessions]
  rfl

theorem dispatch_of_not_isBuiltIn (other : ¬query.IsBuiltIn) (details : RequestInfo)
    (backend : Backend) :
    (withFallback info clock name handle).dispatch query details backend =
      ((handle query details backend).1.mapError .handler,
        (handle query details backend).2) := by
  rw [dispatch, findMatch_of_not_isBuiltIn other]

end Dispatch

/--
A request that is no command, a legacy insert or a legacy query for documents, goes by the first
document in its body. The backend gets the request unless a built-in responder takes the document
for a command; then that one answers and leaves the backend as it is.
-/
theorem dispatch_by_first_document (info : ServerInfo) (clock : Backend → Int64) (name : String)
    (handle : Handler Backend) (operation : Operation) (requestId : Int32) (body : Bytes)
    (request : Request) (decoded : operation.decode requestId body = .ok request)
    (data : operation = .insert ∨ operation = .query ∧ request.info.isCommand = false)
    (backend : Backend) :
    ∃ first others, operation.Delivers body (first :: others) ∧
      request.query = first.document ∧ request.info.extraDocuments = Block.documents others ∧
      (¬first.document.IsBuiltIn →
        (withFallback info clock name handle).dispatch request.query request.info backend =
          ((handle request.query request.info backend).1.mapError .handler,
            (handle request.query request.info backend).2)) ∧
      (first.document.IsBuiltIn → ∃ builtIn document,
        first.document.AnsweredBy info (clock backend) builtIn document ∧
          (withFallback info clock name handle).dispatch request.query request.info backend =
            (.ok document, backend)) := by
  have legacy : operation ≠ .msg := by
    rcases data with rfl | ⟨rfl, _⟩ <;> simp
  rcases Operation.exists_first_of_decode decoded legacy with
    ⟨first, others, delivers, query_eq, extra_eq⟩
  refine ⟨first, others, delivers, query_eq, extra_eq, ?_, ?_⟩
  · intro other
    rw [query_eq]
    exact dispatch_of_not_isBuiltIn other request.info backend
  · intro taken
    rcases taken.exists_answeredBy info (clock backend) with ⟨builtIn, document, answered⟩
    refine ⟨builtIn, document, answered, ?_⟩
    rw [query_eq]
    exact dispatch_of_answeredBy answered request.info

/-- A backend that stores the documents it is given. -/
def store : Handler (List Document) := fun query details stored =>
  (.ok [("ok", ServerInfo.success)], stored ++ query :: details.extraDocuments)

/-- The body of a legacy insert of one document. -/
def insertBody (document : Document) : Bytes :=
  Bytes.ofUInt32 0 ++ Text.terminated "t.c" ++ document.bytes

def insertRequest (document : Document) : Request :=
  Insert.requestOf 1 0 "t.c" document.block []

theorem decode_insertBody {document : Document} (survives : document.Survives) :
    Operation.insert.decode 1 (insertBody document) = .ok (insertRequest document) := by
  apply Insert.decode_of_spelled
  refine ⟨by decide, document.bytes, ?_, by simp [insertBody]⟩
  have row : Block.Row (Document.rowBytes [document]) ([document].map Document.block) :=
    Document.row_of_survives (by simpa using survives)
  simpa [Document.rowBytes] using row

def unremarkable : Document := [("a", .null), ("ping", .boolean true)]

theorem dispatch_by_first_document_stored :
    Operation.insert.decode 1 (insertBody unremarkable) = .ok (insertRequest unremarkable) ∧
      (withFallback {} (fun _ => 0) "insert" store).dispatch (insertRequest unremarkable).query
        (insertRequest unremarkable).info [] =
          (.ok [("ok", ServerInfo.success)], [unremarkable]) := by
  have survives : unremarkable.Survives := by decide
  have decoded := decode_insertBody survives
  refine ⟨decoded, ?_⟩
  rcases dispatch_by_first_document {} (fun _ => 0) "insert" store .insert 1 _ _ decoded
    (.inl rfl) [] with ⟨first, others, _, query_eq, _, stored, _⟩
  apply stored
  rw [← query_eq]
  decide

def greeting : Document := [("hello", .boolean true)]

/-- A document that says hello is not stored but answered with a handshake. -/
theorem greeting_is_not_stored :
    ¬∀ (info : ServerInfo) (clock : List Document → Int64) (name : String)
      (handle : Handler (List Document)) (operation : Operation) (requestId : Int32)
      (body : Bytes) (request : Request),
      operation.decode requestId body = .ok request →
        (operation = .insert ∨ operation = .query ∧ request.info.isCommand = false) →
          ∀ stored,
            (withFallback info clock name handle).dispatch request.query request.info stored =
              ((handle request.query request.info stored).1.mapError .handler,
                (handle request.query request.info stored).2) := by
  intro reaches
  have survives : greeting.Survives := by decide
  have decoded := decode_insertBody survives
  have stored := reaches {} (fun _ => 0) "insert" store .insert 1 _ _ decoded (.inl rfl) []
  have asked : greeting.IsHandshake := by decide
  have answered : (withFallback {} (fun _ => 0) "insert" store).dispatch greeting
      (insertRequest greeting).info [] = (.ok (ServerInfo.handshakeDocument {} 0), []) :=
    dispatch_of_answeredBy (.handshake asked) (insertRequest greeting).info
  have backend_eq := congrArg Prod.snd (answered.symm.trans stored)
  cases backend_eq

end Registry

end DocumentProtocol
