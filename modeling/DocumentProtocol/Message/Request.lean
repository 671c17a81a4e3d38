import DocumentProtocol.Document.Sequence

/-!
# Opcodes and requests

The opcode in the header of a message says how its body is laid out. Eight are known by name; only
three of them are requests that a server reads, and of these only two are answered.

Whatever its layout, a request comes to one form: the query document, and beside it what the body
said about the request. Fields that the layout does not have keep their defaults. The first name of
the query is the name of the command.
-/

namespace DocumentProtocol

/-- The known layouts of a body. -/
inductive Opcode where
  | reply
  | update
  | insert
  | query
  | getMore
  | delete
  | killCursors
  | msg
  deriving DecidableEq, Repr

namespace Opcode

def code : Opcode → Int32
  | .reply => 1
  | .update => 2001
  | .insert => 2002
  | .query => 2004
  | .getMore => 2005
  | .delete => 2006
  | .killCursors => 2007
  | .msg => 2013

def name : Opcode → String
  | .reply => "OP_REPLY"
  | .update => "OP_UPDATE"
  | .insert => "OP_INSERT"
  | .query => "OP_QUERY"
  | .getMore => "OP_GET_MORE"
  | .delete => "OP_DELETE"
  | .killCursors => "OP_KILL_CURSORS"
  | .msg => "OP_MSG"

def all : List Opcode :=
  [.reply, .update, .insert, .query, .getMore, .delete, .killCursors, .msg]

def ofCode (code : Int32) : Except ProtocolError Opcode :=
  match all.find? fun opcode => opcode.code = code with
  | some opcode => .ok opcode
  | none => .error (.unsupportedOpcode code)

end Opcode

/-- The layouts that a server reads. -/
inductive Operation where
  /-- The legacy query, answered by a legacy reply. -/
  | query
  /-- The sectioned message, answered by another one. -/
  | msg
  /-- The legacy insert, never answered. -/
  | insert
  deriving DecidableEq, Repr

namespace Operation

def opcode : Operation → Opcode
  | .query => .query
  | .msg => .msg
  | .insert => .insert

def ofOpcode? : Opcode → Option Operation
  | .query => some .query
  | .msg => some .msg
  | .insert => some .insert
  | _ => none

/-- The operation of the opcode in a header. -/
def ofCode (code : Int32) : Except ProtocolError Operation := do
  match ofOpcode? (← Opcode.ofCode code) with
  | some operation => pure operation
  | none => throw (.unsupportedOpcode code)

def isAnswered : Operation → Bool
  | .query => true
  | .msg => true
  | .insert => false

end Operation

/-- What a body says about its request, besides the query. -/
structure RequestInfo where
  requestId : Int32 := 0
  flags : UInt32 := 0
  collection : Option String := none
  skip : Option Int32 := none
  limit : Option Int32 := none
  /-- Whether a legacy query is for the collection of commands. -/
  isCommand : Bool := false
  database : Option String := none
  sequenceIds : List String := []
  checksum : Option UInt32 := none
  /-- Whether the client asks for no reply. -/
  moreToCome : Bool := false
  extraDocuments : List Document := []
  /-- The size of the largest document in the body. -/
  largestDocument : Nat := 0

structure Request where
  operation : Operation
  query : Document
  info : RequestInfo

namespace Request

def commandName (request : Request) : String := request.query.commandName

/-- Whether the client waits for a reply. -/
def expectsReply (request : Request) : Bool :=
  request.operation.isAnswered && !request.info.moreToCome

/-- The database that the full name of a collection begins with: what is before its first dot. -/
def databaseOf? (collection : String) : Option String :=
  let characters := collection.toList
  let database := characters.takeWhile (· ≠ '.')
  if database.length < characters.length ∧ database ≠ [] then some (String.ofList database)
  else none

end Request

end DocumentProtocol
