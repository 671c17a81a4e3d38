import DocumentProtocol.Message.Reply
import DocumentProtocol.Session.Link

/-!
# Clients

A client numbers its requests, writes them as frames to a link and reads the replies. `Client.Call`
is what it can ask for: a command that is answered, by a sectioned message with or without document
sequences or by a legacy query, and a command or an insert that is not.

The number of a request is used up as soon as the call begins, also if nothing is sent in the end. A
reply must carry the number of the request and have the opcode that goes with the call; the client
takes in one frame for each reply it waits for, and none otherwise.

A frame that the client has taken on and cannot write stays in its backlog, behind the frames that
are there already, and is written with the next. Once the backlog has reached `Client.backlogBound`
it has to be written before the client looks at another frame.

A send or a call has no result while it would wait; it is then given up, and what has been written
or taken in by then stays so.
-/

namespace DocumentProtocol

/-- What a client knows of its side of a link. -/
structure Client where
  limit : Nat := Frame.defaultLimit
  nextRequestId : Int32 := 1
  receiver : Frame.Receiver := {}
  /-- What the client has taken on to send and not written. -/
  backlog : Bytes := []
  deriving DecidableEq, Repr

namespace Client

/-- What a client can ask for. -/
inductive Call where
  | command (database : String) (document : Document) (sequences : List Message.DocumentSequence)
  | unacknowledged (database : String) (document : Document)
  | legacy (database : String) (document : Document)
  | insert (collection : String) (documents : List Document)

namespace Call

def addressed (database : String) (document : Document) : Document :=
  document.insert Message.databaseKey (.string database)

def frame (requestId : Int32) : Call → Except ProtocolError Frame
  | command database document sequences =>
      Message.encode requestId 0 (addressed database document) sequences
  | unacknowledged database document =>
      Message.encode requestId Message.moreToComeFlag (addressed database document) []
  | legacy database document =>
      Query.encode requestId (database ++ Query.commandCollection) 0 (-1) document
  | insert collection documents => Insert.encode requestId 0 collection documents

def isAnswered : Call → Bool
  | command _ _ _ => true
  | unacknowledged _ _ => false
  | legacy _ _ => true
  | insert _ _ => false

end Call

variable {State : Type}

def afterCall (client : Client) : Client :=
  { client with nextRequestId := client.nextRequestId + 1 }

/-- The size from which on a backlog is written before another frame is taken on. -/
def backlogBound : Nat := 8192

/-- Takes on a frame to send, unless it is above the limit. -/
def enqueue (client : Client) (frame : Frame) : Except ProtocolError Client := do
  return { client with backlog := ← Frame.Stream.append client.limit client.backlog frame }

/-- Writes the backlog; nothing while the link does not take all of it. -/
def flush (link : Link State) (client : Client) (state : State) :
    Option (Except ProtocolError Unit) × Client × State :=
  let (rest, state) := link.write client.backlog state
  let result :=
    if rest = [] then some (.ok ()) else if link.isCut state then some (.error .io) else none
  (result, { client with backlog := rest }, state)

def makeReady (link : Link State) (client : Client) (state : State) :
    Option (Except ProtocolError Unit) × Client × State :=
  if backlogBound ≤ client.backlog.length then client.flush link state
  else (some (.ok ()), client, state)

def send (link : Link State) (client : Client) (frame : Frame) (state : State) :
    Option (Except ProtocolError Unit) × Client × State :=
  match client.makeReady link state with
  | (some (.ok ()), client, state) =>
      match client.enqueue frame with
      | .error error => (some (.error error), client, state)
      | .ok client => client.flush link state
  | stopped => stopped

def received : Frame.Receiver.Answer → Except ProtocolError Frame
  | .frame frame => .ok frame
  | .failed error => .error error
  | .ended => .error .connectionClosed

def receive (link : Link State) (client : Client) (state : State) :
    Option (Except ProtocolError Frame) × Client × State :=
  let (answer, receiver, state) := link.read client.limit client.receiver state
  (answer.map received, { client with receiver := receiver }, state)

def messageDocument (frame : Frame) : Except ProtocolError Document := do
  if frame.header.opcode ≠ Opcode.msg.code then throw (.unsupportedOpcode frame.header.opcode)
  return (← Message.decode frame.header.requestId frame.body).query

def legacyDocument (frame : Frame) : Except ProtocolError Document := do
  if frame.header.opcode ≠ Opcode.reply.code then throw (.unsupportedOpcode frame.header.opcode)
  match (← LegacyReply.decode frame.body).documents with
  | [] => throw (.malformed .missingDocument)
  | document :: _ => return document

/-- The document that a reply to a call carries; nothing for a call that is not answered. -/
def Call.result (requestId : Int32) (frame : Frame) (call : Call) :
    Except ProtocolError (Option Document) := do
  if frame.header.responseTo ≠ requestId then
    throw (.malformed (.otherRequest frame.header.responseTo requestId))
  match call with
  | command _ _ _ => return some (← messageDocument frame)
  | legacy _ _ => return some (← legacyDocument frame)
  | unacknowledged _ _ => return none
  | insert _ _ => return none

def await (link : Link State) (client : Client) (requestId : Int32) (call : Call) (state : State) :
    Option (Except ProtocolError (Option Document)) × Client × State :=
  if call.isAnswered then
    let (reply, client, state) := client.receive link state
    (reply.map fun frame => frame.bind fun frame => call.result requestId frame, client, state)
  else (some (.ok none), client, state)

/-- Makes a call: the document that the reply carries, if the call waits for a reply. -/
def call (link : Link State) (client : Client) (call : Call) (state : State) :
    Option (Except ProtocolError (Option Document)) × Client × State :=
  let requestId := client.nextRequestId
  match call.frame requestId with
  | .error error => (some (.error error), client.afterCall, state)
  | .ok frame =>
      match client.afterCall.send link frame state with
      | (some (.ok ()), client, state) => client.await link requestId call state
      | (some (.error error), client, state) => (some (.error error), client, state)
      | (none, client, state) => (none, client, state)

end Client

end DocumentProtocol
