import DocumentProtocol.Config.Basic
import DocumentProtocol.Decimal.Numeral
import DocumentProtocol.Responder.Registry

/-!
# Built-in responders

Every client sends a few commands before it asks for anything of its own: the handshake in which the
server states its limits, pings, the question for the server's build, and the end of its sessions.
`Registry.registerDefaults` adds responders for these; a backend registers its own after them.

A query is a handshake when one of three names has a truthy value anywhere in it; the other built-in
commands are recognised by their first name. The answer to a handshake states the time at which it
is given. The clock is part of what a backend holds, so that time may pass between two handshakes.
-/

namespace DocumentProtocol

structure ServerInfo where
  version : String := "3.6.0"
  minWireVersion : Int32 := 0
  maxWireVersion : Int32 := 6
  maxDocumentSize : Int32 := 16777216
  maxMessageSize : Int32 := 48000000
  maxWriteBatchSize : Int32 := 100000
  deriving DecidableEq, Repr

namespace ServerInfo

/-- The largest signed word that is at most a number. -/
def clamp (number : Nat) : Int32 := Int32.ofNat (min number (Bytes.wordLimit - 1))

def ofTransport (transport : TransportConfig) : ServerInfo where
  maxDocumentSize := clamp transport.maxDocumentSize
  maxMessageSize := clamp transport.maxMessageSize
  maxWriteBatchSize := clamp transport.maxWriteBatchSize

def success : Value := .double 0x3FF0000000000000

/-- The reply to a handshake at some time. -/
def handshakeDocument (info : ServerInfo) (now : Int64) : Document :=
  [("ismaster", .boolean true),
   ("isWritablePrimary", .boolean true),
   ("helloOk", .boolean true),
   ("maxBsonObjectSize", .int32 info.maxDocumentSize),
   ("maxMessageSizeBytes", .int32 info.maxMessageSize),
   ("maxWriteBatchSize", .int32 info.maxWriteBatchSize),
   ("localTime", .dateTime now),
   ("minWireVersion", .int32 info.minWireVersion),
   ("maxWireVersion", .int32 info.maxWireVersion),
   ("readOnly", .boolean false),
   ("ok", success)]

/-- The parts of a version between its points; a part that is no number counts as zero. -/
def versionParts (version : String) : List Int32 :=
  (version.splitOn ".").map fun part => (Numeral.int32? part).getD 0

def buildInfoDocument (info : ServerInfo) : Document :=
  [("version", .string info.version),
   ("versionArray", .array ((versionParts info.version).map .int32)),
   ("maxBsonObjectSize", .int32 info.maxDocumentSize),
   ("ok", success)]

end ServerInfo

/-- The names of the handshake, in the spellings that clients use. -/
def handshakeCommands : List String := ["isMaster", "ismaster", "hello"]

def Predicate.isHandshake : Predicate := fun query =>
  handshakeCommands.any fun name => Predicate.isTrue name query

namespace Registry

variable {Backend : Type}

def always (answer : Document) : Handler Backend := fun _ _ backend => (.ok answer, backend)

/-- The answer to a handshake, at the time that a clock shows then. -/
def greet (info : ServerInfo) (clock : Backend → Int64) : Handler Backend := fun _ _ backend =>
  (.ok (info.handshakeDocument (clock backend)), backend)

/-- The registry with the built-in responders at its end. -/
def registerDefaults (registry : Registry Backend) (info : ServerInfo)
    (clock : Backend → Int64) : Registry Backend :=
  registry
    |>.registerNamed "handshake" Predicate.isHandshake (greet info clock)
    |>.registerNamed "ping" (Predicate.firstKeyIs "ping") (always [("ok", ServerInfo.success)])
    |>.registerNamed "buildInfo" (Predicate.firstKeyIn ["buildInfo", "buildinfo"])
      (always info.buildInfoDocument)
    |>.registerNamed "endSessions" (Predicate.firstKeyIs "endSessions")
      (always [("ok", ServerInfo.success)])

end Registry

end DocumentProtocol
