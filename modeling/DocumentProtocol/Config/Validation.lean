import DocumentProtocol.Config.Basic
import DocumentProtocol.Error
import DocumentProtocol.SocketAddress

/-!
# Validation

Each group of settings is checked against its bounds, and every bound that does not hold is a
problem of its own. A problem that makes a second check of the same setting pointless hides it: an
empty address is not also malformed.
-/

namespace DocumentProtocol

/-- What can be wrong with the settings. -/
inductive ConfigProblem where
  | emptyAddress
  | invalidAddress (address : String)
  | noConnections
  | tooManyConnections (number : Nat)
  | shortIdleTimeout
  | shortWriteTimeout
  | longShutdownTimeout
  | smallMessageSize
  | largeMessageSize (size : Nat)
  | noDocumentSize
  | documentLargerThanMessage
  | noWriteBatchSize
  | emptyAppName
  | longAppName (size : Nat)
  deriving DecidableEq, Repr

def ConfigProblem.message : ConfigProblem → String
  | .emptyAddress => "Server address cannot be empty"
  | .invalidAddress address =>
      "Invalid server address format: '" ++ address ++ "' (expected format: '0.0.0.0:27017')"
  | .noConnections => "Max connections must be greater than 0"
  | .tooManyConnections number =>
      s!"Max connections very high: {number} (ensure system resources can support this)"
  | .shortIdleTimeout => "Idle timeout too short (minimum: 100ms, or 0 to disable)"
  | .shortWriteTimeout => "Write timeout too short (minimum: 100ms)"
  | .longShutdownTimeout => "Shutdown timeout too long (maximum: 60s)"
  | .smallMessageSize => "Max message size too small (minimum: 1 KB)"
  | .largeMessageSize size =>
      s!"Max message size too large: {size} bytes (must fit the i32 length field)"
  | .noDocumentSize => "Max document size cannot be 0"
  | .documentLargerThanMessage => "Max document size cannot be larger than max message size"
  | .noWriteBatchSize => "Max write batch size cannot be 0"
  | .emptyAppName => "Application name cannot be empty"
  | .longAppName size => s!"Application name too long: {size} characters (maximum: 64)"

def ServerConfig.problems (config : ServerConfig) : List ConfigProblem :=
  (if config.address = "" then [.emptyAddress]
   else if (SocketAddress.parse? config.address).isNone then [.invalidAddress config.address]
   else []) ++
  (if config.maxConnections = 0 then [.noConnections]
   else if 100000 < config.maxConnections then [.tooManyConnections config.maxConnections]
   else []) ++
  (if config.idleTimeout ≠ 0 ∧ config.idleTimeout < 100 then [.shortIdleTimeout] else []) ++
  (if config.writeTimeout < 100 then [.shortWriteTimeout] else []) ++
  (if 60 < config.shutdownTimeout / 1000 then [.longShutdownTimeout] else [])

def TransportConfig.problems (config : TransportConfig) : List ConfigProblem :=
  (if config.maxMessageSize < 1024 then [.smallMessageSize]
   else if Bytes.wordLimit ≤ config.maxMessageSize then [.largeMessageSize config.maxMessageSize]
   else []) ++
  (if config.maxDocumentSize = 0 then [.noDocumentSize]
   else if config.maxMessageSize < config.maxDocumentSize then [.documentLargerThanMessage]
   else []) ++
  (if config.maxWriteBatchSize = 0 then [.noWriteBatchSize] else [])

/-- The problems with the log. The name of the application is measured in bytes. -/
def LoggingConfig.problems (config : LoggingConfig) : List ConfigProblem :=
  if config.appName = "" then [.emptyAppName]
  else if 64 < config.appName.utf8ByteSize then [.longAppName config.appName.utf8ByteSize]
  else []

namespace Config

def problems (config : Config) : List ConfigProblem :=
  config.server.problems ++ config.transport.problems ++ config.logging.problems

def problemReport (problems : List ConfigProblem) : String :=
  "Configuration validation failed:\n  - " ++
    "\n  - ".intercalate (problems.map ConfigProblem.message)

def validated (config : Config) : Except ProtocolError Config :=
  if config.problems = [] then .ok config
  else .error (.configuration (problemReport config.problems))

end Config

end DocumentProtocol
