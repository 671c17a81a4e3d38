/-!
# Configuration

The settings of a server in three groups: how it listens, how large messages may be, and how it
logs. Durations are whole milliseconds. Every setting has a default, and the defaults are valid.
-/

namespace DocumentProtocol

inductive LogLevel where
  | error
  | warn
  | info
  | debug
  | trace
  deriving DecidableEq, Repr

structure ServerConfig where
  address : String := "127.0.0.1:47336"
  maxConnections : Nat := 1000
  /-- How long a connection may wait for a header; zero for ever. -/
  idleTimeout : Nat := 0
  writeTimeout : Nat := 30000
  /-- How long connections may take to finish when the server stops. -/
  shutdownTimeout : Nat := 10000
  deriving DecidableEq, Repr

structure TransportConfig where
  maxMessageSize : Nat := 48000000
  maxDocumentSize : Nat := 16777216
  maxWriteBatchSize : Nat := 100000
  deriving DecidableEq, Repr

structure LoggingConfig where
  appName : String := "docwire"
  logLevel : LogLevel := .info
  jsonFormat : Bool := false
  deriving DecidableEq, Repr

structure Config where
  server : ServerConfig := {}
  transport : TransportConfig := {}
  logging : LoggingConfig := {}
  deriving DecidableEq, Repr

end DocumentProtocol
