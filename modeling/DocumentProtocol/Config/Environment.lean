import DocumentProtocol.Config.Level

/-!
# Settings from the environment

Five variables override settings. The address is taken as it is; a number or a level that cannot be
read leaves the setting as it was.
-/

namespace DocumentProtocol

abbrev Environment := List (String × String)

namespace Config

/-- A setting overridden by the variable of some name, if `read` can read its value. -/
def overridden {α : Type} (environment : Environment) (name : String) (read : String → Option α)
    (current : α) : α :=
  ((environment.lookup name).bind read).getD current

def number? (text : String) : Option Nat := Numeral.naturalBelow? UInt64.size text

def addressVariable : String := "DOCWIRE_SERVER_ADDRESS"

def maxConnectionsVariable : String := "DOCWIRE_MAX_CONNECTIONS"

def idleTimeoutVariable : String := "DOCWIRE_IDLE_TIMEOUT_MS"

def maxMessageSizeVariable : String := "DOCWIRE_MAX_MESSAGE_SIZE"

def logLevelVariable : String := "DOCWIRE_LOG_LEVEL"

def variableNames : List String :=
  [addressVariable, maxConnectionsVariable, idleTimeoutVariable, maxMessageSizeVariable,
   logLevelVariable]

/-- The settings with the variables of an environment over them. -/
def applyEnvironment (config : Config) (environment : Environment) : Config where
  server := { config.server with
    address := overridden environment addressVariable some config.server.address
    maxConnections :=
      overridden environment maxConnectionsVariable number? config.server.maxConnections
    idleTimeout := overridden environment idleTimeoutVariable number? config.server.idleTimeout }
  transport := { config.transport with
    maxMessageSize :=
      overridden environment maxMessageSizeVariable number? config.transport.maxMessageSize }
  logging := { config.logging with
    logLevel := overridden environment logLevelVariable LogLevel.ofText? config.logging.logLevel }

end Config

end DocumentProtocol
