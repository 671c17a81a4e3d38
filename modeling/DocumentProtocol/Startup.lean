import DocumentProtocol.Config.Environment
import DocumentProtocol.Config.Settings
import DocumentProtocol.Config.Validation
import DocumentProtocol.Logging

/-!
# Starting a server

A server starts with settings from a text, or the defaults, under the variables of the environment.
It refuses to start with settings that cannot be read or that have a problem, and then says why in
one error; otherwise the settings it starts with are valid. A server that cannot listen on its
address says so in its log and ends.
-/

namespace DocumentProtocol

/-- Where the settings of a server come from, the environment apart. -/
inductive SettingsSource where
  | defaults
  | text (content : String)
  /-- A text is named but cannot be opened. -/
  | unopened (reason : String)
  /-- A text is opened but cannot be read. -/
  | unread (reason : String)
  deriving DecidableEq, Repr

namespace SettingsSource

def config : SettingsSource → Except ProtocolError Config
  | defaults => .ok {}
  | text content => Config.ofText content
  | unopened reason => .error (.configuration ("Failed to open config file: " ++ reason))
  | unread reason => .error (.configuration ("Failed to read config file: " ++ reason))

/-- Where settings are read from that were saved in a new place: what has no text is not saved. -/
def ofSaved (config : Config) : SettingsSource :=
  match config.toText with
  | .ok content => .text content
  | .error _ => .unopened "No such file or directory (os error 2)"

end SettingsSource

namespace Startup

/-- The settings with which a server starts. -/
def load (source : SettingsSource) (environment : Environment) : Except ProtocolError Config := do
  let config ← source.config
  (config.applyEnvironment environment).validated

def failureLog (config : Config) : List LogRecord :=
  config.logging.shown [config.logging.openingRecord, LoggingConfig.failureRecord]

end Startup

end DocumentProtocol
