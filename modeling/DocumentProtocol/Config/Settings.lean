import DocumentProtocol.Config.Level
import DocumentProtocol.Error
import DocumentProtocol.Toml.Line

/-!
# Settings as text

A settings text has a table for each group of settings. `Setting` describes one setting of a group:
its name, how a value of the text is taken over into the group, and how the setting is written. The
list of a group's settings serves both directions, so that what `Config.toText` writes is what
`Config.ofText` reads.

In a table, settings are found by name and other names do not count. A group may also be written as
an array, which gives the settings in their order from the first on, or as a date-time, which gives
none. A setting that is not given keeps its default.

Numbers are natural numbers below `2 ^ 63`, because that is what an integer of a text holds.
-/

namespace DocumentProtocol

/-- Why a settings text cannot be taken over, or a setting not be written. -/
inductive SettingsFault where
  | notReadable
  | wrongKind (name : String)
  | unknownLevel (text : String)
  | numberTooLarge
  deriving DecidableEq, Repr

def SettingsFault.message : SettingsFault → String
  | .notReadable => "the text is not well formed"
  | .wrongKind name => "unexpected kind of value for " ++ name
  | .unknownLevel text => "Invalid log level: " ++ text
  | .numberTooLarge => "out-of-range value for u64 type"

/-- A setting of a group. -/
structure Setting (Group : Type) where
  name : String
  assign : Group → Toml.Node → Except SettingsFault Group
  write : Group → Except SettingsFault (List Char)

namespace Setting

variable {Group : Type}

def number (name : String) (get : Group → Nat) (set : Group → Nat → Group) : Setting Group where
  name := name
  assign := fun group node =>
    match node with
    | .integer value =>
        if 0 ≤ value then .ok (set group value.toNat) else .error (.wrongKind name)
    | _ => .error (.wrongKind name)
  write := fun group =>
    if get group < Bytes.doubleWordLimit then .ok (Nat.toDigits 10 (get group))
    else .error .numberTooLarge

def text (name : String) (get : Group → String) (set : Group → String → Group) :
    Setting Group where
  name := name
  assign := fun group node =>
    match node with
    | .string value => .ok (set group value)
    | _ => .error (.wrongKind name)
  write := fun group => .ok (Toml.Quoted.write (get group).toList)

def flag (name : String) (get : Group → Bool) (set : Group → Bool → Group) : Setting Group where
  name := name
  assign := fun group node =>
    match node with
    | .boolean value => .ok (set group value)
    | _ => .error (.wrongKind name)
  write := fun group => .ok (if get group then "true" else "false").toList

def level (name : String) (get : Group → LogLevel) (set : Group → LogLevel → Group) :
    Setting Group where
  name := name
  assign := fun group node =>
    match node with
    | .string value =>
        match LogLevel.ofText? value with
        | some level => .ok (set group level)
        | none => .error (.unknownLevel value)
    | _ => .error (.wrongKind name)
  write := fun group => .ok (Toml.Quoted.write (get group).word.toList)

def assignEntry (settings : List (Setting Group)) (group : Group) (entry : String × Toml.Node) :
    Except SettingsFault Group :=
  match settings.find? fun setting => setting.name = entry.1 with
  | some setting => setting.assign group entry.2
  | none => .ok group

/-- A group with the items of an array taken over in the order of the settings. -/
def assignItems : List (Setting Group) → Group → List Toml.Node → Except SettingsFault Group
  | setting :: settings, group, item :: items => do
      assignItems settings (← setting.assign group item) items
  | _, group, _ => .ok group

def assignGroup (settings : List (Setting Group)) (name : String) (group : Group) :
    Toml.Node → Except SettingsFault Group
  | .table _ entries => entries.foldlM (assignEntry settings) group
  | .array items => assignItems settings group items
  | .dateTime => .ok group
  | _ => .error (.wrongKind name)

def writeLines (group : Group) : List (Setting Group) → Except SettingsFault (List Char)
  | [] => .ok []
  | setting :: settings => do
      let value ← setting.write group
      let others ← writeLines group settings
      return setting.name.toList ++ " = ".toList ++ value ++ '\n' :: others

end Setting

namespace ServerConfig

def groupName : String := "server"

def settings : List (Setting ServerConfig) :=
  [.text "address" address fun config value => { config with address := value },
   .number "max_connections" maxConnections fun config value =>
    { config with maxConnections := value },
   .number "idle_timeout" idleTimeout fun config value => { config with idleTimeout := value },
   .number "write_timeout" writeTimeout fun config value => { config with writeTimeout := value },
   .number "shutdown_timeout" shutdownTimeout fun config value =>
    { config with shutdownTimeout := value }]

end ServerConfig

namespace TransportConfig

def groupName : String := "transport"

def settings : List (Setting TransportConfig) :=
  [.number "max_message_size" maxMessageSize fun config value =>
    { config with maxMessageSize := value },
   .number "max_document_size" maxDocumentSize fun config value =>
    { config with maxDocumentSize := value },
   .number "max_write_batch_size" maxWriteBatchSize fun config value =>
    { config with maxWriteBatchSize := value }]

end TransportConfig

namespace LoggingConfig

def groupName : String := "logging"

def settings : List (Setting LoggingConfig) :=
  [.text "app_name" appName fun config value => { config with appName := value },
   .level "log_level" logLevel fun config value => { config with logLevel := value },
   .flag "json_format" jsonFormat fun config value => { config with jsonFormat := value }]

end LoggingConfig

namespace Config

def assignEntry (config : Config) (entry : String × Toml.Node) : Except SettingsFault Config :=
  if entry.1 = ServerConfig.groupName then do
    let group ← Setting.assignGroup ServerConfig.settings entry.1 config.server entry.2
    return { config with server := group }
  else if entry.1 = TransportConfig.groupName then do
    let group ← Setting.assignGroup TransportConfig.settings entry.1 config.transport entry.2
    return { config with transport := group }
  else if entry.1 = LoggingConfig.groupName then do
    let group ← Setting.assignGroup LoggingConfig.settings entry.1 config.logging entry.2
    return { config with logging := group }
  else .ok config

/-- The settings of a root table, the others being the defaults. -/
def ofEntries (entries : Toml.Entries) : Except SettingsFault Config :=
  entries.foldlM assignEntry {}

def ofText (text : String) : Except ProtocolError Config :=
  let config := match Toml.Entries.ofText? text with
    | some entries => ofEntries entries
    | none => .error .notReadable
  config.mapError fun fault => .configuration ("Failed to parse TOML: " ++ fault.message)

def groupText {Group : Type} (name : String) (settings : List (Setting Group)) (group : Group) :
    Except SettingsFault (List Char) := do
  return '[' :: name.toList ++ ']' :: '\n' :: (← Setting.writeLines group settings)

/-- The settings as text, with an empty line between two groups. -/
def characters (config : Config) : Except SettingsFault (List Char) := do
  let server ← groupText ServerConfig.groupName ServerConfig.settings config.server
  let transport ← groupText TransportConfig.groupName TransportConfig.settings config.transport
  let logging ← groupText LoggingConfig.groupName LoggingConfig.settings config.logging
  return server ++ '\n' :: transport ++ '\n' :: logging

def toText (config : Config) : Except ProtocolError String :=
  (config.characters.map String.ofList).mapError fun fault =>
    .configuration ("Failed to serialize config: " ++ fault.message)

def exampleText : String :=
  match toText {} with
  | .ok text => text
  | .error _ => "# Failed to generate example config"

end Config

end DocumentProtocol
