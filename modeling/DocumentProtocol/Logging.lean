import DocumentProtocol.Config.Level

/-!
# Log records

A log begins with one record that names the application and the level; a server that cannot go on
ends it with another. Records less important than the level of the log are left out.

A record is one line, either of words or of JSON. In a JSON line the record's level comes first and
its fields after it; quotes, backslashes and control characters of a text are escaped.
-/

namespace DocumentProtocol

/-- A record of a log. -/
structure LogRecord where
  level : LogLevel
  message : String
  application : Option String := none
  threshold : Option LogLevel := none
  deriving DecidableEq, Repr

namespace LogRecord

def fields (record : LogRecord) : List (String × String) :=
  [("message", record.message)] ++
    (record.application.toList.map fun name => ("app", name)) ++
    (record.threshold.toList.map fun level => ("level", level.upperWord))

def plainLine (record : LogRecord) : String :=
  " ".intercalate (record.level.upperWord :: record.message ::
    (record.fields.drop 1).map fun field => field.1 ++ "=" ++ field.2)

def escaped (character : Char) : List Char :=
  if character = '"' ∨ character = '\\' then ['\\', character]
  else if character < ' ' then
    let digits := Nat.toDigits 16 character.toNat
    ['\\', 'u'] ++ List.replicate (4 - digits.length) '0' ++ digits
  else [character]

def quoted (text : String) : String :=
  "\"" ++ String.ofList (text.toList.flatMap escaped) ++ "\""

def object (members : List (String × String)) : String :=
  "\x7b" ++ ",".intercalate (members.map fun member => quoted member.1 ++ ":" ++ member.2) ++ "\x7d"

def jsonLine (record : LogRecord) : String :=
  object [("level", quoted record.level.upperWord),
    ("fields", object (record.fields.map fun field => (field.1, quoted field.2)))]

end LogRecord

namespace LoggingConfig

/-- The record with which a log begins. -/
def openingRecord (config : LoggingConfig) : LogRecord :=
  ⟨.info, "Logging initialized", some config.appName, some config.logLevel⟩

def failureRecord : LogRecord := ⟨.error, "Server failed", none, none⟩

/-- The records that a log shows. -/
def shown (config : LoggingConfig) (records : List LogRecord) : List LogRecord :=
  records.filter fun record => config.logLevel.shows record.level

def line (config : LoggingConfig) (record : LogRecord) : String :=
  if config.jsonFormat then record.jsonLine else record.plainLine

end LoggingConfig

end DocumentProtocol
