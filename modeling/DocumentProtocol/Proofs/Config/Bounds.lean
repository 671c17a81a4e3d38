import DocumentProtocol.Config.Validation

/-!
# The bounds of settings

Validation collects problems from chains of comparisons. `Config.Bounded` says which settings have
none of them, one bound for each setting.

The documented limit for the time that a shutdown may take is 60 seconds, but validation compares
the whole seconds of that time and lets up to 999 milliseconds more pass. So this limit is a
parameter: validation is exactly `Config.Bounded` at `ServerConfig.shutdownReach`, and settings that
are not in between are judged alike at `ServerConfig.shutdownLimit`.
-/

namespace DocumentProtocol

namespace ServerConfig

/-- The longest shutdown that is documented, in milliseconds. -/
def shutdownLimit : Nat := 60000

/-- The longest shutdown that passes validation: the last one of 60 whole seconds. -/
def shutdownReach : Nat := 60999

/-- The bounds on how a server listens. -/
structure Bounded (longestShutdown : Nat) (config : ServerConfig) : Prop where
  address_ne : config.address ≠ ""
  address_parses : ∃ address, SocketAddress.parse? config.address = some address
  connections : 1 ≤ config.maxConnections ∧ config.maxConnections ≤ 100000
  idle : config.idleTimeout = 0 ∨ 100 ≤ config.idleTimeout
  write : 100 ≤ config.writeTimeout
  shutdown : config.shutdownTimeout ≤ longestShutdown

end ServerConfig

/-- The bounds on sizes; a message must fit a signed word. -/
structure TransportConfig.Bounded (config : TransportConfig) : Prop where
  message : 1024 ≤ config.maxMessageSize ∧ config.maxMessageSize < Bytes.wordLimit
  document : 1 ≤ config.maxDocumentSize ∧ config.maxDocumentSize ≤ config.maxMessageSize
  batch : 1 ≤ config.maxWriteBatchSize

/-- The bounds on the log. -/
structure LoggingConfig.Bounded (config : LoggingConfig) : Prop where
  name_ne : config.appName ≠ ""
  name_short : config.appName.utf8ByteSize ≤ 64

structure Config.Bounded (longestShutdown : Nat) (config : Config) : Prop where
  server : config.server.Bounded longestShutdown
  transport : config.transport.Bounded
  logging : config.logging.Bounded

/-- A check reports nothing if it does not apply and neither does what follows it. -/
theorem ConfigProblem.report_eq_nil_iff {applies : Prop} [Decidable applies]
    {problem : ConfigProblem} {others : List ConfigProblem} :
    (if applies then [problem] else others) = [] ↔ ¬applies ∧ others = [] := by
  by_cases holds : applies <;> simp [holds]

open ConfigProblem in
theorem ServerConfig.problems_eq_nil_iff {config : ServerConfig} :
    config.problems = [] ↔ config.Bounded shutdownReach := by
  simp only [problems, List.append_eq_nil_iff, report_eq_nil_iff, Option.isNone_iff_eq_none,
    ← ne_eq, Option.ne_none_iff_exists', and_true]
  have whole : ¬60 < config.shutdownTimeout / 1000 ↔ config.shutdownTimeout ≤ shutdownReach := by
    simp only [shutdownReach]
    omega
  rw [whole]
  constructor
  · rintro ⟨⟨⟨⟨⟨named, parses⟩, few, many⟩, idle⟩, write⟩, shutdown⟩
    exact ⟨named, parses, by omega, by omega, by omega, shutdown⟩
  · rintro ⟨named, parses, connections, idle, write, shutdown⟩
    exact ⟨⟨⟨⟨⟨named, parses⟩, by omega, by omega⟩, by omega⟩, by omega⟩, shutdown⟩

open ConfigProblem in
theorem TransportConfig.problems_eq_nil_iff {config : TransportConfig} :
    config.problems = [] ↔ config.Bounded := by
  simp only [problems, List.append_eq_nil_iff, report_eq_nil_iff, and_true]
  constructor
  · rintro ⟨⟨⟨small, large⟩, empty, above⟩, batch⟩
    exact ⟨by omega, by omega, by omega⟩
  · rintro ⟨message, document, batch⟩
    exact ⟨⟨⟨by omega, by omega⟩, by omega, by omega⟩, by omega⟩

open ConfigProblem in
theorem LoggingConfig.problems_eq_nil_iff {config : LoggingConfig} :
    config.problems = [] ↔ config.Bounded := by
  simp only [problems, report_eq_nil_iff, and_true, Nat.not_lt]
  exact ⟨fun ⟨named, short⟩ => ⟨named, short⟩, fun ⟨named, short⟩ => ⟨named, short⟩⟩

namespace Config

open ServerConfig

theorem problems_eq_nil_iff {config : Config} :
    config.problems = [] ↔ config.Bounded shutdownReach := by
  simp only [problems, List.append_eq_nil_iff, ServerConfig.problems_eq_nil_iff,
    TransportConfig.problems_eq_nil_iff, LoggingConfig.problems_eq_nil_iff]
  constructor
  · rintro ⟨⟨server, transport⟩, logging⟩
    exact ⟨server, transport, logging⟩
  · rintro ⟨server, transport, logging⟩
    exact ⟨⟨server, transport⟩, logging⟩

/-- Both limits judge alike unless a shutdown is longer than the one and not than the other. -/
theorem bounded_reach_iff {config : Config}
    (apart : config.server.shutdownTimeout ≤ shutdownLimit ∨
      shutdownReach < config.server.shutdownTimeout) :
    config.Bounded shutdownReach ↔ config.Bounded shutdownLimit := by
  constructor
  · rintro ⟨server, transport, logging⟩
    refine ⟨{ server with shutdown := ?_ }, transport, logging⟩
    exact apart.resolve_right (Nat.not_lt.2 server.shutdown)
  · rintro ⟨server, transport, logging⟩
    refine ⟨{ server with shutdown := ?_ }, transport, logging⟩
    exact Nat.le_trans server.shutdown (by decide)

end Config

end DocumentProtocol
