import DocumentProtocol.Proofs.Config.Bounds
import DocumentProtocol.Startup

/-!
# The settings that a server starts with

Settings come from three layers: the defaults, a text over them, and variables of the environment
over both. `Config.Overlaid` says setting by setting what the last layer does, and
`SettingsSource.Gives` what all three come to.

The main statement is that a server starts with settings just when they are what the layers come to
and keep all bounds, and that it refuses to start otherwise.
-/

namespace DocumentProtocol

namespace Config

/-- What a setting is under a variable of some name, whose text may be readable or not. -/
inductive Overrides {α : Type} (environment : Environment) (name : String)
    (read : String → Option α) (current : α) : α → Prop where
  | given {text : String} {value : α} (found : environment.lookup name = some text)
      (readable : read text = some value) : Overrides environment name read current value
  | unreadable {text : String} (found : environment.lookup name = some text)
      (unreadable : read text = none) : Overrides environment name read current current
  | absent (missing : environment.lookup name = none) :
      Overrides environment name read current current

theorem overrides_iff {α : Type} {environment : Environment} {name : String}
    {read : String → Option α} {current value : α} :
    Overrides environment name read current value ↔
      value = overridden environment name read current := by
  rw [overridden]
  constructor
  · rintro (⟨found, readable⟩ | ⟨found, unreadable⟩ | missing)
    · simp [found, readable]
    · simp [found, unreadable]
    · simp [missing]
  · rintro rfl
    cases found : environment.lookup name with
    | none => exact .absent found
    | some text =>
        cases readable : read text with
        | none => simpa [readable] using .unreadable found readable
        | some value => simpa [readable] using .given found readable

/-- Whether settings are other ones under an environment. Six settings have no variable. -/
structure Overlaid (base : Config) (environment : Environment) (config : Config) : Prop where
  address : Overrides environment addressVariable some base.server.address config.server.address
  connections : Overrides environment maxConnectionsVariable number? base.server.maxConnections
    config.server.maxConnections
  idle : Overrides environment idleTimeoutVariable number? base.server.idleTimeout
    config.server.idleTimeout
  write_eq : config.server.writeTimeout = base.server.writeTimeout
  shutdown_eq : config.server.shutdownTimeout = base.server.shutdownTimeout
  message : Overrides environment maxMessageSizeVariable number? base.transport.maxMessageSize
    config.transport.maxMessageSize
  document_eq : config.transport.maxDocumentSize = base.transport.maxDocumentSize
  batch_eq : config.transport.maxWriteBatchSize = base.transport.maxWriteBatchSize
  name_eq : config.logging.appName = base.logging.appName
  level : Overrides environment logLevelVariable LogLevel.ofText? base.logging.logLevel
    config.logging.logLevel
  format_eq : config.logging.jsonFormat = base.logging.jsonFormat

theorem overlaid_applyEnvironment (base : Config) (environment : Environment) :
    base.Overlaid environment (base.applyEnvironment environment) where
  address := overrides_iff.2 rfl
  connections := overrides_iff.2 rfl
  idle := overrides_iff.2 rfl
  write_eq := rfl
  shutdown_eq := rfl
  message := overrides_iff.2 rfl
  document_eq := rfl
  batch_eq := rfl
  name_eq := rfl
  level := overrides_iff.2 rfl
  format_eq := rfl

/-- An environment leaves one choice for every setting. -/
theorem overlaid_iff {base config : Config} {environment : Environment} :
    base.Overlaid environment config ↔ config = base.applyEnvironment environment := by
  constructor
  · intro overlaid
    rcases config with ⟨⟨_, _, _, _, _⟩, ⟨_, _, _⟩, ⟨_, _, _⟩⟩
    simp only [applyEnvironment, mk.injEq, ServerConfig.mk.injEq, TransportConfig.mk.injEq,
      LoggingConfig.mk.injEq]
    exact ⟨⟨overrides_iff.1 overlaid.address, overrides_iff.1 overlaid.connections,
      overrides_iff.1 overlaid.idle, overlaid.write_eq, overlaid.shutdown_eq⟩,
      ⟨overrides_iff.1 overlaid.message, overlaid.document_eq, overlaid.batch_eq⟩,
      ⟨overlaid.name_eq, overrides_iff.1 overlaid.level, overlaid.format_eq⟩⟩
  · rintro rfl
    exact overlaid_applyEnvironment base environment

theorem validated_eq_ok_iff {config valid : Config} :
    config.validated = .ok valid ↔ valid = config ∧ config.Bounded ServerConfig.shutdownReach := by
  rw [validated, ← problems_eq_nil_iff]
  split
  · rename_i valid
    simp [valid, eq_comm]
  · rename_i invalid
    simp [invalid]

end Config

namespace SettingsSource

/-- Whether settings are what a source and an environment come to. -/
def Gives (source : SettingsSource) (environment : Environment) (config : Config) : Prop :=
  ∃ base, source.config = .ok base ∧ base.Overlaid environment config

/-- Whatever is wrong with a source is wrong with the configuration. -/
theorem exists_reason_of_config {source : SettingsSource} {error : ProtocolError}
    (failed : source.config = .error error) : ∃ reason, error = .configuration reason := by
  cases source with
  | defaults => cases failed
  | text content =>
      simp only [config, Config.ofText] at failed
      split at failed
      · rename_i entries _
        cases assigned : Config.ofEntries entries with
        | ok found =>
            rw [assigned] at failed
            cases failed
        | error fault =>
            rw [assigned] at failed
            cases failed
            exact ⟨_, rfl⟩
      · cases failed
        exact ⟨_, rfl⟩
  | unopened reason =>
      cases failed
      exact ⟨_, rfl⟩
  | unread reason =>
      cases failed
      exact ⟨_, rfl⟩

end SettingsSource

namespace Startup

variable {source : SettingsSource} {environment : Environment}

theorem load_eq_ok_iff {config : Config} :
    load source environment = .ok config ↔
      source.Gives environment config ∧ config.Bounded ServerConfig.shutdownReach := by
  simp only [load, SettingsSource.Gives, Config.overlaid_iff]
  cases given : source.config with
  | error error => simp [bind, Except.bind]
  | ok base =>
      simp only [bind, Except.bind, Config.validated_eq_ok_iff, Except.ok.injEq, exists_eq_left']
      constructor
      · rintro ⟨rfl, bounded⟩
        exact ⟨rfl, bounded⟩
      · rintro ⟨rfl, bounded⟩
        exact ⟨rfl, bounded⟩

theorem exists_reason_of_load {error : ProtocolError}
    (failed : load source environment = .error error) :
    ∃ reason, error = .configuration reason := by
  simp only [load] at failed
  cases given : source.config with
  | error refusal =>
      rw [given] at failed
      cases failed
      exact SettingsSource.exists_reason_of_config given
  | ok base =>
      simp only [given, bind, Except.bind, Config.validated] at failed
      split at failed
      · cases failed
      · cases failed
        exact ⟨_, rfl⟩

/--
A server starts with settings just when they are those of its source under its environment and keep
the bounds. The bounds are the documented ones, but for a shutdown that is longer than 60 seconds by
less than one. In all other cases it refuses to start and says why.
-/
theorem loads_bounded_settings (source : SettingsSource) (environment : Environment) :
    (∀ config, load source environment = .ok config ↔
      source.Gives environment config ∧ config.Bounded ServerConfig.shutdownReach) ∧
    (∀ config, (config.server.shutdownTimeout ≤ ServerConfig.shutdownLimit ∨
        ServerConfig.shutdownReach < config.server.shutdownTimeout) →
      (load source environment = .ok config ↔
        source.Gives environment config ∧ config.Bounded ServerConfig.shutdownLimit)) ∧
    ((¬∃ config, source.Gives environment config ∧ config.Bounded ServerConfig.shutdownReach) →
      ∃ reason, load source environment = .error (.configuration reason)) := by
  refine ⟨fun _ => load_eq_ok_iff, ?_, ?_⟩
  · intro config apart
    rw [load_eq_ok_iff, Config.bounded_reach_iff apart]
  · intro unfit
    cases loaded : load source environment with
    | ok config => exact absurd ⟨config, load_eq_ok_iff.1 loaded⟩ unfit
    | error error =>
        rcases exists_reason_of_load loaded with ⟨reason, rfl⟩
        exact ⟨reason, rfl⟩

/-- Five connections, and an idle time in words that no number is read from. -/
def mixed : Environment :=
  [(Config.maxConnectionsVariable, "+5"), (Config.idleTimeoutVariable, "1s")]

theorem loads_bounded_settings_mixed :
    load .defaults mixed = .ok { server := { maxConnections := 5 } } ∧
      ∃ reason, load .defaults [(Config.idleTimeoutVariable, "99")] =
        .error (.configuration reason) := by
  constructor
  · have apart : ({ maxConnections := 5 } : ServerConfig).shutdownTimeout ≤
        ServerConfig.shutdownLimit := by
      decide
    have overlaid : Config.Overlaid {} mixed { server := { maxConnections := 5 } } :=
      Config.overlaid_iff.2 rfl
    have bounded : Config.Bounded ServerConfig.shutdownReach
        { server := { maxConnections := 5 } } :=
      Config.problems_eq_nil_iff.1 (by decide)
    apply ((loads_bounded_settings .defaults mixed).2.1 _ (.inl apart)).2
    exact ⟨⟨{}, rfl, overlaid⟩, (Config.bounded_reach_iff (.inl apart)).1 bounded⟩
  · apply (loads_bounded_settings .defaults _).2.2
    rintro ⟨config, ⟨base, base_eq, overlaid⟩, bounded⟩
    cases base_eq
    cases Config.overlaid_iff.1 overlaid
    exact absurd bounded.server.idle (by decide)

/-- A text with a shutdown of sixty seconds and a half. -/
def lateShutdown : SettingsSource := .text "[server]\nshutdown_timeout = 60500\n"

/-- A server starts although its shutdown may take longer than is documented. -/
theorem late_shutdown_is_accepted :
    ¬∀ (source : SettingsSource) (environment : Environment) (config : Config),
      load source environment = .ok config ↔
        source.Gives environment config ∧ config.Bounded ServerConfig.shutdownLimit := by
  intro documented
  have loaded : load lateShutdown [] = .ok { server := { shutdownTimeout := 60500 } } := rfl
  have bounded := ((documented _ _ _).1 loaded).2
  exact absurd bounded.server.shutdown (by decide)

end Startup

end DocumentProtocol
