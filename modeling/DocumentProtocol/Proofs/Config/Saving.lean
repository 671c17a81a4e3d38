import DocumentProtocol.Config.Settings
import DocumentProtocol.Proofs.Toml.Line

/-!
# Settings that are saved and loaded again

What a setting is written as is taken over into any group as the value that was written, and it
changes nothing else there. A group is restored by all its settings together, since every field of
a group has a setting, and the settings of a group have different names.

The main statement is that settings are the same after they were written and read again, if their
numbers are ones that a text can hold.
-/

namespace DocumentProtocol

namespace LogLevel

theorem ofText?_word (level : LogLevel) : ofText? level.word = some level := by
  cases level <;> rfl

end LogLevel

namespace Setting

open Toml

variable {Group : Type}

/-- What a setting of `source` is written as changes any other group by `update`. -/
def Restores (setting : Setting Group) (source : Group) (update : Group → Group) : Prop :=
  ∃ value node, setting.write source = .ok value ∧ node.IsWritten value ∧
    ∀ other, setting.assign other node = .ok (update other)

theorem number_restores (name : String) {get : Group → Nat} (set : Group → Nat → Group)
    {source : Group} (fits : get source < Bytes.doubleWordLimit) :
    (number name get set).Restores source fun other => set other (get source) :=
  ⟨_, .integer (get source), if_pos fits, Node.isWritten_integer fits, fun _ => by simp [number]⟩

theorem text_restores (name : String) (get : Group → String) (set : Group → String → Group)
    (source : Group) : (text name get set).Restores source fun other => set other (get source) :=
  ⟨_, .string (get source), rfl, Node.isWritten_string _, fun _ => rfl⟩

theorem flag_restores (name : String) (get : Group → Bool) (set : Group → Bool → Group)
    (source : Group) : (flag name get set).Restores source fun other => set other (get source) :=
  ⟨_, .boolean (get source), rfl, Node.isWritten_boolean _, fun _ => rfl⟩

theorem level_restores (name : String) (get : Group → LogLevel) (set : Group → LogLevel → Group)
    (source : Group) : (level name get set).Restores source fun other => set other (get source) :=
  ⟨_, .string (get source).word, rfl, Node.isWritten_string _, fun _ => by
    simp [level, LogLevel.ofText?_word]⟩

/-- All of some settings of `source`, taken over one after the other, change a group by `update`. -/
inductive AllRestore (source : Group) : List (Setting Group) → (Group → Group) → Prop where
  | nil : AllRestore source [] id
  | cons {setting : Setting Group} {settings : List (Setting Group)}
      {update further : Group → Group} (bare : Key.IsBareName setting.name)
      (first : setting.Restores source update) (others : AllRestore source settings further) :
      AllRestore source (setting :: settings) (further ∘ update)

theorem find?_name_of_mem {settings : List (Setting Group)}
    (distinct : (settings.map Setting.name).Nodup) {setting : Setting Group}
    (mem : setting ∈ settings) :
    settings.find? (fun candidate => candidate.name = setting.name) = some setting := by
  induction settings with
  | nil => cases mem
  | cons first others ih =>
      obtain ⟨fresh, distinct⟩ := List.nodup_cons.1 distinct
      rcases List.mem_cons.1 mem with rfl | behind
      · simp
      · have other : first.name ≠ setting.name := by
          intro eq
          exact fresh (eq ▸ List.mem_map_of_mem behind)
        rw [List.find?_cons_of_neg (by simpa using other)]
        exact ih distinct behind

/--
A text of some settings of `source`, with the entries that are read from it. They are taken over by
`all` settings of the group, and change any other group by `update`.
-/
structure Transcribes (source : Group) (settings all : List (Setting Group))
    (update : Group → Group) (text : List Char) (entries : Entries) : Prop where
  wrote : writeLines source settings = .ok text
  written : Line.AreWritten (entries.map Line.ofPair) text
  names_eq : entries.map Prod.fst = settings.map Setting.name
  assigned (other : Group) : entries.foldlM (assignEntry all) other = .ok (update other)

theorem Transcribes.cons {source : Group} {setting : Setting Group}
    {settings all : List (Setting Group)} {update further : Group → Group} {text : List Char}
    {entries : Entries} (behind : Transcribes source settings all further text entries)
    (bare : Key.IsBareName setting.name) (restores : setting.Restores source update)
    (found : all.find? (fun candidate => candidate.name = setting.name) = some setting) :
    ∃ text entries,
      Transcribes source (setting :: settings) all (further ∘ update) text entries := by
  obtain ⟨value, node, wrote, written, assigned⟩ := restores
  refine ⟨setting.name.toList ++ " = ".toList ++ value ++ '\n' :: text,
    (setting.name, node) :: entries, ⟨?_, ?_, ?_, fun other => ?_⟩⟩
  · rw [writeLines, wrote, behind.wrote]
    rfl
  · have entry : (Line.ofPair (setting.name, node)).IsWritten _ := Line.isWritten_entry bare written
    simpa using Line.AreWritten.cons entry behind.written
  · simp [behind.names_eq]
  · have step : assignEntry all other (setting.name, node) = .ok (update other) := by
      rw [assignEntry, found]
      exact assigned other
    rw [List.foldlM_cons, step]
    exact behind.assigned (update other)

theorem AllRestore.exists_transcribes {source : Group} {settings all : List (Setting Group)}
    {update : Group → Group} (restore : AllRestore source settings update)
    (found : ∀ setting ∈ settings,
      all.find? (fun candidate => candidate.name = setting.name) = some setting) :
    ∃ text entries, Transcribes source settings all update text entries := by
  induction restore with
  | nil => exact ⟨[], [], ⟨rfl, .nil, rfl, fun _ => rfl⟩⟩
  | cons bare first others ih =>
      obtain ⟨here, behind⟩ := List.forall_mem_cons.1 found
      obtain ⟨text, entries, transcribes⟩ := ih behind
      exact transcribes.cons bare first here

/-- A text of a whole group, with the table that its lines describe. -/
structure GroupTranscribes (name : String) (settings : List (Setting Group)) (source : Group)
    (text : List Char) (entries : Entries) : Prop where
  wrote : Config.groupText name settings source = .ok text
  opens : text.head? = some '['
  written : Line.AreWritten (.table ⟨[], name⟩ :: entries.map Line.ofPair) text
  distinct : (entries.map Prod.fst).Nodup
  assigned (other : Group) : assignGroup settings name other (.table .header entries) = .ok source

/-- The settings of a group restore all of it. -/
theorem AllRestore.exists_groupTranscribes {source : Group} {settings : List (Setting Group)}
    (restore : AllRestore source settings fun _ => source)
    (distinct : (settings.map Setting.name).Nodup) {name : String} (bare : Key.IsBareName name) :
    ∃ text entries, GroupTranscribes name settings source text entries := by
  obtain ⟨text, entries, transcribes⟩ :=
    restore.exists_transcribes fun setting mem => find?_name_of_mem distinct mem
  refine ⟨'[' :: name.toList ++ ']' :: '\n' :: text, entries, ?_, rfl, ?_, ?_,
    transcribes.assigned⟩
  · rw [Config.groupText, transcribes.wrote]
    rfl
  · simpa using Line.AreWritten.cons (Line.isWritten_table bare) transcribes.written
  · rw [transcribes.names_eq]
    exact distinct

end Setting

namespace ServerConfig

def numbers (config : ServerConfig) : List Nat :=
  [config.maxConnections, config.idleTimeout, config.writeTimeout, config.shutdownTimeout]

theorem allRestore {config : ServerConfig}
    (fit : ∀ number ∈ config.numbers, number < Bytes.doubleWordLimit) :
    Setting.AllRestore config settings fun _ => config := by
  have restore : Setting.AllRestore config settings _ :=
    .cons (by decide) (Setting.text_restores _ _ _ _) <|
    .cons (by decide) (Setting.number_restores _ _ (fit _ (by simp [numbers]))) <|
    .cons (by decide) (Setting.number_restores _ _ (fit _ (by simp [numbers]))) <|
    .cons (by decide) (Setting.number_restores _ _ (fit _ (by simp [numbers]))) <|
    .cons (by decide) (Setting.number_restores _ _ (fit _ (by simp [numbers]))) .nil
  exact restore

end ServerConfig

namespace TransportConfig

def numbers (config : TransportConfig) : List Nat :=
  [config.maxMessageSize, config.maxDocumentSize, config.maxWriteBatchSize]

theorem allRestore {config : TransportConfig}
    (fit : ∀ number ∈ config.numbers, number < Bytes.doubleWordLimit) :
    Setting.AllRestore config settings fun _ => config := by
  have restore : Setting.AllRestore config settings _ :=
    .cons (by decide) (Setting.number_restores _ _ (fit _ (by simp [numbers]))) <|
    .cons (by decide) (Setting.number_restores _ _ (fit _ (by simp [numbers]))) <|
    .cons (by decide) (Setting.number_restores _ _ (fit _ (by simp [numbers]))) .nil
  exact restore

end TransportConfig

namespace LoggingConfig

theorem allRestore (config : LoggingConfig) :
    Setting.AllRestore config settings fun _ => config := by
  have restore : Setting.AllRestore config settings _ :=
    .cons (by decide) (Setting.text_restores _ _ _ _) <|
    .cons (by decide) (Setting.level_restores _ _ _ _) <|
    .cons (by decide) (Setting.flag_restores _ _ _ _) .nil
  exact restore

end LoggingConfig

namespace Config

open Toml

def numbers (config : Config) : List Nat := config.server.numbers ++ config.transport.numbers

section Groups

variable {config : Config} {server transport logging : List Char}
  {serverEntries transportEntries loggingEntries : Entries}
  (serverGroup : Setting.GroupTranscribes ServerConfig.groupName ServerConfig.settings
    config.server server serverEntries)
  (transportGroup : Setting.GroupTranscribes TransportConfig.groupName TransportConfig.settings
    config.transport transport transportEntries)
  (loggingGroup : Setting.GroupTranscribes LoggingConfig.groupName LoggingConfig.settings
    config.logging logging loggingEntries)

include serverGroup transportGroup loggingGroup

theorem characters_of_groups :
    config.characters = .ok (server ++ '\n' :: transport ++ '\n' :: logging) := by
  rw [characters, serverGroup.wrote, transportGroup.wrote, loggingGroup.wrote]
  rfl

theorem ofText?_of_groups :
    Entries.ofText? (String.ofList (server ++ '\n' :: transport ++ '\n' :: logging)) =
      some [(ServerConfig.groupName, .table .header serverEntries),
        (TransportConfig.groupName, .table .header transportEntries),
        (LoggingConfig.groupName, .table .header loggingEntries)] := by
  have written := serverGroup.written.append <| Line.areWritten_empty.append <|
    transportGroup.written.append <| Line.areWritten_empty.append loggingGroup.written
  have builds : Line.Builds _ []
      [(ServerConfig.groupName, .table .header serverEntries),
        (TransportConfig.groupName, .table .header transportEntries),
        (LoggingConfig.groupName, .table .header loggingEntries)] :=
    (Line.builds_table (by decide) serverGroup.distinct).append <|
    (Line.builds_empty _).append <|
    (Line.builds_table (by simp; decide) transportGroup.distinct).append <|
    (Line.builds_empty _).append <|
    Line.builds_table (by simp; decide) loggingGroup.distinct
  have read := Line.ofText?_of_areWritten written (by simp [serverGroup.opens]) builds
  simpa using read

theorem ofEntries_of_groups :
    ofEntries [(ServerConfig.groupName, .table .header serverEntries),
      (TransportConfig.groupName, .table .header transportEntries),
      (LoggingConfig.groupName, .table .header loggingEntries)] = .ok config := by
  have server (other : Config) :
      assignEntry other (ServerConfig.groupName, .table .header serverEntries) =
        .ok { other with server := config.server } := by
    rw [assignEntry, if_pos rfl, serverGroup.assigned]
    rfl
  have transport (other : Config) :
      assignEntry other (TransportConfig.groupName, .table .header transportEntries) =
        .ok { other with transport := config.transport } := by
    have apart : TransportConfig.groupName ≠ ServerConfig.groupName := by decide
    rw [assignEntry, if_neg apart, if_pos rfl, transportGroup.assigned]
    rfl
  have logging (other : Config) :
      assignEntry other (LoggingConfig.groupName, .table .header loggingEntries) =
        .ok { other with logging := config.logging } := by
    have apart : LoggingConfig.groupName ≠ ServerConfig.groupName ∧
      LoggingConfig.groupName ≠ TransportConfig.groupName := by decide
    rw [assignEntry, if_neg apart.1, if_neg apart.2, if_pos rfl, loggingGroup.assigned]
    rfl
  simp only [ofEntries, List.foldlM_cons, List.foldlM_nil, server, transport, logging]
  rfl

end Groups

/-- Settings are the same after they were saved and loaded, if a text can hold their numbers. -/
theorem settings_survive_saving (config : Config)
    (fit : ∀ number ∈ config.numbers, number < Bytes.doubleWordLimit) :
    ∃ text, config.toText = .ok text ∧ Config.ofText text = .ok config := by
  obtain ⟨fitServer, fitTransport⟩ := List.forall_mem_append.1 fit
  obtain ⟨server, _, serverGroup⟩ :=
    (ServerConfig.allRestore fitServer).exists_groupTranscribes (by decide)
      (by decide : Key.IsBareName ServerConfig.groupName)
  obtain ⟨transport, _, transportGroup⟩ :=
    (TransportConfig.allRestore fitTransport).exists_groupTranscribes (by decide)
      (by decide : Key.IsBareName TransportConfig.groupName)
  obtain ⟨logging, _, loggingGroup⟩ :=
    (LoggingConfig.allRestore config.logging).exists_groupTranscribes (by decide)
      (by decide : Key.IsBareName LoggingConfig.groupName)
  refine ⟨String.ofList (server ++ '\n' :: transport ++ '\n' :: logging), ?_, ?_⟩
  · rw [toText, characters_of_groups serverGroup transportGroup loggingGroup]
    rfl
  · rw [Config.ofText, ofText?_of_groups serverGroup transportGroup loggingGroup]
    simp only [ofEntries_of_groups serverGroup transportGroup loggingGroup]
    rfl

/--
The address needs escapes over two lines, the name holds both kinds of quotes, and one number is the
largest that a text can hold.
-/
theorem settings_survive_saving_quotes :
    let config : Config :=
      { server := { address := "\"\"\"\n\\\x7f'''\r", idleTimeout := 9223372036854775807 }
        logging := { appName := "it's a \"name\"", logLevel := .trace, jsonFormat := true } }
    (∀ number ∈ config.numbers, number < Bytes.doubleWordLimit) ∧
      ∃ text, config.toText = .ok text ∧ Config.ofText text = .ok config :=
  ⟨by decide, settings_survive_saving _ (by decide)⟩

end Config

end DocumentProtocol
