import KeyCustody.Custodian.Assembly
import KeyCustody.Database.Pool
import KeyCustody.Proofs.Violation
import Mathlib.Data.List.Basic

/-!
# What valid settings can rely on

Settings are valid exactly if they keep every limit and every rule. What is looked at again later, when a pool is opened
or Barbican is connected to, has then been looked at already.
-/

namespace KeyCustody.Settings

open Text

/-- Every setting keeps its limits, and the settings fit together. -/
structure Sound (s : Settings) : Prop where
  keystoreUrl : s.keystore.url ≠ ""
  databaseUrl : s.database.url ≠ ""
  catalogUrl : s.catalog.url ≠ ""
  serviceName : s.logging.serviceName ≠ ""
  level : s.logging.level ≠ ""
  keystoreTimeout : 1 ≤ s.keystore.timeout ∧ s.keystore.timeout ≤ 300
  catalogTimeout : 1 ≤ s.catalog.timeout ∧ s.catalog.timeout ≤ 300
  connectTimeout : 1 ≤ s.database.connectTimeout ∧ s.database.connectTimeout ≤ 60
  maxConnections : 1 ≤ s.database.maxConnections ∧ s.database.maxConnections ≤ 100
  minConnections : s.database.minConnections ≤ 50 ∧ s.database.minConnections ≤ s.database.maxConnections
  web : s.keystore.kind = .barbican →
    "http://".toList <+: s.keystore.url.toList ∨ "https://".toList <+: s.keystore.url.toList
  certificates : s.keystore.kind = .barbican → "https://".toList <+: s.keystore.url.toList → s.keystore.caPath ≠ none
  sqlite : s.database.kind = .sql → "sqlite:".toList <+: s.database.url.toList

variable {s : Settings} {start text : String} {cs rest : List Char}

/-! ## Beginnings -/

theorem isSome_after?_iff {p : List Char} : (after? p cs).isSome = true ↔ p <+: cs := by
  rw [Option.isSome_iff_exists]
  simp only [after?_eq_some_iff]
  exact exists_congr fun _ => eq_comm

theorem begins_iff : begins start text = true ↔ start.toList <+: text.toList :=
  isSome_after?_iff

theorem lower_of_prefix (plain : (lower start).toList = start.toList) (h : start.toList <+: text.toList) :
    start.toList <+: (lower text).toList := by
  obtain ⟨rest, whole⟩ := h
  rw [lower, String.toList_ofList] at plain
  rw [lower, String.toList_ofList, ← whole, List.map_append, plain]
  exact List.prefix_append _ _

/-- Of the addresses that requests can be sent to, those that begin with `https://` are encrypted, in any case. -/
theorem isHttps_iff {k : Keystore} (web : "http://".toList <+: k.url.toList ∨ "https://".toList <+: k.url.toList) :
    k.isHttps = true ↔ "https://".toList <+: k.url.toList := by
  rw [Keystore.isHttps, isSome_after?_iff]
  constructor
  · intro encrypted
    refine web.resolve_left fun plain => ?_
    -- The fifth character cannot be both a colon and a letter.
    have lowered := lower_of_prefix (by decide) plain
    have both := List.prefix_of_prefix_length_le encrypted lowered (by decide)
    revert both
    decide
  · intro encrypted
    have lowered := lower_of_prefix (by decide) encrypted
    exact List.IsPrefix.trans (by decide) lowered

/-! ## Validation -/

theorem isWithinLimits_iff : s.isWithinLimits = true ↔
    (s.keystore.url ≠ "" ∧ 1 ≤ s.keystore.timeout ∧ s.keystore.timeout ≤ 300) ∧
      (s.database.url ≠ "" ∧ (1 ≤ s.database.maxConnections ∧ s.database.maxConnections ≤ 100) ∧
        s.database.minConnections ≤ 50 ∧ 1 ≤ s.database.connectTimeout ∧ s.database.connectTimeout ≤ 60) ∧
      (s.catalog.url ≠ "" ∧ 1 ≤ s.catalog.timeout ∧ s.catalog.timeout ≤ 300) ∧
      s.logging.serviceName ≠ "" ∧ s.logging.level ≠ "" := by
  simp only [isWithinLimits, Keystore.isWithinLimits, Database.isWithinLimits, Catalog.isWithinLimits,
    Logging.isWithinLimits, Bool.and_eq_true, Bool.not_eq_true', String.isEmpty_eq_false_iff, decide_eq_true_eq,
    and_assoc]

theorem validate_eq_ok : s.validate = .ok () ↔ s.fault? = none := by
  unfold validate
  split
  next error found => simp only [found, reduceCtorEq]
  next fine => simp only [fine]

theorem web_iff : ¬(s.keystore.kind = .barbican ∧
      (!(begins "http://" s.keystore.url || begins "https://" s.keystore.url)) = true) ↔
    (s.keystore.kind = .barbican →
      "http://".toList <+: s.keystore.url.toList ∨ "https://".toList <+: s.keystore.url.toList) := by
  rw [not_and, Bool.not_eq_true', Bool.not_eq_false, Bool.or_eq_true, begins_iff, begins_iff]

theorem certificates_iff (web : s.keystore.kind = .barbican →
      "http://".toList <+: s.keystore.url.toList ∨ "https://".toList <+: s.keystore.url.toList) :
    ¬(s.keystore.kind = .barbican ∧ s.keystore.isHttps = true ∧ s.keystore.caPath.isNone = true) ↔
      (s.keystore.kind = .barbican → "https://".toList <+: s.keystore.url.toList → s.keystore.caPath ≠ none) := by
  rw [not_and]
  refine forall_congr' fun remote => ?_
  rw [not_and, isHttps_iff (web remote), Option.isNone_iff_eq_none]

theorem sqlite_iff : ¬(s.database.kind = .sql ∧ (!s.database.isSqlite) = true) ↔
    (s.database.kind = .sql → "sqlite:".toList <+: s.database.url.toList) := by
  rw [not_and, Bool.not_eq_true', Bool.not_eq_false, Database.isSqlite, isSome_after?_iff]

theorem fault?_eq_none : s.fault? = none ↔ s.Sound := by
  rw [fault?, fault_else_eq_none, fault_else_eq_none, fault_else_eq_none, fault_else_eq_none, fault_else_eq_none,
    Bool.not_eq_true', Bool.not_eq_false, isWithinLimits_iff, web_iff, sqlite_iff, Nat.not_lt, and_iff_left rfl]
  constructor
  · rintro ⟨⟨⟨url, requests⟩, ⟨url', most, least, connecting⟩, ⟨url'', requests'⟩, name, level⟩, web, trust, sqlite, fit⟩
    exact ⟨url, url', url'', name, level, requests, requests', connecting, most, ⟨least, fit⟩, web,
      (certificates_iff web).1 trust, sqlite⟩
  · intro sound
    exact ⟨⟨⟨sound.keystoreUrl, sound.keystoreTimeout⟩,
      ⟨sound.databaseUrl, sound.maxConnections, sound.minConnections.1, sound.connectTimeout⟩,
      ⟨sound.catalogUrl, sound.catalogTimeout⟩, sound.serviceName, sound.level⟩, sound.web,
      (certificates_iff sound.web).2 sound.certificates, sound.sqlite, sound.minConnections.2⟩

theorem validate_eq_ok_iff : s.validate = .ok () ↔ s.Sound :=
  validate_eq_ok.trans fault?_eq_none

/-! ## Opening a pool -/

theorem settingsFault?_eq_none {d : Settings.Database} : Database.settingsFault? d = none ↔
    1 ≤ d.maxConnections ∧ d.minConnections ≤ d.maxConnections ∧ d.url ≠ "" ∧ "sqlite:".toList <+: d.url.toList := by
  rw [Database.settingsFault?, fault_else_eq_none, fault_else_eq_none, fault_else_eq_none, fault_else_eq_none,
    and_iff_left rfl, Nat.not_lt, Bool.not_eq_true', Bool.not_eq_false, Database.isSqlite, isSome_after?_iff,
    String.isEmpty_iff, Nat.one_le_iff_ne_zero]

theorem checkSettings_eq_ok {d : Settings.Database} :
    Database.checkSettings d = .ok () ↔ Database.settingsFault? d = none := by
  unfold Database.checkSettings
  split
  next fault found => simp only [found, reduceCtorEq]
  next fine => simp only [fine]

theorem Sound.checkSettings (sound : s.Sound) (sql : s.database.kind = .sql) :
    Database.checkSettings s.database = .ok () := by
  rw [checkSettings_eq_ok, settingsFault?_eq_none]
  exact ⟨sound.maxConnections.1, sound.minConnections.2, sound.databaseUrl, sound.sqlite sql⟩

/-! ## Connecting to Barbican -/

/-- What comes of a file that should hold the certificates to trust; it may not be readable. -/
def connected (path url : String) : Option String → Except Error Http.Endpoint
  | none => .error (.config ("Failed to read CA bundle at " ++ path))
  | some bundle => if Trust.isBundle bundle then .ok (.ofUrl url) else .error (.config "Failed to create HTTP client")

/-- The error for a missing path. -/
def pathMissing : Error := .config "HTTPS is not configured: keystore.ca_cert_path is required"

theorem connected_ne_pathMissing (path url : String) (text : Option String) :
    connected path url text ≠ .error pathMissing := by
  have other : ∀ message, connected path url text = .error (.config message) →
      message.toList.head? = some 'F' := by
    rintro message failed
    unfold connected at failed
    split at failed
    · cases failed
      rw [String.toList_append]
      rfl
    · split at failed
      · cases failed
      · cases failed
        decide
  intro missing
  exact absurd (other _ missing) (by decide)

section
variable {m : Type → Type} [Monad m] (around : Surroundings m) {k : Keystore}

theorem run_connectBarbican_plain (plain : k.isHttps = false) :
    (around.connectBarbican k).run = pure (.ok (.ofUrl k.url)) := by
  rw [Surroundings.connectBarbican, plain]
  rfl

theorem run_connectBarbican_encrypted [LawfulMonad m] {path : String} (encrypted : k.isHttps = true)
    (given : k.caPath = some path) :
    (around.connectBarbican k).run = connected path k.url <$> around.fileText path := by
  rw [Surroundings.connectBarbican, encrypted, given, map_eq_pure_bind]
  have failing : ∀ (error : Error) (next : Unit → ExceptT Error m Http.Endpoint),
      (throw error >>= next : ExceptT Error m _).run = pure (.error error) := fun error next => by
    rw [ExceptT.run_bind, ExceptT.run_throw, pure_bind]
  rw [if_pos rfl]
  refine (ExceptT.run_bind_lift _ _).trans (bind_congr fun text => ?_)
  cases text with
  | none => exact failing _ _
  | some bundle =>
    by_cases sound : Trust.isBundle bundle = true
    · simp only [connected, sound, if_true]
      rfl
    · simp only [connected, sound]
      exact failing _ _

end

theorem Sound.connects (sound : s.Sound) (remote : s.keystore.kind = .barbican) {m : Type → Type} [Monad m]
    [LawfulMonad m] (around : Surroundings m) :
    (around.connectBarbican s.keystore).run = pure (.ok (.ofUrl s.keystore.url)) ∨
      ∃ path, s.keystore.caPath = some path ∧
        (around.connectBarbican s.keystore).run = connected path s.keystore.url <$> around.fileText path := by
  cases encrypted : s.keystore.isHttps with
  | false => exact .inl (run_connectBarbican_plain around encrypted)
  | true =>
    have address := (isHttps_iff (sound.web remote)).1 encrypted
    obtain ⟨path, given⟩ := Option.ne_none_iff_exists'.1 (sound.certificates remote address)
    exact .inr ⟨path, given, run_connectBarbican_encrypted around encrypted given⟩

/-- Settings are valid exactly if they keep every limit and every rule. A pool then finds nothing wrong with those of its
database, and Barbican is connected to, unless the file with the certificates is at fault that the settings name. That
they name none is never the reason. -/
theorem valid_settings_suffice (s : Settings) :
    (s.validate = .ok () ↔ s.Sound) ∧
      (s.validate = .ok () →
        (s.database.kind = .sql → Database.checkSettings s.database = .ok ()) ∧
        (s.keystore.kind = .barbican →
          ∀ {m : Type → Type} [Monad m] [LawfulMonad m] (around : Surroundings m),
            (around.connectBarbican s.keystore).run = pure (.ok (.ofUrl s.keystore.url)) ∨
              ∃ path, s.keystore.caPath = some path ∧
                (around.connectBarbican s.keystore).run = connected path s.keystore.url <$> around.fileText path ∧
                ∀ text, connected path s.keystore.url text ≠ .error pathMissing)) := by
  refine ⟨validate_eq_ok_iff, fun valid => ?_⟩
  have sound : s.Sound := validate_eq_ok_iff.1 valid
  refine ⟨sound.checkSettings, fun remote _ _ _ around => ?_⟩
  obtain plain | ⟨path, given, run⟩ := sound.connects remote around
  · exact .inl plain
  · exact .inr ⟨path, given, run, connected_ne_pathMissing path s.keystore.url⟩

/-- The default settings are valid. -/
example : defaults.Sound :=
  validate_eq_ok_iff.1 rfl

end KeyCustody.Settings
