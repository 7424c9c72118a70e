import VisitorLink.Proofs.Settings.Sources

/-!
# Settings from variables

Each of the settings is read from a variable of its own. A variable that is set to a text gives its
setting or refuses the settings (`given?_of_accepted`, `ofEnvironment_of_malformed`). One that
is set to bytes that are no text counts as not set, so that the default takes its place.

Main statement: settings that are accepted heed a variable exactly if it can be read
(`heeds_iff_readable`).
-/

namespace VisitorLink

/-- That a variable is set to bytes that are no text. -/
def Environment.Unreadable (env : Environment) (name : String) : Prop :=
  ∃ bytes, env name = some bytes ∧ ∀ text : String, bytes ≠ text.toUTF8

namespace Environment

variable {env : Environment} {name : String}

/-- A variable that is set to a text has it. -/
theorem text?_of_set {text : String} (set : env name = some text.toUTF8) :
    env.text? name = some text := by
  rw [text?, set, Option.bind_some, Text.fromUTF8?_toUTF8]

/-- A variable that is not set has none. -/
theorem text?_of_unset (unset : env name = none) : env.text? name = none := by
  rw [text?, unset, Option.bind_none]

/-- A variable that is set to something else has none. -/
theorem text?_of_unreadable (unreadable : env.Unreadable name) : env.text? name = none := by
  obtain ⟨bytes, set, noText⟩ := unreadable
  rw [text?, set, Option.bind_some, Text.fromUTF8?_eq_none_iff.2 noText]

/-- A variable is set to a text, or set to other bytes, or not set. -/
theorem set_cases (env : Environment) (name : String) :
    (∃ text : String, env name = some text.toUTF8) ∨ env.Unreadable name ∨ env name = none := by
  cases set : env name with
  | none => exact .inr (.inr rfl)
  | some bytes =>
      by_cases noText : ∀ text : String, bytes ≠ text.toUTF8
      · exact .inr (.inl ⟨bytes, set, noText⟩)
      · push Not at noText
        obtain ⟨text, rfl⟩ := noText
        exact .inl ⟨text, rfl⟩

/-- Unsetting an unreadable variable changes no text. -/
theorem text?_update_of_unreadable (unreadable : env.Unreadable name)
    (other : String) : text? (Function.update env name none) other = env.text? other := by
  obtain rfl | different := eq_or_ne other name
  · rw [text?_of_unreadable unreadable]
    exact text?_of_unset (Function.update_self ..)
  · rw [text?, text?, Function.update_of_ne different]

end Environment

namespace ClientSettings

/-! ## One setting -/

/-- The value that a variable gives, or the error that it has none. -/
def orRefused {α : Type} (name : String) : Option α → Except ConfigError α
  | some value => .ok value
  | none => .error (.badVariable name)

/-- A setting is read from the text of its variable. -/
theorem setting_eq {α : Type} (read? : String → Option α) (env : Environment) (name : String)
    (default : α) : setting read? env name default =
      orRefused name ((env.text? name).elim (some default) read?) := by
  unfold setting Environment.parseOr Environment.parse Environment.get
  cases env.text? name with
  | none => rfl
  | some text =>
      simp only [bind, Except.bind, Option.elim_some]
      cases read? text <;> rfl

/-- The settings, one by one. -/
inductive Field
  | baseUrl
  | requestTimeout
  | heartbeat
  | detectInterval
  | detectAttempts
  | storageFolder
deriving DecidableEq

namespace Field

/-- The variable that a setting is read from. -/
def name : Field → String
  | .baseUrl => "IDENTITY_API_URL"
  | .requestTimeout => "IDENTITY_REQUEST_TIMEOUT_SECS"
  | .heartbeat => "IDENTITY_HEARTBEAT_SECS"
  | .detectInterval => "IDENTITY_DETECT_INTERVAL_MS"
  | .detectAttempts => "IDENTITY_DETECT_ATTEMPTS"
  | .storageFolder => "IDENTITY_STORAGE_DIR"

/-- The values of a setting. -/
def Value : Field → Type
  | .baseUrl | .storageFolder => String
  | .requestTimeout | .heartbeat | .detectInterval => UInt64
  | .detectAttempts => UInt32

/-- The value of a setting in given settings. -/
def of : (field : Field) → ClientSettings → field.Value
  | .baseUrl, settings => settings.baseUrl
  | .requestTimeout, settings => settings.requestTimeoutSecs
  | .heartbeat, settings => settings.heartbeatSecs
  | .detectInterval, settings => settings.detectIntervalMs
  | .detectAttempts, settings => settings.detectAttempts
  | .storageFolder, settings => settings.storageFolder

/-- The value that a text denotes. Slashes at the end of a URL do not count. -/
def read? : (field : Field) → String → Option field.Value
  | .baseUrl, text => some (withoutTrailingSlashes text)
  | .requestTimeout, text | .heartbeat, text | .detectInterval, text => Environment.word64? text
  | .detectAttempts, text => Environment.word32? text
  | .storageFolder, text => some text

/-- The value that an environment gives: that of the text of the variable, or the default. -/
def given? (field : Field) (env : Environment) : Option field.Value :=
  (env.text? field.name).elim (some (field.of {})) field.read?

/-- That a setting is what its variable says, if the variable is set. -/
def Heeds (field : Field) (env : Environment) (settings : ClientSettings) : Prop :=
  ∀ bytes, env field.name = some bytes →
    ∃ text : String, bytes = text.toUTF8 ∧ field.read? text = some (field.of settings)

variable {field : Field} {env : Environment}

/-- The text of a variable gives its value. -/
theorem given?_of_text {text : String} (set : env.text? field.name = some text) :
    field.given? env = field.read? text := by
  rw [given?, set, Option.elim_some]

/-- Without a text, the default is given. -/
theorem given?_of_none (none : env.text? field.name = none) :
    field.given? env = some (field.of {}) := by
  rw [given?, none, Option.elim_none]

/-- What reading a setting answers. -/
def answer (field : Field) (env : Environment) : Except ConfigError field.Value :=
  orRefused field.name (field.given? env)

/-- What is answered is the value that is given, or the error that names the variable. -/
theorem answer_cases (field : Field) (env : Environment) :
    (field.given? env = none ∧ field.answer env = .error (.badVariable field.name)) ∨
      ∃ value, field.given? env = some value ∧ field.answer env = .ok value := by
  rw [answer]
  cases field.given? env with
  | none => exact .inl ⟨rfl, rfl⟩
  | some value => exact .inr ⟨value, rfl, rfl⟩

end Field

/-- The URL is given with a default that needs no reading. -/
theorem given?_baseUrl (env : Environment) : Field.baseUrl.given? env =
    some (withoutTrailingSlashes (env.getOr "IDENTITY_API_URL" ({} : ClientSettings).baseUrl)) := by
  change (env.text? "IDENTITY_API_URL").elim _ _ = _
  rw [Environment.getOr]
  cases env.text? "IDENTITY_API_URL" with
  | none =>
      have bare : ¬EndsInSlash ({} : ClientSettings).baseUrl := by unfold EndsInSlash; decide
      exact congrArg some (withoutTrailingSlashes_eq_self bare).symm
  | some text => rfl

/-- The folder is given with a default that needs no reading. -/
theorem given?_storageFolder (env : Environment) : Field.storageFolder.given? env =
    some (env.getOr "IDENTITY_STORAGE_DIR" ({} : ClientSettings).storageFolder) := by
  change (env.text? "IDENTITY_STORAGE_DIR").elim _ _ = _
  rw [Environment.getOr]
  cases env.text? "IDENTITY_STORAGE_DIR" <;> rfl

/-! ## All settings -/

/-- The environment is read variable by variable, and the settings are checked at the end. -/
theorem ofEnvironment_eq (env : Environment) : ofEnvironment env = (do
    let timeout ← Field.requestTimeout.answer env
    let heartbeat ← Field.heartbeat.answer env
    let interval ← Field.detectInterval.answer env
    let attempts ← Field.detectAttempts.answer env
    check {
      baseUrl :=
        withoutTrailingSlashes (env.getOr "IDENTITY_API_URL" ({} : ClientSettings).baseUrl)
      requestTimeoutSecs := timeout
      heartbeatSecs := heartbeat
      detectIntervalMs := interval
      detectAttempts := attempts
      storageFolder :=
        env.getOr "IDENTITY_STORAGE_DIR" ({} : ClientSettings).storageFolder }) := by
  simp only [ofEnvironment, setting_eq]
  rfl

/-- Some variable is refused, or each gives its setting and the settings are checked. -/
theorem ofEnvironment_cases (env : Environment) :
    (∃ field : Field, field.given? env = none ∧
        ofEnvironment env = .error (.badVariable field.name)) ∨
      ∃ settings, (∀ field : Field, field.given? env = some (field.of settings)) ∧
        ofEnvironment env = check settings := by
  rw [ofEnvironment_eq]
  obtain ⟨none, refused⟩ | ⟨timeout, timeoutGiven, timeoutOk⟩ :=
    Field.requestTimeout.answer_cases env
  · exact .inl ⟨_, none, by rw [refused]; rfl⟩
  obtain ⟨none, refused⟩ | ⟨heartbeat, heartbeatGiven, heartbeatOk⟩ :=
    Field.heartbeat.answer_cases env
  · exact .inl ⟨_, none, by rw [timeoutOk, refused]; rfl⟩
  obtain ⟨none, refused⟩ | ⟨interval, intervalGiven, intervalOk⟩ :=
    Field.detectInterval.answer_cases env
  · exact .inl ⟨_, none, by rw [timeoutOk, heartbeatOk, refused]; rfl⟩
  obtain ⟨none, refused⟩ | ⟨attempts, attemptsGiven, attemptsOk⟩ :=
    Field.detectAttempts.answer_cases env
  · exact .inl ⟨_, none, by rw [timeoutOk, heartbeatOk, intervalOk, refused]; rfl⟩
  rw [timeoutOk, heartbeatOk, intervalOk, attemptsOk]
  simp only [bind, Except.bind]
  refine .inr ⟨_, fun field => ?_, Eq.refl (check _)⟩
  cases field with
  | baseUrl => exact given?_baseUrl env
  | requestTimeout => exact timeoutGiven
  | heartbeat => exact heartbeatGiven
  | detectInterval => exact intervalGiven
  | detectAttempts => exact attemptsGiven
  | storageFolder => exact given?_storageFolder env

variable {env : Environment} {field : Field} {accepted : ClientSettings}

/-- Settings that are accepted are those that the environment gives. -/
theorem given?_of_accepted (ok : ofEnvironment env = .ok accepted) (field : Field) :
    field.given? env = some (field.of accepted) := by
  obtain ⟨_, _, refused⟩ | ⟨settings, given, checks⟩ := ofEnvironment_cases env
  · cases refused.symm.trans ok
  · rw [eq_of_check (checks.symm.trans ok)]
    exact given field

/-- A variable that is set to a text which denotes no value refuses the settings. -/
theorem ofEnvironment_of_malformed {text : String} (set : env field.name = some text.toUTF8)
    (malformed : field.read? text = none) :
    ∃ other : Field, other.given? env = none ∧
      ofEnvironment env = .error (.badVariable other.name) := by
  obtain refused | ⟨settings, given, _⟩ := ofEnvironment_cases env
  · exact refused
  · have value := given field
    rw [Field.given?_of_text (Environment.text?_of_set set), malformed] at value
    cases value

/-- Environments that give the same texts give the same settings. -/
theorem ofEnvironment_congr {env' : Environment}
    (same : ∀ name, env.text? name = env'.text? name) : ofEnvironment env = ofEnvironment env' := by
  simp only [ofEnvironment_eq, Field.answer, Field.given?, Environment.getOr, same]

/-- Settings that are accepted are what their variables say, except for variables that are set to
bytes that are no text: such a variable counts as not set, and the default takes its place. A text
that denotes no value refuses the settings. -/
theorem heeds_iff_readable (env : Environment) :
    (∀ accepted, ofEnvironment env = .ok accepted → ∀ field : Field,
        (field.Heeds env accepted ↔ ¬env.Unreadable field.name) ∧
          (env.Unreadable field.name → field.of accepted = field.of {})) ∧
      (∀ (field : Field) (text : String), env field.name = some text.toUTF8 →
        field.read? text = none →
          ∃ other : Field, ofEnvironment env = .error (.badVariable other.name)) ∧
      ∀ name, env.Unreadable name →
        ofEnvironment env = ofEnvironment (Function.update env name none) := by
  refine ⟨fun accepted ok field => ⟨⟨?_, ?_⟩, ?_⟩, ?_, ?_⟩
  · rintro heeds ⟨bytes, set, noText⟩
    obtain ⟨text, same, _⟩ := heeds bytes set
    exact noText text same
  · intro readable bytes set
    obtain ⟨text, isText⟩ | unreadable | unset := env.set_cases field.name
    · cases set.symm.trans isText
      refine ⟨text, rfl, ?_⟩
      rw [← Field.given?_of_text (Environment.text?_of_set set)]
      exact given?_of_accepted ok field
    · exact absurd unreadable readable
    · cases set.symm.trans unset
  · intro unreadable
    have default := Field.given?_of_none (Environment.text?_of_unreadable unreadable)
    exact Option.some.inj ((given?_of_accepted ok field).symm.trans default)
  · intro field text set malformed
    obtain ⟨other, _, refused⟩ := ofEnvironment_of_malformed set malformed
    exact ⟨other, refused⟩
  · intro name unreadable
    exact (ofEnvironment_congr (Environment.text?_update_of_unreadable unreadable)).symm

/-- A timeout of five seconds is heeded, and one with a stray byte behind the digit is passed over
for the default. -/
theorem stray_byte_is_passed_over :
    let name := Field.requestTimeout.name
    let plain : Environment := Function.update (fun _ => none) name (some "5".toUTF8)
    let stray : Environment := Function.update (fun _ => none) name (some ⟨#[53, 255]⟩)
    (ofEnvironment plain = .ok { requestTimeoutSecs := 5 } ∧
        Field.requestTimeout.Heeds plain { requestTimeoutSecs := 5 }) ∧
      ofEnvironment stray = .ok {} ∧ ¬Field.requestTimeout.Heeds stray {} := by
  intro name plain stray
  have accepted : ofEnvironment plain = .ok { requestTimeoutSecs := 5 } := by decide +kernel
  have passed : ofEnvironment stray = .ok {} := by decide +kernel
  have readable : ¬plain.Unreadable name := by
    rintro ⟨bytes, set, noText⟩
    exact noText "5" (Option.some.inj (set.symm.trans (Function.update_self ..)))
  have unreadable : stray.Unreadable name :=
    ⟨_, Function.update_self .., Text.fromUTF8?_eq_none_iff.1 (by decide +kernel)⟩
  have heeds := ((heeds_iff_readable plain).1 _ accepted .requestTimeout).1
  have passes := ((heeds_iff_readable stray).1 _ passed .requestTimeout).1
  exact ⟨⟨accepted, heeds.2 readable⟩, passed, fun heeded => passes.1 heeded unreadable⟩

end ClientSettings

end VisitorLink
