import VisitorLink.Proofs.Exchange.Records
import VisitorLink.Proofs.Text.Bytes

/-!
# Settings from either source

The same settings are given by the variables of an environment or by a document. The environment
drops the slashes at the end of the URL before the settings are checked, and the document does not:
this is all that the two sources differ in.

Main statement: `ClientSettings.sources_agree_iff`.
-/

namespace VisitorLink

/-! ## Variables that are set -/

namespace Environment

/-- The text of a variable is that of its pair. -/
theorem text?_ofTexts (pairs : List (String × String)) (name : String) :
    (ofTexts pairs).text? name = pairs.lookup name := by
  unfold text? ofTexts
  cases pairs.lookup name with
  | none => rfl
  | some text => exact Text.fromUTF8?_toUTF8 text

/-- A variable that is set to a text gives the value that is read from it. -/
theorem parseOr_of_text {α : Type} {read? : String → Option α} {env : Environment}
    {name text : String} {value default : α} (set : env.text? name = some text)
    (reads : read? text = some value) : env.parseOr read? name default = .ok value := by
  simp only [parseOr, parse, get, set, reads, bind, Except.bind]

/-- Numbers are written in decimal. -/
theorem toList_toString (n : Nat) : (toString n).toList = Text.Decimal.ofNat n :=
  String.toList_ofList

/-- A number of 64 bits is read back. -/
theorem word64?_toString (w : UInt64) : word64? (toString w.toNat) = some w := by
  rw [word64?, toList_toString, Text.Decimal.unsigned?_ofNat]
  simp only [Option.bind_eq_bind, Option.bind_some, w.toNat_lt_size, if_true, UInt64.ofNat_toNat]

/-- A number of 32 bits is read back. -/
theorem word32?_toString (w : UInt32) : word32? (toString w.toNat) = some w := by
  rw [word32?, toList_toString, Text.Decimal.unsigned?_ofNat]
  simp only [Option.bind_eq_bind, Option.bind_some, w.toNat_lt_size, if_true, UInt32.ofNat_toNat]

end Environment

namespace ClientSettings

/-! ## Slashes at the end -/

/-- Whether a URL has a slash at its end. -/
def EndsInSlash (url : String) : Prop :=
  url.toList.getLast? = some '/'

/-- No URL ends in a slash without its slashes. -/
theorem not_endsInSlash (url : String) : ¬EndsInSlash (withoutTrailingSlashes url) := by
  intro slash
  have first := List.head?_dropWhile_not (· == '/') url.toList.reverse
  rw [EndsInSlash, withoutTrailingSlashes, String.toList_ofList, List.getLast?_reverse] at slash
  rw [slash] at first
  exact Bool.noConfusion first

/-- A URL that does not end in a slash is left as it is. -/
theorem withoutTrailingSlashes_eq_self {url : String} (bare : ¬EndsInSlash url) :
    withoutTrailingSlashes url = url := by
  have kept : url.toList.reverse.dropWhile (· == '/') = url.toList.reverse := by
    rw [EndsInSlash, ← List.head?_reverse] at bare
    cases last : url.toList.reverse with
    | nil => rfl
    | cons c rest =>
        rw [last] at bare
        exact List.dropWhile_cons_of_neg fun slash => bare (congrArg some (beq_iff_eq.1 slash))
  rw [withoutTrailingSlashes, kept, List.reverse_reverse, String.ofList_toList]

/-- A URL without its trailing slashes has a scheme only if the URL has it. -/
theorem hasHttpScheme_of_trimmed {url : String}
    (scheme : hasHttpScheme (withoutTrailingSlashes url) = true) : hasHttpScheme url = true := by
  have front : (withoutTrailingSlashes url).toList <+: url.toList := by
    rw [withoutTrailingSlashes, String.toList_ofList, ← List.reverse_suffix, List.reverse_reverse]
    exact List.dropWhile_suffix _
  simp only [hasHttpScheme, startsWith, Bool.or_eq_true, List.isPrefixOf_iff_prefix] at scheme ⊢
  exact scheme.imp (·.trans front) (·.trans front)

/-! ## Settings that are accepted -/

/-- The numbers of the settings are in their ranges. -/
def InRange (settings : ClientSettings) : Prop :=
  settings.requestTimeoutSecs ≠ 0 ∧ settings.requestTimeoutSecs ≤ 120 ∧
    settings.heartbeatSecs ≠ 0 ∧ settings.detectIntervalMs ≠ 0 ∧ settings.detectAttempts ≠ 0

/-- What is wrong with settings whose URL has neither scheme. -/
def schemeFault : String := "api_base_url must start with http:// or https://"

/-- A URL without a scheme is refused, whatever the rest of the settings is. -/
theorem check_of_no_scheme (settings : ClientSettings) {url : String}
    (scheme : hasHttpScheme url = false) :
    check { settings with baseUrl := url } = .error (.invalid schemeFault) := by
  simp only [check, scheme, Bool.not_false, if_true]
  rfl

/-- Numbers in their ranges are accepted with every URL that has a scheme. -/
theorem check_of_inRange {settings : ClientSettings} (range : settings.InRange) {url : String}
    (scheme : hasHttpScheme url = true) :
    check { settings with baseUrl := url } = .ok { settings with baseUrl := url } := by
  obtain ⟨timeout, short, heartbeat, interval, attempts⟩ := range
  simp [check, scheme, timeout, UInt64.not_lt.2 short, heartbeat, interval, attempts]

/-- Numbers out of their ranges are found at fault whatever the URL is, if it has a scheme. -/
theorem check_of_not_inRange {settings : ClientSettings} (range : ¬settings.InRange) :
    ∃ fault, fault ≠ schemeFault ∧ ∀ url, hasHttpScheme url = true →
      check { settings with baseUrl := url } = .error (.invalid fault) := by
  by_cases timeout : settings.requestTimeoutSecs = 0 ∨ 120 < settings.requestTimeoutSecs
  · refine ⟨"request_timeout_secs must be between 1 and 120", by decide, fun url scheme => ?_⟩
    simp only [check, scheme, timeout, Bool.not_true, Bool.false_eq_true, if_false, if_true]
  by_cases heartbeat : settings.heartbeatSecs = 0
  · refine ⟨"heartbeat_interval_secs must be positive", by decide, fun url scheme => ?_⟩
    simp only [check, scheme, timeout, heartbeat, Bool.not_true, Bool.false_eq_true, if_false,
      if_true]
  by_cases detect : settings.detectIntervalMs = 0 ∨ settings.detectAttempts = 0
  · refine ⟨"provider detection needs a positive interval and attempt count", by decide,
      fun url scheme => ?_⟩
    simp only [check, scheme, timeout, heartbeat, detect, Bool.not_true, Bool.false_eq_true,
      if_false, if_true]
  · rw [not_or] at timeout detect
    exact absurd ⟨timeout.1, UInt64.not_lt.1 timeout.2, heartbeat, detect⟩ range

/-- Settings that are accepted are left as they are. -/
theorem eq_of_check {settings accepted : ClientSettings} (ok : check settings = .ok accepted) :
    accepted = settings := by
  unfold check at ok
  grind

/-! ## The two sources -/

/-- A setting is read from the text of its variable. -/
theorem setting_of_text {α : Type} {read? : String → Option α} {env : Environment}
    {name text : String} {value : α} (default : α) (set : env.text? name = some text)
    (reads : read? text = some value) : setting read? env name default = .ok value := by
  rw [setting, Environment.parseOr_of_text set reads]
  rfl

/-- The environment drops the slashes at the end of the URL before the settings are checked. -/
theorem ofEnvironment_toEnvironment (settings : ClientSettings) :
    ofEnvironment settings.toEnvironment =
      check { settings with baseUrl := withoutTrailingSlashes settings.baseUrl } := by
  have url : settings.toEnvironment.text? "IDENTITY_API_URL" = some settings.baseUrl :=
    Environment.text?_ofTexts _ _
  have folder : settings.toEnvironment.text? "IDENTITY_STORAGE_DIR" =
      some settings.storageFolder := Environment.text?_ofTexts _ _
  have timeout (default : UInt64) : setting Environment.word64? settings.toEnvironment
      "IDENTITY_REQUEST_TIMEOUT_SECS" default = .ok settings.requestTimeoutSecs :=
    setting_of_text default (Environment.text?_ofTexts _ _) (Environment.word64?_toString _)
  have heartbeat (default : UInt64) : setting Environment.word64? settings.toEnvironment
      "IDENTITY_HEARTBEAT_SECS" default = .ok settings.heartbeatSecs :=
    setting_of_text default (Environment.text?_ofTexts _ _) (Environment.word64?_toString _)
  have interval (default : UInt64) : setting Environment.word64? settings.toEnvironment
      "IDENTITY_DETECT_INTERVAL_MS" default = .ok settings.detectIntervalMs :=
    setting_of_text default (Environment.text?_ofTexts _ _) (Environment.word64?_toString _)
  have attempts (default : UInt32) : setting Environment.word32? settings.toEnvironment
      "IDENTITY_DETECT_ATTEMPTS" default = .ok settings.detectAttempts :=
    setting_of_text default (Environment.text?_ofTexts _ _) (Environment.word32?_toString _)
  simp only [ofEnvironment, timeout, heartbeat, interval, attempts, bind, Except.bind,
    Environment.getOr, url, folder, Option.getD_some]

/-- A document gives the settings as they are. -/
theorem ofDocument_compact (settings : ClientSettings) :
    ofDocument settings.toJson.compact = check settings := by
  rw [ofDocument, Json.read?_compact settings.plain_toJson, Option.bind_some, read?_toJson]

/-- Settings from an environment have no slash at the end of their URL. -/
theorem not_endsInSlash_of_ofEnvironment {env : Environment} {accepted : ClientSettings}
    (ok : ofEnvironment env = .ok accepted) : ¬EndsInSlash accepted.baseUrl := by
  simp only [ofEnvironment, bind, Except.bind] at ok
  repeat
    split at ok
    · cases ok
  rw [eq_of_check ok]
  exact not_endsInSlash _

/-- Slashes at the end are checked like none where there are none, where the scheme is missing, and
where a number is refused. -/
theorem check_trimmed_eq_iff (settings : ClientSettings) :
    check { settings with baseUrl := withoutTrailingSlashes settings.baseUrl } = check settings ↔
      ¬EndsInSlash settings.baseUrl ∨ hasHttpScheme settings.baseUrl = false ∨
        (hasHttpScheme (withoutTrailingSlashes settings.baseUrl) = true ∧ ¬settings.InRange) := by
  by_cases slash : EndsInSlash settings.baseUrl
  case neg =>
    rw [withoutTrailingSlashes_eq_self slash]
    exact iff_of_true rfl (.inl slash)
  simp only [slash, not_true_eq_false, false_or]
  cases trimmed : hasHttpScheme (withoutTrailingSlashes settings.baseUrl)
  case true =>
    -- with either URL it is the numbers that decide
    have scheme : hasHttpScheme settings.baseUrl = true := hasHttpScheme_of_trimmed trimmed
    simp only [scheme, Bool.true_eq_false, true_and, false_or]
    by_cases range : settings.InRange
    · have accepted : check settings = .ok settings := check_of_inRange range scheme
      rw [check_of_inRange range trimmed, accepted]
      refine iff_of_false (fun same => ?_) (not_not_intro range)
      have url : withoutTrailingSlashes settings.baseUrl = settings.baseUrl :=
        congrArg baseUrl (Except.ok.inj same)
      exact not_endsInSlash settings.baseUrl (url.symm ▸ slash)
    · obtain ⟨fault, -, faulty⟩ := check_of_not_inRange range
      exact iff_of_true ((faulty _ trimmed).trans (faulty _ scheme).symm) range
  case false =>
    rw [check_of_no_scheme settings trimmed]
    simp only [Bool.false_eq_true, false_and, or_false]
    cases scheme : hasHttpScheme settings.baseUrl with
    | false => exact iff_of_true (check_of_no_scheme settings scheme).symm rfl
    | true =>
        refine iff_of_false (fun same => ?_) Bool.noConfusion
        by_cases range : settings.InRange
        · have accepted : check settings = .ok settings := check_of_inRange range scheme
          cases same.trans accepted
        · obtain ⟨fault, other, faulty⟩ := check_of_not_inRange range
          have refused : check settings = .error (.invalid fault) := faulty _ scheme
          exact other (ConfigError.invalid.inj (Except.error.inj (refused.symm.trans same.symm)))

/-- The sources give the same for settings unless the URL ends in a slash and has a scheme, which
is lost together with the slash or leaves settings that are accepted. From an environment, no URL
with a slash at its end is accepted, and from a document it is accepted as it is. -/
theorem sources_agree_iff (settings : ClientSettings) :
    (ofEnvironment settings.toEnvironment = ofDocument settings.toJson.compact ↔
      ¬EndsInSlash settings.baseUrl ∨ hasHttpScheme settings.baseUrl = false ∨
        (hasHttpScheme (withoutTrailingSlashes settings.baseUrl) = true ∧ ¬settings.InRange)) ∧
      (∀ env accepted, ofEnvironment env = .ok accepted → ¬EndsInSlash accepted.baseUrl) ∧
      ∀ accepted, ofDocument settings.toJson.compact = .ok accepted → accepted = settings := by
  rw [ofEnvironment_toEnvironment, ofDocument_compact]
  exact ⟨check_trimmed_eq_iff settings, fun _ _ => not_endsInSlash_of_ofEnvironment,
    fun _ => eq_of_check⟩

/-- A document keeps the slash that the environment drops. -/
theorem slash_is_kept_by_document :
    let settings : ClientSettings := { baseUrl := "https://id.example.com/" }
    let trimmed : ClientSettings := { baseUrl := "https://id.example.com" }
    ofEnvironment settings.toEnvironment = .ok trimmed ∧ ¬EndsInSlash trimmed.baseUrl ∧
      ofDocument settings.toJson.compact = .ok settings ∧ EndsInSlash settings.baseUrl ∧
      ofEnvironment settings.toEnvironment ≠ ofDocument settings.toJson.compact := by
  intro settings trimmed
  have fromVariables : ofEnvironment settings.toEnvironment = .ok trimmed := by
    rw [ofEnvironment_toEnvironment]
    decide +kernel
  have fromDocument : ofDocument settings.toJson.compact = .ok settings := by
    rw [ofDocument_compact]
    decide +kernel
  have slash : EndsInSlash settings.baseUrl := by cbv
  have scheme : hasHttpScheme settings.baseUrl = true := by cbv
  have range : settings.InRange := by unfold InRange; decide
  obtain ⟨iff, noSlash, -⟩ := sources_agree_iff settings
  refine ⟨fromVariables, noSlash _ _ fromVariables, fromDocument, slash, fun same => ?_⟩
  obtain bare | unnamed | ⟨-, faulty⟩ := iff.1 same
  · exact bare slash
  · exact Bool.noConfusion (scheme.symm.trans unnamed)
  · exact faulty range

end ClientSettings

end VisitorLink
