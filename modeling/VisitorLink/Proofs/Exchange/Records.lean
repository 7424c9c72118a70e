import VisitorLink.Exchange.Messages
import VisitorLink.Proofs.Calendar.Rfc3339
import VisitorLink.Proofs.Json.Records
import VisitorLink.Settings.Client

/-!
# Records read back

The client and the service exchange records of fourteen kinds. What the document that is written for
a record tells is the record, with each time in it as a clock shows it.

Main statement: a record is read back from its document exactly if a clock can show all times in it,
and the settings and the kinds of device always are (`RecordKind.records_read_back`).
-/

namespace VisitorLink

open Json

/-- A time is read back as a clock shows it. -/
@[simp] theorem Json.timestamp?_write (t : Timestamp) :
    timestamp? (text (Rfc3339.write t)) = some t.told := by
  unfold timestamp?
  rw [text?_text, Option.bind_some, Rfc3339.read?_write]

/-- A time that may be missing is read back as a clock shows it, or as missing. -/
@[simp] theorem Json.valueOr?_timestamp (value : Option Timestamp) :
    valueOr? (nullable? timestamp?) none (value.map fun t => text (Rfc3339.write t)) =
      some (value.map Timestamp.told) :=
  valueOr?_map_eq_map timestamp?_write (fun _ => Json.noConfusion) value

/-! ## Times in records -/

/-- The wallet with its times as a clock shows them. -/
def Wallet.told (wallet : Wallet) : Wallet :=
  { wallet with linkedAt := wallet.linkedAt.told, lastUsed := wallet.lastUsed.told }

/-- The times in the record. -/
def Wallet.times (wallet : Wallet) : List Timestamp :=
  [wallet.linkedAt, wallet.lastUsed]

/-- The activity with its times as a clock shows them. -/
def Activity.told (activity : Activity) : Activity :=
  { activity with
    firstSeen := activity.firstSeen.map Timestamp.told
    lastSeen := activity.lastSeen.map Timestamp.told }

/-- The times in the record. -/
def Activity.times (activity : Activity) : List Timestamp :=
  activity.firstSeen.toList ++ activity.lastSeen.toList

/-- The visitor with all times as a clock shows them. -/
def Visitor.told (visitor : Visitor) : Visitor :=
  { visitor with
    wallets := visitor.wallets.map Wallet.told
    activity := visitor.activity.told
    createdAt := visitor.createdAt.map Timestamp.told
    updatedAt := visitor.updatedAt.map Timestamp.told }

/-- The times in the record, those of the wallets included. -/
def Visitor.times (visitor : Visitor) : List Timestamp :=
  visitor.wallets.flatMap Wallet.times ++ visitor.activity.times ++ visitor.createdAt.toList ++
    visitor.updatedAt.toList

/-- The report with its times as a clock shows them. -/
def SessionReport.told (report : SessionReport) : SessionReport :=
  { report with
    startedAt := report.startedAt.map Timestamp.told
    lastActivity := report.lastActivity.map Timestamp.told }

/-- The times in the record. -/
def SessionReport.times (report : SessionReport) : List Timestamp :=
  report.startedAt.toList ++ report.lastActivity.toList

/-- A time that may be missing is shown as it is exactly if it can be shown where it is there. -/
theorem Timestamp.map_told_eq_self_iff {value : Option Timestamp} :
    value.map told = value ↔ ∀ time ∈ value.toList, time.IsClockTime := by
  cases value with
  | none => simp
  | some time => simp [told_eq_self_iff]

/-- A wallet is shown as it is exactly if its times can be shown. -/
theorem Wallet.told_eq_self_iff {wallet : Wallet} :
    wallet.told = wallet ↔ ∀ time ∈ wallet.times, time.IsClockTime := by
  obtain ⟨address, linkedAt, verified, isPrimary, lastUsed, label⟩ := wallet
  simp [told, times, Timestamp.told_eq_self_iff]

/-- An activity is shown as it is exactly if its times can be shown. -/
theorem Activity.told_eq_self_iff {activity : Activity} :
    activity.told = activity ↔ ∀ time ∈ activity.times, time.IsClockTime := by
  obtain ⟨firstSeen, lastSeen, pageViews, totalSessions, totalDurationSeconds⟩ := activity
  simp only [told, times, Activity.mk.injEq, Timestamp.map_told_eq_self_iff, and_true,
    List.forall_mem_append]

/-- A visitor is shown as they are exactly if all times can be shown. -/
theorem Visitor.told_eq_self_iff {visitor : Visitor} :
    visitor.told = visitor ↔ ∀ time ∈ visitor.times, time.IsClockTime := by
  obtain ⟨name, isLoggedIn, wallets, preferences, activity, createdAt, updatedAt⟩ := visitor
  have each : wallets.map Wallet.told = wallets ↔
      ∀ time ∈ wallets.flatMap Wallet.times, time.IsClockTime := by
    have shown : wallets.map Wallet.told = wallets.map (fun wallet => wallet) ↔
        ∀ wallet ∈ wallets, wallet.told = wallet := List.map_inj_left
    rw [List.map_id'] at shown
    simp only [shown, List.forall_mem_flatMap, Wallet.told_eq_self_iff]
  simp only [told, times, Visitor.mk.injEq, each, Activity.told_eq_self_iff,
    Timestamp.map_told_eq_self_iff, true_and, List.forall_mem_append, and_assoc]

/-- A report is shown as it is exactly if its times can be shown. -/
theorem SessionReport.told_eq_self_iff {report : SessionReport} :
    report.told = report ↔ ∀ time ∈ report.times, time.IsClockTime := by
  obtain ⟨startedAt, lastActivity, pagesViewed, durationSeconds, device, referrer⟩ := report
  simp only [told, times, SessionReport.mk.injEq, Timestamp.map_told_eq_self_iff, and_true,
    List.forall_mem_append]

/-! ## Wallets and visitors -/

/-- A wallet is read back with its times as a clock shows them. -/
theorem Wallet.read?_toJson (wallet : Wallet) : read? wallet.toJson = some wallet.told := by
  unfold read? toJson
  rw [schema.fields?_object (by decide) ?order]
  case order =>
    rw [List.map_append]
    exact (List.Sublist.refl _).append (keys_optionalMember "label" _)
  simp [Fields.required?, defaulted?_eq, optional?_eq, List.lookup_cons, told]

/-- The document of a wallet tells its value in full. -/
theorem Wallet.plain_toJson (wallet : Wallet) : wallet.toJson.Plain := by
  have label := plainMembers_optional Plain.text "label" wallet.label
  exact plain_object (by simp [label])

/-- Preferences are read back as they were written. -/
theorem Preferences.read?_toJson (preferences : Preferences) :
    read? preferences.toJson = some preferences := by
  unfold read? toJson
  rw [schema.fields?_object (by decide) ?order]
  case order =>
    simp only [List.map_append]
    exact (((keys_optionalMember "theme" _).append (.refl _)).append
      (keys_optionalMember "timezone" _)).append (keys_optionalMember "language" _)
  simp [defaulted?_eq, optional?_eq, List.lookup_cons, List.lookup_append]

/-- The document of preferences tells their value in full. -/
theorem Preferences.plain_toJson (preferences : Preferences) : preferences.toJson.Plain := by
  have theme := plainMembers_optional Plain.text "theme" preferences.theme
  have timezone := plainMembers_optional Plain.text "timezone" preferences.timezone
  have language := plainMembers_optional Plain.text "language" preferences.language
  exact plain_object (by simp [theme, timezone, language])

/-- An activity is read back with its times as a clock shows them. -/
theorem Activity.read?_toJson (activity : Activity) :
    read? activity.toJson = some activity.told := by
  unfold read? toJson
  rw [schema.fields?_object (by decide) ?order]
  case order =>
    simp only [List.map_append]
    exact ((keys_optionalMember "firstSeen" _).append (keys_optionalMember "lastSeen" _)).append
      (.refl _)
  simp [defaulted?_eq, optional?_eq, List.lookup_cons, List.lookup_append, told]

theorem Json.plain_timestamp (t : Timestamp) : (text (Rfc3339.write t)).Plain :=
  .text _

/-- The document of an activity tells its value in full. -/
theorem Activity.plain_toJson (activity : Activity) : activity.toJson.Plain := by
  have firstSeen := plainMembers_optional plain_timestamp "firstSeen" activity.firstSeen
  have lastSeen := plainMembers_optional plain_timestamp "lastSeen" activity.lastSeen
  exact plain_object (by simp [firstSeen, lastSeen])

/-- A visitor is read back with all times as a clock shows them. -/
theorem Visitor.read?_toJson (visitor : Visitor) : read? visitor.toJson = some visitor.told := by
  unfold read? toJson
  rw [schema.fields?_object (by decide) ?order]
  case order =>
    simp only [List.map_append]
    exact ((List.Sublist.refl _).append (keys_optionalMember "createdAt" _)).append
      (keys_optionalMember "updatedAt" _)
  simp [Fields.required?, defaulted?_eq, optional?_eq, List.lookup_cons, List.lookup_append,
    list?_map Wallet.read?_toJson, Preferences.read?_toJson, Activity.read?_toJson, told]

/-- The document of a visitor tells its value in full, that of the wallets included. -/
theorem Visitor.plain_toJson (visitor : Visitor) : visitor.toJson.Plain := by
  have wallets : (Json.arr (visitor.wallets.map Wallet.toJson)).Plain := by
    refine .array fun item mem => ?_
    obtain ⟨wallet, -, rfl⟩ := List.mem_map.1 mem
    exact wallet.plain_toJson
  have createdAt := plainMembers_optional plain_timestamp "createdAt" visitor.createdAt
  have updatedAt := plainMembers_optional plain_timestamp "updatedAt" visitor.updatedAt
  exact plain_object (by simp [wallets, createdAt, updatedAt, visitor.preferences.plain_toJson,
    visitor.activity.plain_toJson])

/-- The answer with all times as a clock shows them. -/
def VisitorAnswer.told (answer : VisitorAnswer) : VisitorAnswer :=
  { visitor := answer.visitor.told }

/-- The answer is told as it is exactly if all times in it are times of a clock. -/
theorem VisitorAnswer.told_eq_self_iff {answer : VisitorAnswer} :
    answer.told = answer ↔ ∀ time ∈ answer.visitor.times, time.IsClockTime := by
  obtain ⟨visitor⟩ := answer
  simp only [told, VisitorAnswer.mk.injEq, Visitor.told_eq_self_iff]

/-- The answer is read back with its visitor as told. -/
theorem VisitorAnswer.read?_toJson (answer : VisitorAnswer) :
    read? answer.toJson = some answer.told := by
  unfold read? toJson
  rw [schema.fields?_object (by decide) (.refl _)]
  simp [Fields.required?, Visitor.read?_toJson, told]

theorem VisitorAnswer.plain_toJson (answer : VisitorAnswer) : answer.toJson.Plain :=
  plain_object (by simp [answer.visitor.plain_toJson])

/-! ## Linking -/

/-- The request to decide on a link is read back as it was written. -/
theorem ConnectRequest.read?_toJson (request : ConnectRequest) :
    read? request.toJson = some request := by
  unfold read? toJson
  rw [schema.fields?_object (by decide) (.refl _)]
  simp [Fields.required?]

theorem ConnectRequest.plain_toJson (request : ConnectRequest) : request.toJson.Plain :=
  plain_object (by simp)

/-- The answer with all times as a clock shows them. -/
def ConnectAnswer.told (answer : ConnectAnswer) : ConnectAnswer :=
  { answer with visitor := answer.visitor.map Visitor.told }

/-- The times in the answer, those of a visitor. -/
def ConnectAnswer.times (answer : ConnectAnswer) : List Timestamp :=
  answer.visitor.toList.flatMap Visitor.times

/-- The answer is told as it is exactly if all times in it are times of a clock. -/
theorem ConnectAnswer.told_eq_self_iff {answer : ConnectAnswer} :
    answer.told = answer ↔ ∀ time ∈ answer.times, time.IsClockTime := by
  obtain ⟨success, visitor, loginRequired, owner, message⟩ := answer
  cases visitor with
  | none => simp [told, times]
  | some visitor => simp [told, times, Visitor.told_eq_self_iff]

/-- The decision on a link is read back with its visitor, if there is one, as told. -/
theorem ConnectAnswer.read?_toJson (answer : ConnectAnswer) :
    read? answer.toJson = some answer.told := by
  have visitor : valueOr? (nullable? Visitor.read?) none (answer.visitor.map Visitor.toJson) =
      some (answer.visitor.map Visitor.told) :=
    valueOr?_map_eq_map Visitor.read?_toJson (fun _ => Json.noConfusion) answer.visitor
  unfold read? toJson
  rw [schema.fields?_object (by decide) ?order]
  case order =>
    simp only [List.map_append]
    exact ((((List.Sublist.refl _).append (keys_optionalMember "user" _)).append (.refl _)).append
      (keys_optionalMember "existingUserId" _)).append (keys_optionalMember "message" _)
  simp [Fields.required?, defaulted?_eq, optional?_eq, List.lookup_cons, List.lookup_append,
    visitor, told]

/-- The document of the decision tells its value in full, with or without a visitor. -/
theorem ConnectAnswer.plain_toJson (answer : ConnectAnswer) : answer.toJson.Plain := by
  have visitor := plainMembers_optional Visitor.plain_toJson "user" answer.visitor
  have owner := plainMembers_optional Plain.text "existingUserId" answer.owner
  have message := plainMembers_optional Plain.text "message" answer.message
  exact plain_object (by simp [visitor, owner, message])

/-- The request to link is read back as it was written. -/
theorem LinkRequest.read?_toJson (request : LinkRequest) : read? request.toJson = some request := by
  unfold read? toJson
  rw [schema.fields?_object (by decide) (.refl _)]
  simp [Fields.required?, List.lookup_cons]

theorem LinkRequest.plain_toJson (request : LinkRequest) : request.toJson.Plain :=
  plain_object (by simp)

/-- The answer with all times as a clock shows them. -/
def LinkAnswer.told (answer : LinkAnswer) : LinkAnswer :=
  { answer with visitor := answer.visitor.told }

/-- The answer is told as it is exactly if all times in it are times of a clock. -/
theorem LinkAnswer.told_eq_self_iff {answer : LinkAnswer} :
    answer.told = answer ↔ ∀ time ∈ answer.visitor.times, time.IsClockTime := by
  obtain ⟨visitor, swapped, previous⟩ := answer
  simp only [told, LinkAnswer.mk.injEq, Visitor.told_eq_self_iff, and_true]

/-- The answer to a link is read back with its visitor as told. -/
theorem LinkAnswer.read?_toJson (answer : LinkAnswer) : read? answer.toJson = some answer.told := by
  unfold read? toJson
  rw [schema.fields?_object (by decide) ?order]
  case order =>
    rw [List.map_append]
    exact (List.Sublist.refl _).append (keys_optionalMember "previousUserId" _)
  simp [Fields.required?, defaulted?_eq, optional?_eq, List.lookup_cons, Visitor.read?_toJson, told]

theorem LinkAnswer.plain_toJson (answer : LinkAnswer) : answer.toJson.Plain := by
  have previous := plainMembers_optional Plain.text "previousUserId" answer.previous
  exact plain_object (by simp [answer.visitor.plain_toJson, previous])

/-- The request to unlink is read back as it was written. -/
theorem UnlinkRequest.read?_toJson (request : UnlinkRequest) :
    read? request.toJson = some request := by
  unfold read? toJson
  rw [schema.fields?_object (by decide) (.refl _)]
  simp [Fields.required?, List.lookup_cons]

theorem UnlinkRequest.plain_toJson (request : UnlinkRequest) : request.toJson.Plain :=
  plain_object (by simp)

/-! ## Sessions -/

theorem Device.plain_toJson (device : Device) : device.toJson.Plain :=
  .text device.name

/-- The request to start a session is read back as it was written. -/
theorem StartRequest.read?_toJson (request : StartRequest) :
    read? request.toJson = some request := by
  have device : valueOr? (nullable? Device.read?) none (request.device.map Device.toJson) =
      some request.device :=
    valueOr?_map Device.read?_toJson (fun _ => Json.noConfusion) request.device
  unfold read? toJson
  rw [schema.fields?_object (by decide) ?order]
  case order =>
    simp only [List.map_append]
    exact ((keys_optionalMember "referrer" _).append (keys_optionalMember "screenWidth" _)).append
      (keys_optionalMember "device" _)
  simp [optional?_eq, List.lookup_append, device]

/-- The document of the request tells its value in full, that of the device included. -/
theorem StartRequest.plain_toJson (request : StartRequest) : request.toJson.Plain := by
  have referrer := plainMembers_optional Plain.text "referrer" request.referrer
  have screenWidth := plainMembers_optional (fun width : UInt32 => plain_ofNat width.toNat)
    "screenWidth" request.screenWidth
  have device := plainMembers_optional Device.plain_toJson "device" request.device
  exact plain_object (by simp [referrer, screenWidth, device])

/-- A page view is read back as it was written. -/
theorem PageView.read?_toJson (view : PageView) : read? view.toJson = some view := by
  unfold read? toJson
  rw [schema.fields?_object (by decide) (.refl _)]
  simp [Fields.required?]

theorem PageView.plain_toJson (view : PageView) : view.toJson.Plain :=
  plain_object (by simp)

/-- The report on a session is read back with its times as a clock shows them. -/
theorem SessionReport.read?_toJson (report : SessionReport) :
    read? report.toJson = some report.told := by
  unfold read? toJson
  rw [schema.fields?_object (by decide) ?order]
  case order =>
    simp only [List.map_append]
    exact ((((keys_optionalMember "startedAt" _).append
      (keys_optionalMember "lastActivity" _)).append (.refl _)).append
      (keys_optionalMember "device" _)).append (keys_optionalMember "referrer" _)
  simp [defaulted?_eq, optional?_eq, List.lookup_cons, List.lookup_append, told]

/-- The document of the report tells its value in full. -/
theorem SessionReport.plain_toJson (report : SessionReport) : report.toJson.Plain := by
  have startedAt := plainMembers_optional plain_timestamp "startedAt" report.startedAt
  have lastActivity := plainMembers_optional plain_timestamp "lastActivity" report.lastActivity
  have device := plainMembers_optional Plain.text "device" report.device
  have referrer := plainMembers_optional Plain.text "referrer" report.referrer
  exact plain_object (by simp [startedAt, lastActivity, device, referrer])

/-- A refusal is read back as it was written. -/
theorem Refusal.read?_toJson (refusal : Refusal) : read? refusal.toJson = some refusal := by
  unfold read? toJson
  rw [schema.fields?_object (by decide) (.refl _)]
  simp [Fields.required?]

theorem Refusal.plain_toJson (refusal : Refusal) : refusal.toJson.Plain :=
  plain_object (by simp)

/-- The settings of a client are read back as they were written. -/
theorem ClientSettings.read?_toJson (settings : ClientSettings) :
    read? settings.toJson = some settings := by
  unfold read? toJson
  rw [schema.fields?_object (by decide) (.refl _)]
  simp [defaulted?_eq, List.lookup_cons]

theorem ClientSettings.plain_toJson (settings : ClientSettings) : settings.toJson.Plain :=
  plain_object (by simp)

/-! ## Kinds of records -/

/-- The kinds of records that the client and the service exchange. -/
inductive RecordKind
  | visitor
  | preferences
  | activity
  | visitorAnswer
  | wallet
  | connectRequest
  | connectAnswer
  | linkRequest
  | linkAnswer
  | unlinkRequest
  | startRequest
  | pageView
  | sessionReport
  | refusal

namespace RecordKind

/-- The records of a kind. -/
abbrev Record : RecordKind → Type
  | .visitor => Visitor
  | .preferences => Preferences
  | .activity => Activity
  | .visitorAnswer => VisitorAnswer
  | .wallet => Wallet
  | .connectRequest => ConnectRequest
  | .connectAnswer => ConnectAnswer
  | .linkRequest => LinkRequest
  | .linkAnswer => LinkAnswer
  | .unlinkRequest => UnlinkRequest
  | .startRequest => StartRequest
  | .pageView => PageView
  | .sessionReport => SessionReport
  | .refusal => Refusal

/-- The value that a record is written as. -/
def toJson : (kind : RecordKind) → kind.Record → Json
  | .visitor => Visitor.toJson
  | .preferences => Preferences.toJson
  | .activity => Activity.toJson
  | .visitorAnswer => VisitorAnswer.toJson
  | .wallet => Wallet.toJson
  | .connectRequest => ConnectRequest.toJson
  | .connectAnswer => ConnectAnswer.toJson
  | .linkRequest => LinkRequest.toJson
  | .linkAnswer => LinkAnswer.toJson
  | .unlinkRequest => UnlinkRequest.toJson
  | .startRequest => StartRequest.toJson
  | .pageView => PageView.toJson
  | .sessionReport => SessionReport.toJson
  | .refusal => Refusal.toJson

/-- Reads a record of a kind. -/
def read? : (kind : RecordKind) → Json → Option kind.Record
  | .visitor => Visitor.read?
  | .preferences => Preferences.read?
  | .activity => Activity.read?
  | .visitorAnswer => VisitorAnswer.read?
  | .wallet => Wallet.read?
  | .connectRequest => ConnectRequest.read?
  | .connectAnswer => ConnectAnswer.read?
  | .linkRequest => LinkRequest.read?
  | .linkAnswer => LinkAnswer.read?
  | .unlinkRequest => UnlinkRequest.read?
  | .startRequest => StartRequest.read?
  | .pageView => PageView.read?
  | .sessionReport => SessionReport.read?
  | .refusal => Refusal.read?

/-- The record with all times in it as a clock shows them. -/
def told : (kind : RecordKind) → kind.Record → kind.Record
  | .visitor => Visitor.told
  | .activity => Activity.told
  | .visitorAnswer => VisitorAnswer.told
  | .wallet => Wallet.told
  | .connectAnswer => ConnectAnswer.told
  | .linkAnswer => LinkAnswer.told
  | .sessionReport => SessionReport.told
  | .preferences | .connectRequest | .linkRequest | .unlinkRequest | .startRequest | .pageView
  | .refusal => id

/-- The times in a record, those of the records in it included. -/
def times : (kind : RecordKind) → kind.Record → List Timestamp
  | .visitor => Visitor.times
  | .activity => Activity.times
  | .visitorAnswer => fun answer => answer.visitor.times
  | .wallet => Wallet.times
  | .connectAnswer => ConnectAnswer.times
  | .linkAnswer => fun answer => answer.visitor.times
  | .sessionReport => SessionReport.times
  | .preferences | .connectRequest | .linkRequest | .unlinkRequest | .startRequest | .pageView
  | .refusal => fun _ => []

/-- A record is told as it is exactly if a clock can show all times in it. -/
theorem told_eq_self_iff {kind : RecordKind} {record : kind.Record} :
    kind.told record = record ↔ ∀ time ∈ kind.times record, time.IsClockTime := by
  cases kind with
  | visitor => exact Visitor.told_eq_self_iff
  | activity => exact Activity.told_eq_self_iff
  | visitorAnswer => exact VisitorAnswer.told_eq_self_iff
  | wallet => exact Wallet.told_eq_self_iff
  | connectAnswer => exact ConnectAnswer.told_eq_self_iff
  | linkAnswer => exact LinkAnswer.told_eq_self_iff
  | sessionReport => exact SessionReport.told_eq_self_iff
  | preferences | connectRequest | linkRequest | unlinkRequest | startRequest | pageView
  | refusal => exact iff_of_true rfl (fun _ => nofun)

/-- A record of any kind is read back as told. -/
theorem read?_toJson (kind : RecordKind) (record : kind.Record) :
    kind.read? (kind.toJson record) = some (kind.told record) := by
  cases kind with
  | visitor => exact Visitor.read?_toJson record
  | preferences => exact Preferences.read?_toJson record
  | activity => exact Activity.read?_toJson record
  | visitorAnswer => exact VisitorAnswer.read?_toJson record
  | wallet => exact Wallet.read?_toJson record
  | connectRequest => exact ConnectRequest.read?_toJson record
  | connectAnswer => exact ConnectAnswer.read?_toJson record
  | linkRequest => exact LinkRequest.read?_toJson record
  | linkAnswer => exact LinkAnswer.read?_toJson record
  | unlinkRequest => exact UnlinkRequest.read?_toJson record
  | startRequest => exact StartRequest.read?_toJson record
  | pageView => exact PageView.read?_toJson record
  | sessionReport => exact SessionReport.read?_toJson record
  | refusal => exact Refusal.read?_toJson record

/-- The document of a record of any kind tells its value in full. -/
theorem plain_toJson (kind : RecordKind) (record : kind.Record) :
    (kind.toJson record).Plain := by
  cases kind with
  | visitor => exact Visitor.plain_toJson record
  | preferences => exact Preferences.plain_toJson record
  | activity => exact Activity.plain_toJson record
  | visitorAnswer => exact VisitorAnswer.plain_toJson record
  | wallet => exact Wallet.plain_toJson record
  | connectRequest => exact ConnectRequest.plain_toJson record
  | connectAnswer => exact ConnectAnswer.plain_toJson record
  | linkRequest => exact LinkRequest.plain_toJson record
  | linkAnswer => exact LinkAnswer.plain_toJson record
  | unlinkRequest => exact UnlinkRequest.plain_toJson record
  | startRequest => exact StartRequest.plain_toJson record
  | pageView => exact PageView.plain_toJson record
  | sessionReport => exact SessionReport.plain_toJson record
  | refusal => exact Refusal.plain_toJson record

end RecordKind

/-- That a value is what the document tells that is written for another one, the compact document as
well as the indented one. -/
def Tells {α : Type} (write : α → Json) (read? : Json → Option α) (value told : α) : Prop :=
  (Json.read? (write value).compact).bind read? = some told ∧
    (Json.read? (write value).indented).bind read? = some told

/-- For a plain value, both documents tell what the value itself is read as. -/
theorem tells_iff {α : Type} {write : α → Json} {read? : Json → Option α} {value told : α}
    (plain : (write value).Plain) :
    Tells write read? value told ↔ read? (write value) = some told := by
  unfold Tells
  rw [read?_compact plain, read?_indented plain, Option.bind_some, and_self]

/-- What the document tells that is written for a record is the record with all times in it as a
clock shows them. This is the record itself exactly if a clock can show all of them, for records of
every kind. Kinds of device and settings are always read back. -/
theorem RecordKind.records_read_back :
    (∀ (kind : RecordKind) (record : kind.Record),
      Tells kind.toJson kind.read? record (kind.told record) ∧
        (Tells kind.toJson kind.read? record record ↔
          ∀ time ∈ kind.times record, time.IsClockTime)) ∧
      (∀ device, Tells Device.toJson Device.read? device device) ∧
      ∀ settings, Tells ClientSettings.toJson ClientSettings.read? settings settings := by
  refine ⟨fun kind record => ?_, fun device => ?_, fun settings => ?_⟩
  · refine ⟨(tells_iff (kind.plain_toJson record)).2 (kind.read?_toJson record), ?_⟩
    rw [tells_iff (kind.plain_toJson record), kind.read?_toJson, Option.some_inj, told_eq_self_iff]
  · exact (tells_iff device.plain_toJson).2 device.read?_toJson
  · exact (tells_iff settings.plain_toJson).2 settings.read?_toJson

/-- A wallet used in a second that is inserted in the middle of a minute is read back as one used in
the second after it. -/
theorem RecordKind.second_in_mid_minute_is_read_as_next :
    ∃ (wallet : Wallet) (later : Timestamp),
      wallet.lastUsed.second = 43230 ∧ wallet.lastUsed.nanosecond = 1500000000 ∧
      later.second = 43231 ∧ later.nanosecond = 500000000 ∧
      Tells Wallet.toJson Wallet.read? wallet { wallet with lastUsed := later } ∧
      ¬ Tells Wallet.toJson Wallet.read? wallet wallet := by
  let date : Date := ⟨2025, 1, 1, by decide, by decide, by decide⟩
  let used : Timestamp := ⟨date, 43230, 1500000000, by decide, by decide⟩
  let later : Timestamp := ⟨date, 43231, 500000000, by decide, by decide⟩
  let wallet : Wallet := { address := "wallet", linkedAt := later, lastUsed := used }
  have told : wallet.told = { wallet with lastUsed := later } := by decide +kernel
  have reads := wallet.read?_toJson
  refine ⟨wallet, later, rfl, rfl, rfl, rfl, (tells_iff wallet.plain_toJson).2 (told ▸ reads), ?_⟩
  rw [tells_iff wallet.plain_toJson, reads, told, Option.some_inj]
  decide +kernel

end VisitorLink
