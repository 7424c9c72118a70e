import VisitorLink.Proofs.Exchange.Records
import VisitorLink.Proofs.Json.Extensions

/-!
# Records with further members

Every record that the client and the service exchange is open: it is read as before from an object
with further members, at the top or within the visitor, the wallets, the preferences and the
activity that it holds. Only the settings are closed.

Main statement: `RecordKind.further_members_ignored`.
-/

namespace VisitorLink

open Json

/-! ## Records without parts -/

/-- A wallet is read the same from a value that says more. -/
theorem Wallet.keeps {value grown : Json} (more : schema.Extends [] value grown) :
    Keeps (read? value) (read? grown) :=
  more.keeps_whole rfl fun same => by
    simp only [Fields.required?, Fields.defaulted?, Fields.optional?, same]

/-- Preferences are read the same from a value that says more. -/
theorem Preferences.keeps {value grown : Json} (more : schema.Extends [] value grown) :
    Keeps (read? value) (read? grown) :=
  more.keeps_whole rfl fun same => by simp only [Fields.defaulted?, Fields.optional?, same]

/-- An activity is read the same from a value that says more. -/
theorem Activity.keeps {value grown : Json} (more : schema.Extends [] value grown) :
    Keeps (read? value) (read? grown) :=
  more.keeps_whole rfl fun same => by simp only [Fields.defaulted?, Fields.optional?, same]

/-! ## Records with parts -/

/-- The fields of a visitor that hold records. -/
def Visitor.parts : Parts :=
  [("wallets", ItemsExtend (Wallet.schema.Extends [])),
    ("preferences", Preferences.schema.Extends []),
    ("activity", Activity.schema.Extends [])]

/-- A visitor is read the same from a value that says more, in its records too. -/
theorem Visitor.keeps {value grown : Json} (more : schema.Extends parts value grown) :
    Keeps (read? value) (read? grown) := by
  have wallets : parts.Steady "wallets" (list? Wallet.read?) := by
    intro related part value grown change
    obtain rfl : related = ItemsExtend (Wallet.schema.Extends []) := by simpa [parts] using part
    exact change.keeps fun _ _ => Wallet.keeps
  have preferences : parts.Steady "preferences" Preferences.read? := by
    intro related part value grown change
    obtain rfl : related = Preferences.schema.Extends [] := by simpa [parts] using part
    exact Preferences.keeps change
  have activity : parts.Steady "activity" Activity.read? := by
    intro related part value grown change
    obtain rfl : related = Activity.schema.Extends [] := by simpa [parts] using part
    exact Activity.keeps change
  refine more.keeps rfl fun same => ?_
  exact (same.required "id" (.of_whole (by decide))).bind fun _ =>
    (same.defaulted "isLoggedIn" (.of_whole (by decide))).bind fun _ =>
    (same.defaulted "wallets" wallets).bind fun _ =>
    (same.defaulted "preferences" preferences).bind fun _ =>
    (same.defaulted "activity" activity).bind fun _ =>
    (same.defaulted "createdAt" (.of_whole (by decide))).bind fun _ =>
    (same.defaulted "updatedAt" (.of_whole (by decide))).bind fun _ => .refl _

/-- The field of an answer that holds a visitor. -/
def Visitor.held : Parts :=
  [("user", schema.Extends parts)]

/-- A field with a visitor is read the same where it says more. -/
theorem Visitor.held_steady : held.Steady "user" read? := by
  intro related part value grown change
  obtain rfl : related = schema.Extends parts := by simpa [held] using part
  exact keeps change

/-- So is a field in which the visitor may be missing. -/
theorem Visitor.held_steady_nullable : held.Steady "user" (nullable? read?) := by
  intro related part value grown change
  obtain rfl : related = schema.Extends parts := by simpa [held] using part
  exact change.nullable (keeps change)

/-- The answer is read the same from a value that says more, in its visitor too. -/
theorem VisitorAnswer.keeps {value grown : Json} (more : schema.Extends Visitor.held value grown) :
    Keeps (read? value) (read? grown) := by
  refine more.keeps rfl fun same => ?_
  exact (same.required "user" Visitor.held_steady).bind fun _ => .refl _

/-- The answer to a link is read the same from a value that says more. -/
theorem LinkAnswer.keeps {value grown : Json} (more : schema.Extends Visitor.held value grown) :
    Keeps (read? value) (read? grown) := by
  refine more.keeps rfl fun same => ?_
  exact (same.required "user" Visitor.held_steady).bind fun _ =>
    (same.defaulted "identitySwapped" (.of_whole (by decide))).bind fun _ =>
    (same.defaulted "previousUserId" (.of_whole (by decide))).bind fun _ => .refl _

/-- The decision on a link is read the same from a value that says more. -/
theorem ConnectAnswer.keeps {value grown : Json} (more : schema.Extends Visitor.held value grown) :
    Keeps (read? value) (read? grown) := by
  refine more.keeps rfl fun same => ?_
  exact (same.required "success" (.of_whole (by decide))).bind fun _ =>
    (same.defaulted "user" Visitor.held_steady_nullable).bind fun _ =>
    (same.defaulted "loginRequired" (.of_whole (by decide))).bind fun _ =>
    (same.defaulted "existingUserId" (.of_whole (by decide))).bind fun _ =>
    (same.defaulted "message" (.of_whole (by decide))).bind fun _ => .refl _

/-! ## Kinds of records -/

namespace RecordKind

/-- The fields of the records of a kind. -/
def schema : RecordKind → Schema
  | .visitor => Visitor.schema
  | .preferences => Preferences.schema
  | .activity => Activity.schema
  | .visitorAnswer => VisitorAnswer.schema
  | .wallet => Wallet.schema
  | .connectRequest => ConnectRequest.schema
  | .connectAnswer => ConnectAnswer.schema
  | .linkRequest => LinkRequest.schema
  | .linkAnswer => LinkAnswer.schema
  | .unlinkRequest => UnlinkRequest.schema
  | .startRequest => StartRequest.schema
  | .pageView => PageView.schema
  | .sessionReport => SessionReport.schema
  | .refusal => Refusal.schema

/-- The fields of the records of a kind that hold records in turn. -/
def parts : RecordKind → Parts
  | .visitor => Visitor.parts
  | .visitorAnswer | .connectAnswer | .linkAnswer => Visitor.held
  | _ => []

/-- A record of any kind is read the same from a value that says more. -/
theorem keeps (kind : RecordKind) {value grown : Json}
    (more : kind.schema.Extends kind.parts value grown) :
    Keeps (kind.read? value) (kind.read? grown) := by
  cases kind with
  | visitor => exact Visitor.keeps more
  | visitorAnswer => exact VisitorAnswer.keeps more
  | connectAnswer => exact ConnectAnswer.keeps more
  | linkAnswer => exact LinkAnswer.keeps more
  | _ =>
      -- what is left has no parts
      refine more.keeps_whole rfl fun same => ?_
      simp only [Fields.required?, Fields.defaulted?, Fields.optional?, same]

/-- The record that a document tells. -/
def ofDocument? (kind : RecordKind) (document : String) : Option kind.Record :=
  (Json.read? document).bind kind.read?

/-- A document says the same as another one in the fields of a kind of record, and may say more
besides. -/
def Extends (kind : RecordKind) (document grown : String) : Prop :=
  ∃ value more, Json.read? document = some value ∧ Json.read? grown = some more ∧
    kind.schema.Extends kind.parts value more

/-- A record of any kind is read the same from a document that says more. -/
theorem Extends.keeps {kind : RecordKind} {document grown : String}
    (more : kind.Extends document grown) :
    Keeps (kind.ofDocument? document) (kind.ofDocument? grown) := by
  obtain ⟨value, _, here, there, more⟩ := more
  rw [ofDocument?, ofDocument?, here, there]
  exact kind.keeps more

end RecordKind

/-- Settings are not read from an object with a member of another key. -/
theorem ClientSettings.ofDocument_stranger {document : String}
    {members : List (Option String × Json)} (object : Json.read? document = some (.obj members))
    {member : Option String × Json} (mem : member ∈ members)
    (stranger : ∀ field ∈ schema.fields, member.1 ≠ some field) :
    ofDocument document = .error (.parse "the document does not hold a configuration") := by
  have nothing : read? (.obj members) = none := by
    unfold read?
    rw [schema.fields?_stranger rfl rfl mem stranger]
    rfl
  rw [ofDocument, object, Option.bind_some, nothing]

/-- A record is read from a document with further members as it was read before, whatever their
values are and wherever they stand, as long as their keys denote characters. Settings are not read
from a document with any member of another key. -/
theorem RecordKind.further_members_ignored :
    (∀ (kind : RecordKind) (document grown : String) (record : kind.Record),
      kind.Extends document grown → kind.ofDocument? document = some record →
        kind.ofDocument? grown = some record) ∧
      ∀ (document : String) (members : List (Option String × Json)),
        Json.read? document = some (.obj members) →
        (∃ member ∈ members, ∀ field ∈ ClientSettings.schema.fields, member.1 ≠ some field) →
          ∃ reason, ClientSettings.ofDocument document = .error (.parse reason) := by
  constructor
  · intro kind document grown record more found
    exact more.keeps record found
  · intro document members object ⟨member, mem, stranger⟩
    exact ⟨_, ClientSettings.ofDocument_stranger object mem stranger⟩

/-! ## A visitor with further members -/

namespace RecordKind.FurtherMembers

/-- A visitor with one preference. -/
def document : String :=
  "\x7b\"id\": \"U\", \"preferences\": \x7b\"notifications\": true\x7d\x7d"

/-- The same visitor with other members first, and with further ones here and in the preferences. -/
def grown : String :=
  "\x7b\"preferences\": \x7b\"ad\": [], \"notifications\": true\x7d, \"no\": \"\", \"id\": \"U\"\x7d"

/-- The second document says more than the first one. -/
theorem grown_extends : visitor.Extends document grown := by
  let own : Option String × Json := (some "id", .text "U")
  let other : Option String × Json := (some "no", .text "")
  let preferences : Json := .obj [(some "notifications", .bool true)]
  let more : Json := .obj [(some "ad", .arr []), (some "notifications", .bool true)]
  have part : Preferences.schema.Extends [] preferences more :=
    .object (.cons ⟨rfl, .inl rfl⟩ .nil)
      (List.forall_mem_singleton.2 ⟨"ad", rfl, by decide, by decide⟩) (.swap _ _ _)
  have preferred : Visitor.schema.MemberGrows Visitor.parts (some "preferences", preferences)
      (some "preferences", more) :=
    ⟨rfl, .inr ⟨"preferences", rfl, .inr ⟨_, .tail _ (.head _), part⟩⟩⟩
  have kept : Visitor.schema.MemberGrows Visitor.parts own own := ⟨rfl, .inl rfl⟩
  have unknown : ∀ member ∈ [other], Visitor.schema.Unknown member :=
    List.forall_mem_singleton.2 ⟨"no", rfl, by decide, by decide⟩
  have order : ([(some "preferences", more), other] ++ [own]).Perm
      ([own] ++ [(some "preferences", more), other]) := List.perm_append_comm
  exact ⟨_, _, by cbv, by cbv, .object (.cons kept (.cons preferred .nil)) unknown order⟩

/-- The preference is read from either document; settings with such a member are turned away. -/
theorem visitor_read_despite_others :
    visitor.ofDocument? grown =
        some ({ id := "U", preferences := { notifications := true } } : Visitor) ∧
      ∃ reason, ClientSettings.ofDocument "\x7b\"no\": \"\"\x7d" = .error (.parse reason) :=
  ⟨further_members_ignored.1 visitor document grown _ grown_extends (by decide +kernel),
    further_members_ignored.2 _ [(some "no", .text "")] (by cbv)
      ⟨_, .head _, by decide⟩⟩

end RecordKind.FurtherMembers

/-- A further key that is written with half of a surrogate pair denotes no characters. It makes the
record unreadable in a document that is well-formed. -/
theorem RecordKind.halved_key_hides_record :
    pageView.ofDocument? "\x7b\"path\": \"p\"\x7d" = some (⟨"p"⟩ : PageView) ∧
      Json.Text.read? "\\ud800\"".toList = some (none, []) ∧
      (Json.read? "\x7b\"path\": \"p\", \"\\ud800\": 1\x7d").isSome = true ∧
      pageView.ofDocument? "\x7b\"path\": \"p\", \"\\ud800\": 1\x7d" = none :=
  ⟨by decide +kernel, by decide +kernel, by decide +kernel, by decide +kernel⟩

end VisitorLink
