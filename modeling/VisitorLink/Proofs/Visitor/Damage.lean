import Mathlib.Data.List.Induction
import VisitorLink.Proofs.Visitor.Remembered

/-!
# Slots that are damaged

Between two requests one of the slots may be damaged: the id is taken from it or overwritten by
something that is no id, or its file is deleted, and the other texts in it may change in any way.
The next request finds the id in the other slot and puts it back, so that the slots may be damaged
in turn as often as one likes.

Main statement: an id that was persisted or created is what every later request answers with, until
another one is persisted (`RememberedId.latest_id_survives`).
-/

namespace VisitorLink

open RememberedId

namespace StorageM

variable {α β : Type} {operation : StorageM α} {rest : α → StorageM β} {storage : Storage}

/-- What succeeds has succeeded in both of its steps. -/
theorem on_bind_eq_ok {result : β} (ends : ((operation >>= rest).on storage).1 = .ok result) :
    ∃ first middle, operation.on storage = (.ok first, middle) ∧
      ((rest first).on middle).1 = .ok result := by
  change (match operation.on storage with
    | (ended, after) => (ExceptT.bindCont rest ended) after).1 = _ at ends
  match first : operation.on storage with
  | (.ok found, middle) =>
      rw [first] at ends
      exact ⟨found, middle, rfl, ends⟩
  | (.error error, middle) =>
      rw [first] at ends
      cases ends

end StorageM

namespace Storage

variable {storage before after : Storage} {entries : Slot → Entries} {slot other : Slot}
  {held : Entries} {id key text : String}

/-! ## Slots that nothing is made to fail on -/

/-- Slots that hold entries are unhindered. -/
theorem Holds.unhindered (holds : storage.Holds entries) : storage.Unhindered := by
  intro slot held kept
  cases holds slot with
  | inMemory kept' =>
      cases kept.symm.trans kept'
      rfl
  | inFile kept' => cases kept.symm.trans kept'

namespace Unhindered

/-- One slot in memory is replaced. -/
theorem keep (unhindered : storage.Unhindered) (slot : Slot) (changed : Entries) :
    (storage.keep { entries := changed } slot).Unhindered := by
  intro other held kept
  rw [kept_keep] at kept
  split at kept
  · cases kept
    rfl
  · exact unhindered other held kept

/-- Files may become any. -/
theorem changeFiles (unhindered : storage.Unhindered) (root : Folder) :
    ({ storage with root := root } : Storage).Unhindered := by
  intro slot held kept
  exact unhindered slot held ((storage.kept_root root slot).symm.trans kept)

/-- Setting a text hinders nothing. -/
theorem setText (unhindered : storage.Unhindered) (slot : Slot) (key text : String) :
    (storage.setText slot key text).2.Unhindered := by
  cases kept : storage.kept slot with
  | inMemory held =>
      have sound := unhindered slot held kept
      rw [setText_inMemory kept, sound]
      exact unhindered.keep slot _
  | inFile =>
      rw [setText_inFile kept]
      exact unhindered.changeFiles _

/-- Storing the id hinders nothing. -/
theorem storesId (unhindered : before.Unhindered) (stores : before.StoresId after) :
    after.Unhindered := by
  induction stores with
  | refl => exact unhindered
  | tail _ sets ih =>
      obtain ⟨slot, id, rfl⟩ := sets
      exact ih.setText slot _ id

/-- Both slots can be read if an id could be put into both. -/
theorem holds_of_persists (unhindered : storage.Unhindered)
    (persists : ((persist id).on storage).1 = .ok ()) : ∃ entries, storage.Holds entries := by
  obtain ⟨⟨⟩, middle, sets, sets'⟩ := StorageM.on_bind_eq_ok persists
  rw [StorageM.on_set] at sets sets'
  refine unhindered.exists_holds fun slot => ?_
  cases slot with
  | cookies => exact readable_of_setText (congrArg Prod.fst sets)
  | localArea =>
      obtain ⟨entries, reads⟩ := readable_of_setText sets'
      refine ⟨entries, ?_⟩
      have different : Slot.localArea ≠ .cookies := by decide
      have kept := storage.entries?_setText_of_ne different RememberedId.key id
      rw [sets] at kept
      exact kept.symm.trans reads

/-- Both slots can be read if the id was looked for in both. -/
theorem holds_of_loads (unhindered : storage.Unhindered) {found : Option String}
    (loads : (load.on storage).1 = .ok found) : ∃ entries, storage.Holds entries := by
  obtain ⟨cookie, middle, gets, loads⟩ := StorageM.on_bind_eq_ok loads
  rw [StorageM.on_get, Prod.mk.injEq] at gets
  obtain ⟨gets, rfl⟩ := gets
  obtain ⟨text, middle, gets', _⟩ := StorageM.on_bind_eq_ok loads
  refine unhindered.exists_holds fun slot => ?_
  cases slot with
  | cookies => exact readable_of_getText gets
  | localArea => exact readable_of_getText (congrArg Prod.fst gets')

end Unhindered

/-! ## Damage -/

/-- That one of the slots is damaged: if the id in it is touched at all, it has been taken away or
overwritten by something that is no id, and the other texts are any. The other slot is left
alone. -/
structure Damages (slot : Slot) (before after : Storage) : Prop where
  unhindered : before.Unhindered → after.Unhindered
  spares : ∀ other, other ≠ slot → after.entries? other = before.entries? other
  leaves : ∃ entries, after.entries? slot = some entries ∧
    (valid? (entries.get? RememberedId.key) = none ∨
      ∃ former, before.entries? slot = some former ∧
        entries.get? RememberedId.key = former.get? RememberedId.key)

/-- That at most one of the slots is damaged. -/
def Suffers (before after : Storage) : Prop :=
  after = before ∨ ∃ slot, Damages slot before after

/-- A slot in memory is damaged by other entries that do not hold an id. -/
theorem damages_keep (storage : Storage) (slot : Slot) {entries : Entries}
    (lacks : valid? (entries.get? RememberedId.key) = none) :
    Damages slot storage (storage.keep { entries := entries } slot) where
  unhindered unhindered := unhindered.keep slot entries
  spares other different := by
    unfold entries?
    rw [kept_keep, if_neg different, root_keep]
  leaves :=
    ⟨entries, entries?_inMemory ((storage.kept_keep _ slot slot).trans (if_pos rfl)), .inl lacks⟩

/-- A slot in a file is damaged if the files of the other slots read as before and its own one does
not hold an id. -/
theorem damages_of_reads (kept : storage.kept slot = .inFile) {root : Folder}
    (spares : ∀ other : Slot, other ≠ slot →
      root.entries other.route = storage.root.entries other.route)
    (reads : root.entries slot.route = .ok held)
    (lacks : valid? (held.get? RememberedId.key) = none) :
    Damages slot storage { storage with root := root } where
  unhindered unhindered := unhindered.changeFiles root
  spares other different := by
    unfold entries?
    rw [kept_root, spares other different]
  leaves := by
    have kept := (storage.kept_root root slot).trans kept
    exact ⟨held, (entries?_inFile kept).trans (congrArg Except.toOption reads), .inl lacks⟩

/-- A slot is damaged by writing another document to its file, be it a blank one, if that does not
hold an id. -/
theorem damages_put (kept : storage.kept slot = .inFile)
    (free : storage.root.isFolder slot.path = false) {document : String}
    (reads : Entries.ofDocument document = .ok held)
    (lacks : valid? (held.get? RememberedId.key) = none) :
    Damages slot storage
      { storage with root := storage.root.put slot.path document.toUTF8 } := by
  refine damages_of_reads kept (fun other different => ?_) ?_ lacks
  · rw [Folder.entries_put free, if_neg different]
  · rw [Folder.entries_put free, if_pos rfl, reads]

/-- A slot is damaged by deleting its file. -/
theorem damages_delete (kept : storage.kept slot = .inFile)
    (free : storage.root.isFolder slot.path = false) :
    Damages slot storage
      { storage with
        root := { storage.root with files := Pairs.without storage.root.files slot.path } } := by
  let root := storage.root
  let deleted : Folder := { root with files := Pairs.without root.files slot.path }
  have located (folder : Folder) (slot : Slot) : folder.locate slot.route = some slot.path := by
    cases slot <;> rfl
  have lacks : valid? (Entries.empty.get? RememberedId.key) = none := rfl
  refine damages_of_reads kept (fun other different => ?_) ?_ lacks
  · have apart : other.path ≠ slot.path := by
      cases other <;> cases slot <;> first | exact absurd rfl different | decide
    have file : deleted.file? other.path = root.file? other.path :=
      (Pairs.lookup_without root.files slot.path other.path).trans (if_neg apart)
    have reads : deleted.read other.route = root.read other.route := by
      unfold Folder.read
      rw [located, located]
      dsimp only
      rw [file]
      rfl
    change deleted.entries other.route = root.entries other.route
    unfold Folder.entries
    rw [reads]
  · have file : deleted.file? slot.path = none :=
      (Pairs.lookup_without root.files slot.path slot.path).trans (if_pos rfl)
    have open? : deleted.isFolder slot.path = false := free
    change deleted.entries slot.route = .ok .empty
    unfold Folder.entries Folder.read
    rw [located]
    dsimp only
    rw [open?, file, ite_self]
    rfl

/-! ## Finding the id after damage -/

/-- That the slots can be used and an id is found in them. -/
def Recalls (storage : Storage) (id : String) : Prop :=
  ∃ entries, storage.Holds entries ∧ found? entries = some id

/-- That the slots can be used and both hold an id. -/
structure Secures (storage : Storage) (id : String) : Prop where
  valid : VisitorId.Valid id
  faultless : storage.Faultless
  remembers : storage.Remembers id

/-- An id is found if one slot holds it and the other slot holds no other id. -/
theorem found?_eq_some (slot : Slot) (valid : VisitorId.Valid id)
    (kept : ∀ other, other ≠ slot → (entries other).get? RememberedId.key = some id)
    (either : valid? ((entries slot).get? RememberedId.key) = none ∨
      (entries slot).get? RememberedId.key = some id) : found? entries = some id := by
  have whole : valid? (some id) = some id := valid?_eq_some.2 ⟨rfl, valid⟩
  unfold found?
  cases slot with
  | cookies =>
      rw [kept .localArea (by decide), whole]
      rcases either with lacks | holds
      · rw [lacks]
        rfl
      · rw [holds, whole]
        rfl
  | localArea =>
      rw [kept .cookies (by decide), whole]
      rfl

/-- The id is found after either slot was damaged. -/
theorem Secures.recalls (secures : before.Secures id) (suffers : before.Suffers after) :
    after.Recalls id := by
  obtain ⟨former, holds⟩ := secures.faultless.holds
  have both := holds.remembers_iff.1 secures.remembers
  rcases suffers with rfl | ⟨slot, damages⟩
  · exact ⟨former, holds, found?_eq_some .cookies secures.valid (fun slot _ => both slot)
      (.inr (both .cookies))⟩
  · obtain ⟨left, reads, either⟩ := damages.leaves
    have readable : ∀ other, after.entries? other =
        some (Function.update former slot left other) := by
      intro other
      rw [Function.update_apply]
      split
      case isTrue here => rw [here, reads]
      case isFalse there => rw [damages.spares other there, holds.entries? other]
    obtain ⟨entries, holds'⟩ :=
      (damages.unhindered holds.unhindered).exists_holds fun other => ⟨_, readable other⟩
    obtain rfl : entries = Function.update former slot left :=
      funext fun other => Option.some.inj ((holds'.entries? other).symm.trans (readable other))
    refine ⟨_, holds', found?_eq_some slot secures.valid (fun other different => ?_) ?_⟩
    · rw [Function.update_of_ne different]
      exact both other
    · rw [Function.update_self]
      refine either.imp_right fun ⟨held, read, same⟩ => ?_
      rw [holds.entries? slot, Option.some.injEq] at read
      rw [same, ← read, both slot]

end Storage

/-! ## What is done with the id -/

namespace RememberedId

/-- A request that is made of the remembered id, with its answer. -/
inductive Deed
  | persist (id : String) (answer : Except StorageError Unit)
  | load (answer : Except StorageError (Option String))
  | loadOrCreate (fresh : String) (answer : Except StorageError String)

namespace Deed

variable {deed : Deed} {before after : Storage} {id : String}

/-- What a request does to the slots. What is persisted is an id, and a fresh one is made of random
bytes. -/
def Does : Deed → Storage → Storage → Prop
  | .persist id answer, before, after =>
      VisitorId.Valid id ∧ (RememberedId.persist id).on before = (answer, after)
  | .load answer, before, after => RememberedId.load.on before = (answer, after)
  | .loadOrCreate fresh answer, before, after =>
      (∃ bytes, fresh = (Uuid.ofRandom bytes).hyphenated) ∧
        (RememberedId.loadOrCreate fresh).on before = (answer, after)

/-- The id that a request has persisted, or created: then it is the fresh one. -/
def settled? : Deed → Option String
  | .persist id (.ok ()) => some id
  | .loadOrCreate fresh (.ok id) => if id = fresh then some id else none
  | _ => none

/-- That a request succeeds and tells of a given id, unless it has another one persisted. -/
def Tells (id : String) : Deed → Prop
  | .persist _ answer => answer = .ok ()
  | .load answer => answer = .ok (some id)
  | .loadOrCreate _ answer => answer = .ok id

/-- Deeds store no more than the id. -/
theorem Does.storesId (does : deed.Does before after) : before.StoresId after := by
  cases deed with
  | persist id answer =>
      have stores := storesId_persist id before
      rwa [does.2] at stores
  | load answer =>
      have stores := storesId_load before
      rwa [does] at stores
  | loadOrCreate fresh answer =>
      have stores := storesId_loadOrCreate fresh before
      rwa [does.2] at stores

/-- A request that finds an id tells it and puts it where it is missing. -/
theorem Does.of_recalls (does : deed.Does before after) (recalls : before.Recalls id) :
    deed.Tells id ∧ after.Secures (deed.settled?.getD id) := by
  obtain ⟨entries, holds, found⟩ := recalls
  have valid := valid_of_found? found
  cases deed with
  | persist persisted answer =>
      obtain ⟨valid', does⟩ := does
      obtain ⟨after', persists, faultless, remembers⟩ := holds.faultless.persist_on persisted
      cases does.symm.trans persists
      exact ⟨rfl, valid', faultless, remembers⟩
  | load answer =>
      obtain ⟨after', loads, holds'⟩ := load_on holds
      rw [found] at loads holds'
      change RememberedId.load.on before = (answer, after) at does
      cases does.symm.trans loads
      exact ⟨rfl, valid, holds'.faultless, holds'.remembers_iff.2 (mended_get? entries id)⟩
  | loadOrCreate fresh answer =>
      obtain ⟨after', loads, holds'⟩ := loadOrCreate_on holds fresh
      rw [found] at loads holds'
      cases does.2.symm.trans loads
      have same : (if id = fresh then some id else none).getD id = id := by
        split <;> rfl
      refine ⟨rfl, ?_⟩
      change after.Secures ((if id = fresh then some id else none).getD id)
      rw [same]
      exact ⟨valid, holds'.faultless, holds'.remembers_iff.2 (mended_get? entries id)⟩

/-- An id that a request settles is put into both slots, whatever they were like before. -/
theorem Does.of_settled (does : deed.Does before after) (unhindered : before.Unhindered)
    (settled : deed.settled? = some id) : after.Secures id := by
  unfold settled? at settled
  split at settled
  case h_1 persisted =>
    cases settled
    obtain ⟨valid, does⟩ := does
    obtain ⟨entries, holds⟩ := unhindered.holds_of_persists (congrArg Prod.fst does)
    obtain ⟨after', persists, faultless, remembers⟩ := holds.faultless.persist_on id
    cases does.symm.trans persists
    exact ⟨valid, faultless, remembers⟩
  case h_2 fresh created =>
    obtain ⟨⟨bytes, random⟩, does⟩ := does
    obtain ⟨found, middle, loads, _⟩ := StorageM.on_bind_eq_ok (congrArg Prod.fst does)
    obtain ⟨entries, holds⟩ := unhindered.holds_of_loads (congrArg Prod.fst loads)
    have valid : VisitorId.Valid fresh := random ▸ VisitorId.valid_hyphenated_ofRandom bytes
    obtain ⟨recalled, after', recalls, valid', faultless, remembers⟩ :=
      holds.faultless.loadOrCreate_on valid
    cases does.symm.trans recalls
    split at settled
    · cases settled
      exact ⟨valid', faultless, remembers⟩
    · cases settled
  case h_3 => cases settled

end Deed

/-- The id that was persisted or created last. -/
def latest? (deeds : List Deed) : Option String :=
  deeds.reverse.findSome? Deed.settled?

/-- The latest id is that of the last deed that has settled one. -/
theorem latest?_concat (deeds : List Deed) (deed : Deed) :
    latest? (deeds ++ [deed]) = deed.settled?.or (latest? deeds) := by
  unfold latest?
  rw [List.reverse_append, List.reverse_singleton, List.singleton_append, List.findSome?_cons]
  cases deed.settled? <;> rfl

/-- Requests one after the other, with at most one slot damaged before each of them. -/
inductive Story (first : Storage) : List Deed → Storage → Prop
  | opens : Story first [] first
  | goesOn {deeds : List Deed} {deed : Deed} {settled before after : Storage}
      (story : Story first deeds settled) (suffers : settled.Suffers before)
      (does : deed.Does before after) : Story first (deeds ++ [deed]) after

namespace Story

variable {first after : Storage} {deeds : List Deed} {deed : Deed} {id : String}

/-- A story goes on by damage and a deed. -/
theorem concat_iff : Story first (deeds ++ [deed]) after ↔
    ∃ settled before, Story first deeds settled ∧ settled.Suffers before ∧
      deed.Does before after := by
  constructor
  · intro story
    generalize whole : deeds ++ [deed] = told at story
    cases story with
    | opens => cases List.append_ne_nil_of_right_ne_nil deeds (List.cons_ne_nil deed []) whole
    | goesOn story suffers does =>
        obtain ⟨rfl, rfl⟩ := List.append_singleton_inj.1 whole
        exact ⟨_, _, story, suffers, does⟩
  · rintro ⟨settled, before, story, suffers, does⟩
    exact .goesOn story suffers does

/-- Both slots hold the id that was settled last after every request. -/
theorem secures (story : Story first deeds after) (unhindered : first.Unhindered) :
    after.Unhindered ∧ ∀ id, latest? deeds = some id → after.Secures id := by
  induction story with
  | opens => exact ⟨unhindered, fun id settled => nomatch settled⟩
  | @goesOn deeds deed settled before after story suffers does ih =>
      have unhindered' : before.Unhindered := by
        rcases suffers with rfl | ⟨slot, damages⟩
        · exact ih.1
        · exact damages.unhindered ih.1
      refine ⟨unhindered'.storesId does.storesId, fun id latest => ?_⟩
      rw [latest?_concat] at latest
      cases settles : deed.settled? with
      | some fresh =>
          rw [settles] at latest
          cases latest
          exact does.of_settled unhindered' settles
      | none =>
          rw [settles, Option.none_or] at latest
          have secures := (does.of_recalls ((ih.2 id latest).recalls suffers)).2
          rwa [settles] at secures

end Story

/-- Once an id was persisted or created, every later request succeeds, and is answered with the one
that was persisted or created last if it looks for an id. -/
theorem latest_id_survives {first last : Storage} (unhindered : first.Unhindered)
    {earlier later : List Deed} {deed : Deed} (story : Story first (earlier ++ deed :: later) last)
    {id : String} (latest : latest? earlier = some id) : deed.Tells id := by
  induction later using List.reverseRecOn generalizing last with
  | nil =>
      obtain ⟨settled, before, story, suffers, does⟩ := Story.concat_iff.1 story
      have secures := (story.secures unhindered).2 id latest
      exact (does.of_recalls (secures.recalls suffers)).1
  | append_singleton later next ih =>
      rw [← List.cons_append, ← List.append_assoc] at story
      obtain ⟨settled, _, story, _⟩ := Story.concat_iff.1 story
      exact ih story

/-- An id that is overwritten in the cookies, and lost from the other slot after the first request
that follows. -/
theorem persisted_id_survives :
    let id := "5f0c1f4e-8f0b-4c55-9d2a-3a6f1d9b7e21"
    let fresh := (Uuid.ofRandom (Vector.replicate 16 7)).hyphenated
    let deeds := [Deed.persist id (.ok ()), .load (.ok (some id))]
    ∃ last, (Storage.memory {} {}).Unhindered ∧
      Story (.memory {} {}) (deeds ++ [.loadOrCreate fresh (.ok id)]) last ∧
      latest? deeds = some id ∧ (Deed.loadOrCreate fresh (.ok id)).Tells id := by
  intro id fresh deeds
  let held : MemorySlot := { entries := Entries.empty.insert key id }
  let malformed : MemorySlot := { entries := Entries.empty.insert key "nobody" }
  have valid : VisitorId.Valid id := by decide
  have whole : valid? (held.entries.get? key) = some id := valid?_eq_some.2 ⟨rfl, valid⟩
  have nobody : valid? (malformed.entries.get? key) = none :=
    (by decide : valid? (some "nobody") = none)
  have reads (cookies localArea : Entries) :
      (Storage.memory { entries := cookies } { entries := localArea }).getText .cookies key =
          .ok (cookies.get? key) ∧
        (Storage.memory { entries := cookies } { entries := localArea }).getText .localArea key =
          .ok (localArea.get? key) :=
    ⟨rfl, rfl⟩
  have loads : load.on (.memory malformed held) = (.ok (some id), .memory held held) := by
    unfold load
    rw [StorageM.on_bind_of_ok (StorageM.on_get_of_ok (reads _ _).1),
      StorageM.on_bind_of_ok (StorageM.on_get_of_ok (reads _ _).2), nobody, whole]
    rfl
  have loads' : load.on (.memory held {}) = (.ok (some id), .memory held held) := by
    unfold load
    rw [StorageM.on_bind_of_ok (StorageM.on_get_of_ok (reads _ _).1),
      StorageM.on_bind_of_ok (StorageM.on_get_of_ok (reads _ _).2), whole]
    rfl
  have recalls : (loadOrCreate fresh).on (.memory held {}) = (.ok id, .memory held held) := by
    unfold loadOrCreate
    rw [StorageM.on_bind_of_ok loads']
    rfl
  have unhindered : (Storage.memory {} {}).Unhindered := by
    intro slot held kept
    cases slot <;> cases kept <;> rfl
  have story : Story (.memory {} {}) (deeds ++ [.loadOrCreate fresh (.ok id)])
      (.memory held held) := by
    have persisted : Story (.memory {} {}) [.persist id (.ok ())] (.memory held held) :=
      .goesOn .opens (.inl rfl) ⟨valid, rfl⟩
    have damaged : Storage.Damages .cookies (.memory held held) (.memory malformed held) :=
      Storage.damages_keep (.memory held held) .cookies nobody
    have mended : Story (.memory {} {}) deeds (.memory held held) :=
      .goesOn persisted (.inr ⟨.cookies, damaged⟩) loads
    have lost : Storage.Damages .localArea (.memory held held) (.memory held {}) :=
      Storage.damages_keep (.memory held held) .localArea rfl
    exact .goesOn mended (.inr ⟨.localArea, lost⟩) ⟨⟨_, rfl⟩, recalls⟩
  exact ⟨_, unhindered, story, rfl, latest_id_survives unhindered story rfl⟩

end RememberedId

end VisitorLink
