import Mathlib.Data.List.Nodup
import VisitorLink.Proofs.Visit.Linking
import VisitorLink.Proofs.Visitor.PrimaryWallet

/-!
# A visit whose visitor is known before it starts

A visit that starts with a visitor it knows counts their primary wallet as connected before anybody
has looked. It stands where a visit arrives that loads the record first and connects the wallet
then, unless the record holds several wallets with the address and the first of them is verified
where the primary one is not, or the other way round (`State.hydrated_eq_arrived_iff`).

Main statement: with one wallet for each address both are the same state, and finding the primary
wallet at the provider leaves it as it is (`State.hydrated_is_where_loading_arrives`).
-/

namespace VisitorLink

namespace Visitor

variable {visitor : Visitor} {wallet : Wallet}

/-- A wallet is found by its address if no other one has it. -/
theorem wallet?_of_mem (distinct : (visitor.wallets.map Wallet.address).Nodup)
    (mem : wallet ∈ visitor.wallets) : visitor.wallet? wallet.address = some wallet := by
  have listed : (visitor.wallet? wallet.address).isSome = true :=
    List.find?_isSome.2 ⟨wallet, mem, beq_self_eq_true wallet.address⟩
  obtain ⟨found, finds⟩ := Option.isSome_iff_exists.1 listed
  have same : found.address = wallet.address := by simpa using List.find?_some finds
  have mem' : found ∈ visitor.wallets := List.mem_of_find?_eq_some finds
  rw [finds, List.inj_on_of_nodup_map distinct mem' mem same]

end Visitor

namespace State

variable {visitor : Visitor} {wallet : Wallet}

/-- The state in which a visit arrives that loads the record of its visitor and connects their
primary wallet then. -/
def arrived (visitor : Visitor) : State :=
  let loaded := State.apply {} (.load visitor)
  visitor.primaryWallet?.elim loaded fun wallet => loaded.apply (.connect wallet.address)

theorem arrived_of_none (none : visitor.primaryWallet? = none) :
    arrived visitor = State.apply {} (.load visitor) := by
  rw [arrived, none, Option.elim_none]

theorem arrived_of_some (primary : visitor.primaryWallet? = some wallet) :
    arrived visitor = (State.apply {} (.load visitor)).apply (.connect wallet.address) := by
  rw [arrived, primary, Option.elim_some]

/-- Both ways lead to the same state just if the record says the same of the primary wallet and of
its address. -/
theorem hydrated_eq_arrived_iff :
    hydrated visitor = arrived visitor ↔
      ∀ wallet ∈ visitor.primaryWallet?, visitor.hasVerified wallet.address = wallet.verified := by
  cases primary : visitor.primaryWallet? with
  | none =>
      rw [arrived_of_none primary, hydrated, apply, hydrate, primary]
      exact ⟨fun _ _ mem => (nomatch mem), fun _ => rfl⟩
  | some wallet =>
      rw [arrived_of_some primary, hydrated, apply, hydrate, primary]
      constructor
      · rintro same _ ⟨⟩
        exact (congrArg (fun state => state.connection.verified) same).symm
      · intro agrees
        have verified : wallet.verified = visitor.hasVerified wallet.address :=
          (agrees wallet rfl).symm
        simp only [Option.map_some, Option.isSome_some, Option.any_some, verified]
        rfl

/-- Connecting the connected wallet again makes no difference, also in the course of a check. -/
theorem connect_check_connect (state : State) (address : String) :
    ((state.connect address).apply .check).connect address = state.connect address := by
  simp only [apply, connect, if_true]

end State

namespace Errand

/-- A check that finds an address connects it. -/
theorem run_checkShown_of_shown {visit : Visit} {address : String}
    (present : visit.outside.providerPresent = true)
    (shown : visit.shownAddress? = some address) :
    run checkShown visit = (.finished (some address),
      (((visit.apply .check).inquire .detect).apply (.connect address))) := by
  let checking := visit.apply .check
  have seen : (if checking.outside.providerPresent then (checking.inquire .detect).shownAddress?
      else none) = some address := (if_pos present).trans shown
  unfold checkShown
  rw [run_apply_bind, run_lookForProvider_bind, run_shownIf_bind, seen]
  rfl

end Errand

namespace State

open Errand

/-- A visit that starts with a visitor it knows is in the state that loading their record and
connecting their primary wallet lead to, and a check that finds this wallet at the provider leaves
the visit as it is, but for the look itself. -/
theorem hydrated_is_where_loading_arrives {visitor : Visitor}
    (distinct : (visitor.wallets.map Wallet.address).Nodup) :
    hydrated visitor = arrived visitor ∧
      ∀ wallet ∈ visitor.primaryWallet?, ∀ visit : Visit, visit.state = hydrated visitor →
        visit.outside.providerPresent = true → visit.shownAddress? = some wallet.address →
          run checkShown visit = (.finished (some wallet.address), visit.inquire .detect) := by
  have same : hydrated visitor = arrived visitor := by
    refine hydrated_eq_arrived_iff.2 fun wallet primary => ?_
    have mem := (Visitor.primaryWallet?_eq_some_iff.1 primary).mem
    rw [Visitor.hasVerified, Visitor.wallet?_of_mem distinct mem, Option.any_some]
  refine ⟨same, fun wallet primary visit stands present shown => ?_⟩
  have settled : (visit.state.apply .check).connect wallet.address = visit.state := by
    rw [stands, same, arrived_of_some primary]
    exact connect_check_connect _ wallet.address
  have unchanged : ((visit.apply .check).inquire .detect).apply (.connect wallet.address) =
      visit.inquire .detect :=
    congrArg (fun state => { visit.inquire .detect with state := state }) settled
  rw [run_checkShown_of_shown present shown, unchanged]

/-- Of two wallets the marked one is verified, and the provider shows it. -/
theorem hydrated_with_marked_wallet :
    ∃ (visitor : Visitor) (marked : Wallet) (visit : Visit),
      (visitor.wallets.map Wallet.address).Nodup ∧ visitor.primaryWallet? = some marked ∧
      visit.state = hydrated visitor ∧ visit.state = arrived visitor ∧
      visit.state.connection.verified = true ∧
      run checkShown visit = (.finished (some marked.address), visit.inquire .detect) := by
  let time : Timestamp :=
    ⟨⟨2025, 1, 1, by decide, by decide, by decide⟩, 0, 0, by decide, by decide⟩
  let marked : Wallet :=
    { address := "Marked", linkedAt := time, lastUsed := time, verified := true, isPrimary := true }
  let visitor : Visitor :=
    { id := "visitor"
      wallets := [{ address := "First", linkedAt := time, lastUsed := time }, marked] }
  let visit : Visit :=
    { outside := { providerAddress := some "Marked", random := Vector.replicate 16 0 }
      state := hydrated visitor }
  have distinct : (visitor.wallets.map Wallet.address).Nodup := by decide
  have shown : visit.shownAddress? = some marked.address := by decide +kernel
  obtain ⟨same, stays⟩ := hydrated_is_where_loading_arrives distinct
  exact ⟨visitor, marked, visit, distinct, rfl, rfl, same, rfl,
    stays marked rfl visit rfl rfl shown⟩

end State

end VisitorLink
