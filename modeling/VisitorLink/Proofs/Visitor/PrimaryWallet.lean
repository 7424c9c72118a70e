import Mathlib.Data.List.Induction
import VisitorLink.Visitor.Record

/-!
# The wallet that is shown as the visitor's

Which wallet is shown is said without a search: a marked wallet in front of which none is marked
(`Visitor.Shows.marked`), or else the most recently used one of those that may stand in for it, and
of equally recent ones the last in the list (`Visitor.Shows.recent`).

Main statement: this is the wallet that `Visitor.primaryWallet?` finds, there is one unless there
are no wallets, and the order of the list matters only where wallets are marked twice or used at the
same time (`primaryWallet?_decides`).
-/

namespace VisitorLink

/-- That a wallet is the most recently used one of a list with a property, and of equally recent
ones the last. -/
structure Wallet.LeadsAmong (Counts : Wallet → Prop) (wallets : List Wallet) (wallet : Wallet) :
    Prop where
  counts : Counts wallet
  split : ∃ before after, wallets = before ++ wallet :: after ∧
    (∀ other ∈ before, Counts other → other.lastUsed.rank ≤ wallet.lastUsed.rank) ∧
    ∀ other ∈ after, Counts other → other.lastUsed.rank < wallet.lastUsed.rank

namespace Wallet.LeadsAmong

variable {Counts Counts' : Wallet → Prop} {wallets : List Wallet} {wallet other : Wallet}

theorem mem (leads : LeadsAmong Counts wallets wallet) : wallet ∈ wallets := by
  obtain ⟨before, after, rfl, _, _⟩ := leads.split
  exact List.mem_append_right _ (.head _)

/-- No wallet that counts was used after the one that leads. -/
theorem latest (leads : LeadsAmong Counts wallets wallet) (mem : other ∈ wallets)
    (counts : Counts other) : other.lastUsed.rank ≤ wallet.lastUsed.rank := by
  obtain ⟨before, after, rfl, earlier, later⟩ := leads.split
  rcases List.mem_append.1 mem with mem | mem
  · exact earlier other mem counts
  · rcases List.mem_cons.1 mem with rfl | mem
    · exact Int.le_refl _
    · exact Int.le_of_lt (later other mem counts)

/-- One wallet leads at most. -/
theorem unique (leads : LeadsAmong Counts wallets wallet)
    (leads' : LeadsAmong Counts wallets other) : wallet = other := by
  obtain ⟨before, after, split, earlier, later⟩ := leads.split
  obtain ⟨before', after', split', earlier', later'⟩ := leads'.split
  -- Of two wallets at different places, the first was used no later and the second no earlier.
  rcases List.append_eq_append_iff.1 (split.symm.trans split') with
    ⟨between, rfl, same⟩ | ⟨between, rfl, same⟩
  · cases between with
    | nil => exact (List.cons.inj same).1
    | cons first rest =>
        obtain ⟨rfl, rfl⟩ := List.cons.inj same
        have before := earlier' wallet (List.mem_append_right _ (.head _)) leads.counts
        have after := later other (List.mem_append_right _ (.head _)) leads'.counts
        exact absurd before (Int.not_le.2 after)
  · cases between with
    | nil => exact (List.cons.inj same).1.symm
    | cons first rest =>
        obtain ⟨rfl, rfl⟩ := List.cons.inj same
        have before := earlier other (List.mem_append_right _ (.head _)) leads'.counts
        have after := later' wallet (List.mem_append_right _ (.head _)) leads.counts
        exact absurd before (Int.not_le.2 after)

/-- Which wallet leads depends on which wallets of the list count. -/
theorem congr (same : ∀ wallet ∈ wallets, Counts wallet ↔ Counts' wallet)
    (leads : LeadsAmong Counts wallets wallet) : LeadsAmong Counts' wallets wallet := by
  refine ⟨(same wallet leads.mem).1 leads.counts, ?_⟩
  obtain ⟨before, after, rfl, earlier, later⟩ := leads.split
  refine ⟨before, after, rfl, fun other mem counts => ?_, fun other mem counts => ?_⟩
  · exact earlier other mem ((same other (List.mem_append_left _ mem)).2 counts)
  · exact later other mem ((same other (List.mem_append_right _ (.tail _ mem))).2 counts)

/-- Where no two wallets were used at the same time, it does not matter where in the list the one
that leads stands. -/
theorem of_latest (distinct : (wallets.map Wallet.lastUsed).Nodup) (mem : wallet ∈ wallets)
    (counts : Counts wallet)
    (latest : ∀ other ∈ wallets, Counts other → other.lastUsed.rank ≤ wallet.lastUsed.rank) :
    LeadsAmong Counts wallets wallet := by
  obtain ⟨before, after, rfl⟩ := List.append_of_mem mem
  refine ⟨counts, before, after, rfl, fun other mem => ?_, fun other mem counts => ?_⟩
  · exact latest other (List.mem_append_left _ mem)
  · rw [List.map_append, List.map_cons] at distinct
    have alone := (List.nodup_cons.1 (List.nodup_append.1 distinct).2.1).1
    have differ : other.lastUsed.rank ≠ wallet.lastUsed.rank := fun same =>
      alone (Timestamp.rank_injective same ▸ List.mem_map_of_mem mem)
    exact Int.lt_iff_le_and_ne.2
      ⟨latest other (List.mem_append_right _ (.tail _ mem)) counts, differ⟩

/-- One wallet more changes nothing unless it counts and was used no earlier. -/
theorem concat {last : Wallet} (leads : LeadsAmong Counts wallets wallet)
    (earlier : Counts last → last.lastUsed.rank < wallet.lastUsed.rank) :
    LeadsAmong Counts (wallets ++ [last]) wallet := by
  obtain ⟨counts, before, after, rfl, noLater, sooner⟩ := leads
  refine ⟨counts, before, after ++ [last], by simp, noLater, fun other mem counts => ?_⟩
  rcases List.mem_append.1 mem with mem | mem
  · exact sooner other mem counts
  · cases List.mem_singleton.1 mem
    exact earlier counts

/-- The last wallet of a list leads if it counts and none was used after it. -/
theorem last {last : Wallet} (counts : Counts last)
    (noLater : ∀ other ∈ wallets, Counts other → other.lastUsed.rank ≤ last.lastUsed.rank) :
    LeadsAmong Counts (wallets ++ [last]) last :=
  ⟨counts, wallets, [], rfl, noLater, fun _ mem => absurd mem List.not_mem_nil⟩

end Wallet.LeadsAmong

namespace Visitor

variable {wallets : List Wallet} {wallet : Wallet} {visitor other : Visitor}

/-! ## The most recently used wallet -/

/-- A wallet at the end of a list takes over unless the best one so far was used later. -/
theorem mostRecent?_concat (wallets : List Wallet) (wallet : Wallet) :
    mostRecent? (wallets ++ [wallet]) =
      match mostRecent? wallets with
      | none => some wallet
      | some best =>
          if best.lastUsed.rank ≤ wallet.lastUsed.rank then some wallet else some best := by
  rw [mostRecent?, List.foldl_append, ← mostRecent?]
  cases mostRecent? wallets <;> rfl

/-- There is a wallet used last unless there is none at all. -/
theorem mostRecent?_eq_none_iff : mostRecent? wallets = none ↔ wallets = [] := by
  induction wallets using List.reverseRecOn with
  | nil => exact ⟨fun _ => rfl, fun _ => rfl⟩
  | append_singleton wallets wallet =>
      rw [mostRecent?_concat]
      cases mostRecent? wallets with
      | none => simp
      | some best => dsimp only; split <;> simp

/-- The wallet used last of those that count leads among them. -/
theorem leadsAmong_of_mostRecent? (counts : Wallet → Bool)
    (found : mostRecent? (wallets.filter counts) = some wallet) :
    wallet.LeadsAmong (counts · = true) wallets := by
  induction wallets using List.reverseRecOn generalizing wallet with
  | nil => cases found
  | append_singleton wallets last ih =>
      rw [List.filter_append] at found
      cases counted : counts last with
      | false =>
          rw [List.filter_cons_of_neg (Bool.eq_false_iff.1 counted), List.filter_nil,
            List.append_nil] at found
          exact (ih found).concat fun counts => nomatch counted.symm.trans counts
      | true =>
          rw [List.filter_cons_of_pos counted, List.filter_nil, mostRecent?_concat] at found
          cases best : mostRecent? (wallets.filter counts) with
          | none =>
              rw [best] at found
              cases found
              refine .last counted fun other mem counts => ?_
              have none := mostRecent?_eq_none_iff.1 best
              exact absurd (List.mem_filter.2 ⟨mem, counts⟩) (none ▸ List.not_mem_nil)
          | some former =>
              rw [best] at found
              dsimp only at found
              split at found
              case isTrue noEarlier =>
                cases found
                exact .last counted fun other mem counts =>
                  Int.le_trans ((ih best).latest mem counts) noEarlier
              case isFalse earlier =>
                cases found
                exact (ih best).concat fun _ => Int.not_le.1 earlier

/-- It is the only one that leads among them. -/
theorem mostRecent?_filter_eq_some_iff (counts : Wallet → Bool) :
    mostRecent? (wallets.filter counts) = some wallet ↔
      wallet.LeadsAmong (counts · = true) wallets := by
  refine ⟨leadsAmong_of_mostRecent? counts, fun leads => ?_⟩
  cases found : mostRecent? (wallets.filter counts) with
  | none =>
      have none := mostRecent?_eq_none_iff.1 found
      exact absurd (List.mem_filter.2 ⟨leads.mem, leads.counts⟩) (none ▸ List.not_mem_nil)
  | some best => exact congrArg some ((leadsAmong_of_mostRecent? counts found).unique leads)

/-! ## The wallet that is shown -/

/-- Whether a wallet may be shown where none is marked: a verified wallet, or any if none is
verified. -/
def StandsIn (visitor : Visitor) (wallet : Wallet) : Prop :=
  wallet.verified = true ∨ ∀ other ∈ visitor.wallets, other.verified = false

/-- That a wallet is shown as the visitor's. -/
inductive Shows (visitor : Visitor) (wallet : Wallet) : Prop
  /-- The first of those that the service marks. -/
  | marked {before after : List Wallet} (split : visitor.wallets = before ++ wallet :: after)
      (marked : wallet.isPrimary = true) (first : ∀ other ∈ before, other.isPrimary = false)
  /-- None is marked, and the wallet is the one used last. -/
  | recent (unmarked : ∀ other ∈ visitor.wallets, other.isPrimary = false)
      (leads : wallet.LeadsAmong visitor.StandsIn visitor.wallets)

/-- A wallet that is shown is one of the visitor's. -/
theorem Shows.mem (shows' : visitor.Shows wallet) : wallet ∈ visitor.wallets := by
  cases shows' with
  | marked split => exact split ▸ List.mem_append_right _ (.head _)
  | recent unmarked leads => exact leads.mem

/-- The first wallet that is marked is the primary one. -/
theorem primaryWallet?_of_marked {before after : List Wallet}
    (split : visitor.wallets = before ++ wallet :: after) (marked : wallet.isPrimary = true)
    (first : ∀ other ∈ before, other.isPrimary = false) : visitor.primaryWallet? = some wallet := by
  have found : visitor.wallets.find? Wallet.isPrimary = some wallet :=
    List.find?_eq_some_iff_append.2
      ⟨marked, before, after, split, fun other mem => by rw [first other mem]; rfl⟩
  rw [primaryWallet?, found, Option.some_or]

/-- Once a wallet is verified, only verified ones stand in. -/
theorem standsIn_iff {other : Wallet} (mem : other ∈ visitor.wallets)
    (verified : other.verified = true) :
    visitor.StandsIn wallet ↔ wallet.verified = true := by
  refine ⟨fun stands => stands.resolve_right fun none => ?_, .inl⟩
  cases (none other mem).symm.trans verified

/-- Where none is marked, the primary wallet is the one that leads. -/
theorem primaryWallet?_of_unmarked
    (unmarked : ∀ other ∈ visitor.wallets, other.isPrimary = false) :
    visitor.primaryWallet? = some wallet ↔
      wallet.LeadsAmong visitor.StandsIn visitor.wallets := by
  have none : visitor.wallets.find? Wallet.isPrimary = none :=
    List.find?_eq_none.2 fun other mem marked => nomatch (unmarked other mem).symm.trans marked
  rw [primaryWallet?, none, Option.none_or]
  by_cases proved : ∃ other ∈ visitor.wallets, other.verified = true
  case pos =>
    obtain ⟨other, mem, verified⟩ := proved
    -- The search among the verified wallets finds one, so it is the last.
    have some : (mostRecent? (visitor.wallets.filter Wallet.verified)).isSome = true := by
      rw [Option.isSome_iff_ne_none, ne_eq, mostRecent?_eq_none_iff]
      exact List.ne_nil_of_mem (List.mem_filter.2 ⟨mem, verified⟩)
    rw [Option.or_of_isSome some, mostRecent?_filter_eq_some_iff]
    exact ⟨.congr fun _ _ => (standsIn_iff mem verified).symm,
      .congr fun _ _ => standsIn_iff mem verified⟩
  case neg =>
    have unverified (wallet : Wallet) (mem : wallet ∈ visitor.wallets) :
        wallet.verified = false :=
      eq_false_of_ne_true fun verified => proved ⟨wallet, mem, verified⟩
    have empty : visitor.wallets.filter Wallet.verified = [] :=
      List.filter_eq_nil_iff.2 fun wallet mem verified => proved ⟨wallet, mem, verified⟩
    have standsIn (wallet : Wallet) (mem : wallet ∈ visitor.wallets) :
        (!wallet.verified) = true ↔ visitor.StandsIn wallet :=
      ⟨fun _ => .inr unverified, fun _ => by rw [unverified wallet mem]; rfl⟩
    rw [empty, mostRecent?_eq_none_iff.2 rfl, Option.none_or, mostRecent?_filter_eq_some_iff]
    exact ⟨.congr standsIn, .congr fun wallet mem => (standsIn wallet mem).symm⟩

/-- The primary wallet is the wallet that is shown. -/
theorem primaryWallet?_eq_some_iff :
    visitor.primaryWallet? = some wallet ↔ visitor.Shows wallet := by
  constructor
  · intro found
    cases marked : visitor.wallets.find? Wallet.isPrimary with
    | some first =>
        rw [primaryWallet?, marked, Option.some_or] at found
        cases found
        obtain ⟨marked, before, after, split, unmarked⟩ := List.find?_eq_some_iff_append.1 marked
        exact .marked split marked fun other mem => by simpa using unmarked other mem
    | none =>
        have unmarked (other : Wallet) (mem : other ∈ visitor.wallets) :
            other.isPrimary = false := by
          simpa using List.find?_eq_none.1 marked other mem
        exact .recent unmarked ((primaryWallet?_of_unmarked unmarked).1 found)
  · intro shows'
    cases shows' with
    | marked split marked first => exact primaryWallet?_of_marked split marked first
    | recent unmarked leads => exact (primaryWallet?_of_unmarked unmarked).2 leads

/-- There is a primary wallet unless there is none at all. -/
theorem primaryWallet?_eq_none_iff : visitor.primaryWallet? = none ↔ visitor.wallets = [] := by
  constructor
  · intro none
    rw [primaryWallet?, Option.or_eq_none_iff, Option.or_eq_none_iff, mostRecent?_eq_none_iff,
      mostRecent?_eq_none_iff, List.filter_eq_nil_iff, List.filter_eq_nil_iff] at none
    obtain ⟨_, unverified, verified⟩ := none
    refine List.eq_nil_iff_forall_not_mem.2 fun wallet mem => ?_
    exact verified wallet mem (by simpa using unverified wallet mem)
  · intro empty
    rw [primaryWallet?, empty]
    rfl

/-! ## The order of the list -/

/-- Where at most one wallet is marked and no two were used at the same time, the order of the
wallets does not decide which one is shown. -/
theorem Shows.perm (shows' : visitor.Shows wallet) (perm : visitor.wallets.Perm other.wallets)
    (once : visitor.wallets.countP Wallet.isPrimary ≤ 1)
    (distinct : (visitor.wallets.map Wallet.lastUsed).Nodup) : other.Shows wallet := by
  have mem := perm.mem_iff.1 shows'.mem
  cases shows' with
  | marked _ marked _ =>
      obtain ⟨before, after, split⟩ := List.append_of_mem mem
      refine .marked split marked fun rival mem => ?_
      rw [perm.countP_eq, split, List.countP_append, List.countP_cons_of_pos marked] at once
      have none : before.countP Wallet.isPrimary = 0 := by omega
      exact eq_false_of_ne_true (List.countP_eq_zero.1 none rival mem)
  | recent unmarked leads =>
      have standsIn (wallet : Wallet) : visitor.StandsIn wallet ↔ other.StandsIn wallet := by
        simp only [StandsIn, perm.mem_iff]
      refine .recent (fun rival mem => unmarked rival (perm.mem_iff.2 mem)) ?_
      refine .of_latest ((perm.map _).nodup_iff.1 distinct) mem ((standsIn _).1 leads.counts) ?_
      exact fun rival mem stands => leads.latest (perm.mem_iff.2 mem) ((standsIn rival).2 stands)

/-- The wallet that is shown is the one that the rule names. There is none only for a visitor
without wallets, and a list in another order gives the same one unless wallets are marked twice or
were used at the same time. -/
theorem primaryWallet?_decides (visitor : Visitor) :
    (visitor.primaryWallet? = none ↔ visitor.wallets = []) ∧
      (∀ wallet, visitor.primaryWallet? = some wallet ↔ visitor.Shows wallet) ∧
      (visitor.wallets.countP Wallet.isPrimary ≤ 1 →
        (visitor.wallets.map Wallet.lastUsed).Nodup →
        ∀ other : Visitor, visitor.wallets.Perm other.wallets →
          other.primaryWallet? = visitor.primaryWallet?) := by
  refine ⟨primaryWallet?_eq_none_iff, fun _ => primaryWallet?_eq_some_iff, ?_⟩
  intro once distinct other perm
  cases found : visitor.primaryWallet? with
  | none =>
      have empty := primaryWallet?_eq_none_iff.1 found
      exact primaryWallet?_eq_none_iff.2 (empty ▸ perm).symm.eq_nil
  | some wallet =>
      have shown := primaryWallet?_eq_some_iff.1 found
      exact primaryWallet?_eq_some_iff.2 (shown.perm perm once distinct)

/-- Of three wallets the one used last is not verified, and the later of the other two is shown,
wherever it stands. -/
theorem later_verified_wallet_is_shown :
    ∃ (visitor other : Visitor) (shown : Wallet),
      visitor.wallets.countP Wallet.isPrimary ≤ 1 ∧
      (visitor.wallets.map Wallet.lastUsed).Nodup ∧ visitor.wallets.Perm other.wallets ∧
      visitor.wallets ≠ other.wallets ∧ visitor.primaryWallet? = some shown ∧
      other.primaryWallet? = some shown := by
  let time (second : Fin 60) : Timestamp :=
    ⟨⟨2025, 1, 1, by decide, by decide, by decide⟩, second, 0, by omega, by decide⟩
  let early : Wallet :=
    { address := "early", linkedAt := time 0, lastUsed := time 1, verified := true }
  let late : Wallet :=
    { address := "late", linkedAt := time 0, lastUsed := time 2, verified := true }
  let latest : Wallet := { address := "latest", linkedAt := time 0, lastUsed := time 3 }
  let visitor : Visitor := { id := "visitor", wallets := [early, late, latest] }
  let other : Visitor := { id := "visitor", wallets := [latest, late, early] }
  have shown : visitor.primaryWallet? = some late := by decide +kernel
  have perm : visitor.wallets.Perm other.wallets := (List.reverse_perm visitor.wallets).symm
  have once : visitor.wallets.countP Wallet.isPrimary ≤ 1 := by decide
  have distinct : (visitor.wallets.map Wallet.lastUsed).Nodup := by decide
  have same := (primaryWallet?_decides visitor).2.2 once distinct other perm
  exact ⟨visitor, other, late, once, distinct, perm, by decide, shown, same.trans shown⟩

end Visitor

end VisitorLink
