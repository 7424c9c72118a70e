import Mathlib.Data.List.Basic
import VisitorLink.Proofs.Visit.Linking
import VisitorLink.Visit.Operation

/-!
# Polling look by look

Polling looks for the provider and sleeps, in turns. Whatever becomes of the visit while it sleeps,
a look concerns the visit as it is at that moment only: it comes upon a connected wallet, or finds
one at the provider, or is in vain (`Look.Brings`).

Main statement: looks that polling makes whenever it is woken on time are `Paced`: there are no more
of them than attempts, each is made at its time, and all but the last are in vain (`Paced.start`,
`Paced.wake`).
-/

namespace VisitorLink

/-- That the provider is there and shows an address. -/
structure Visit.ShowsWallet (visit : Visit) (address : String) : Prop where
  present : visit.outside.providerPresent = true
  reported : visit.outside.providerAddress = some address
  wellFormed : Address.WellFormed address

/-- A look in the course of polling, by the visits before and after it. -/
structure Look where
  before : Visit
  after : Visit

namespace Look

/-- That a wallet was connected already, so that nothing is done. -/
structure IsSpared (look : Look) : Prop where
  connected : look.before.state.address?.isSome = true
  untouched : look.after = look.before

/-- That the address that the provider shows is connected, where none was before. -/
structure Finds (look : Look) (address : String) : Prop where
  unconnected : look.before.state.address? = none
  found : look.before.ShowsWallet address
  connects : look.after.state.address? = some address
  status : look.after.state.connection.status = .connected

/-- That no wallet is connected and the provider shows none either. -/
structure IsVain (look : Look) : Prop where
  unconnected : look.before.state.address? = none
  hidden : ∀ address, ¬ look.before.ShowsWallet address
  notes : look.after.state.connection.detected = look.before.outside.providerPresent

/-- What comes of a look. -/
inductive Brings (look : Look) : PollOutcome → Prop
  | spared (spared : look.IsSpared) : Brings look .alreadyConnected
  | found {address : String} (finds : look.Finds address) : Brings look (.addressFound address)
  | vain (vain : look.IsVain) : Brings look (.exhausted look.before.outside.providerPresent)

/-- That no time passes and nothing is asked, save whether the provider is there when no wallet is
connected. -/
structure IsDiscreet (look : Look) : Prop where
  clock : look.after.clock = look.before.clock
  journal : look.after.journal = look.before.journal ++
    if look.before.state.address?.isSome then [] else [⟨look.before.clock, .detect⟩]

end Look

namespace Errand

variable {α : Type} {visit after : Visit} {outcome : PollOutcome} {paused : Paused Outcome}
  {opening interval attempts tick : Nat} {looks : List Look}

/-! ## One look -/

/-- The presence of the provider is noted whether or not it is news. -/
theorem run_detect_bind (rest : Bool → Errand α) (visit : Visit) :
    run (detect >>= rest) visit = run (rest visit.outside.providerPresent)
      ((visit.inquire .detect).apply (.detect visit.outside.providerPresent)) := by
  unfold detect
  rw [bind_assoc, run_lookForProvider_bind, bind_assoc, run_visit_bind]
  dsimp only
  split
  case isTrue news => rfl
  case isFalse known =>
    have same : (visit.inquire .detect).apply (.detect visit.outside.providerPresent) =
        visit.inquire .detect := by
      have present : visit.state.connection.detected = visit.outside.providerPresent := by
        simpa [Visit.inquire] using known
      rw [Visit.apply, State.apply, ← present]
      rfl
    rw [same]
    rfl

/-- What is found is an address that the provider shows while it is there. -/
theorem shownIf_eq_some_iff {address : String} :
    (if visit.outside.providerPresent then visit.shownAddress? else none) = some address ↔
      visit.ShowsWallet address := by
  rw [Visit.shownAddress?, Address.shown?]
  constructor
  · intro shown
    split at shown
    case isTrue present =>
      obtain ⟨reported, wellFormed⟩ := Option.filter_eq_some_iff.1 shown
      exact ⟨present, reported, of_decide_eq_true wellFormed⟩
    case isFalse => cases shown
  · rintro ⟨present, reported, wellFormed⟩
    rw [if_pos present, reported, Option.filter_some, if_pos (decide_eq_true wellFormed)]

/-- A look never waits. -/
theorem run_pollOnce_bind (rest : PollOutcome → Errand α) (visit : Visit) :
    ∃ outcome after, Look.Brings ⟨visit, after⟩ outcome ∧ Look.IsDiscreet ⟨visit, after⟩ ∧
      run (pollOnce >>= rest) visit = run (rest outcome) after := by
  unfold pollOnce
  rw [bind_assoc, run_visit_bind]
  cases connected : visit.state.address? with
  | some address =>
      have isSome : visit.state.address?.isSome = true := connected ▸ rfl
      exact ⟨_, visit, .spared ⟨isSome, rfl⟩, ⟨rfl, by simp [isSome]⟩, rfl⟩
  | none =>
      simp only [Option.isSome_none, Bool.false_eq_true, if_false]
      rw [bind_assoc, run_detect_bind, bind_assoc, run_shownIf_bind]
      let noted := (visit.inquire .detect).apply (.detect visit.outside.providerPresent)
      rw [show noted.shownAddress? = visit.shownAddress? from rfl]
      have discreet (visit' : Visit) (clock : visit'.clock = visit.clock)
          (journal : visit'.journal = visit.journal ++ [⟨visit.clock, .detect⟩]) :
          Look.IsDiscreet ⟨visit, visit'⟩ := ⟨clock, by rw [journal, connected]; rfl⟩
      cases shown : (if visit.outside.providerPresent then visit.shownAddress? else none) with
      | some address =>
          have found := shownIf_eq_some_iff.1 shown
          refine ⟨_, noted.apply (.connect address), .found ⟨connected, found, rfl, rfl⟩,
            discreet _ rfl rfl, ?_⟩
          rfl
      | none =>
          refine ⟨_, noted, .vain ⟨connected, fun address found => ?_, rfl⟩,
            discreet _ rfl rfl, rfl⟩
          cases shown.symm.trans (shownIf_eq_some_iff.2 found)

/-! ## From look to look -/

/-- What polling does after a look, if so many attempts are left. -/
def pollOn (opening interval attempts tick : Nat) : PollOutcome → Errand PollOutcome
  | .exhausted present => pollFrom opening interval attempts (tick + 1) present
  | outcome => pure outcome

/-- Polling from one of its looks on. The looks are counted from zero. -/
def pollAt (opening interval attempts tick : Nat) : Errand Outcome :=
  pollOnce >>= fun outcome =>
    Outcome.poll <$> pollOn opening interval (attempts - (tick + 1)) tick outcome

theorem map_pollFrom_succ (opening interval left tick : Nat) (last : Bool) :
    Outcome.poll <$> pollFrom opening interval (left + 1) tick last =
      .sleep (opening + tick * interval)
        (pollOnce >>= fun outcome =>
          Outcome.poll <$> pollOn opening interval left tick outcome) := by
  have goesOn : pollFrom opening interval (left + 1) tick last =
      .sleep (opening + tick * interval) (pollOnce >>= pollOn opening interval left tick) := by
    have after : (fun outcome => pollOn opening interval left tick outcome) = fun outcome =>
        match outcome with
        | .exhausted present => pollFrom opening interval left (tick + 1) present
        | outcome => pure outcome := by
      funext outcome
      cases outcome <;> rfl
    exact congrArg (fun rest => Procedure.sleep _ (pollOnce >>= rest)) after.symm
  rw [goesOn, ← map_bind]
  rfl

/-- How polling stands after so many looks, by what the last one brought. -/
inductive Rests (opening interval attempts done : Nat) : PollOutcome → Paused Outcome → Prop
  | ends {outcome : PollOutcome}
      (used : ∀ present, outcome = .exhausted present → done = attempts) :
      Rests opening interval attempts done outcome (.finished (.poll outcome))
  | sleeps {present : Bool} (left : done < attempts) :
      Rests opening interval attempts done (.exhausted present)
        (.sleeping (opening + done * interval) (pollAt opening interval attempts done))

theorem run_pollOn (left : tick < attempts) (early : visit.clock < opening + (tick + 1) * interval)
    (outcome : PollOutcome) :
    ∃ paused, Rests opening interval attempts (tick + 1) outcome paused ∧
      run (Outcome.poll <$> pollOn opening interval (attempts - (tick + 1)) tick outcome) visit =
        (paused, visit) := by
  cases outcome with
  | exhausted present =>
      cases more : attempts - (tick + 1) with
      | zero => exact ⟨_, .ends fun _ _ => by omega, rfl⟩
      | succ left =>
          refine ⟨_, .sleeps (by omega), ?_⟩
          rw [pollOn, map_pollFrom_succ, run_sleep_of_not_due (Nat.not_le.2 early), pollAt]
          rw [show attempts - (tick + 1 + 1) = left by omega]
  | alreadyConnected | addressFound address => exact ⟨_, .ends nofun, rfl⟩

/-- Polling that goes on at the time of one of its looks makes that look and no other. -/
theorem run_pollAt (positive : 0 < interval) (left : tick < attempts)
    (onTime : visit.clock = opening + tick * interval) :
    ∃ outcome after paused, Look.Brings ⟨visit, after⟩ outcome ∧
      Look.IsDiscreet ⟨visit, after⟩ ∧ Rests opening interval attempts (tick + 1) outcome paused ∧
      run (pollAt opening interval attempts tick) visit = (paused, after) := by
  obtain ⟨outcome, after, brings, discreet, runs⟩ := run_pollOnce_bind
    (fun outcome => Outcome.poll <$> pollOn opening interval (attempts - (tick + 1)) tick outcome)
    visit
  have early : after.clock < opening + (tick + 1) * interval := by
    rw [show after.clock = visit.clock from discreet.clock, onTime, Nat.succ_mul]
    omega
  obtain ⟨paused, rests, stays⟩ := run_pollOn left early outcome
  exact ⟨outcome, after, paused, brings, discreet, rests, runs.trans stays⟩

/-- Polling starts with a look. -/
theorem run_poll (some : 0 < attempts) (interval : Nat) (visit : Visit) :
    run (Operation.poll attempts interval).errand visit =
      run (pollAt visit.clock interval attempts 0) visit := by
  obtain ⟨left, rfl⟩ := Nat.exists_eq_succ_of_ne_zero (Nat.ne_of_gt some)
  have starts : run (Operation.poll (left + 1) interval).errand visit =
      run (Outcome.poll <$> pollFrom visit.clock interval (left + 1) 0 false)
        visit := rfl
  have due : visit.clock + 0 * interval ≤ visit.clock := by omega
  rw [starts, map_pollFrom_succ, run_sleep_of_due due]
  rfl

/-! ## All looks -/

/-- That looks were made one by one at the times of a timer, all but the last in vain. -/
structure Paced (opening interval attempts : Nat) (looks : List Look) (paused : Paused Outcome) :
    Prop where
  bounded : looks.length ≤ attempts
  onTime : ∀ tick look, looks[tick]? = some look → look.before.clock = opening + tick * interval
  discreet : ∀ look ∈ looks, look.IsDiscreet
  vain : ∀ look ∈ looks.dropLast, look.IsVain
  rests : ∃ look outcome, looks.getLast? = some look ∧ look.Brings outcome ∧
    Rests opening interval attempts looks.length outcome paused

/-- One more look at its time, after looks in vain, keeps the pace. -/
theorem Paced.look (positive : 0 < interval) (left : looks.length < attempts)
    (onTime : ∀ tick look, looks[tick]? = some look → look.before.clock = opening + tick * interval)
    (discreet : ∀ look ∈ looks, look.IsDiscreet) (vain : ∀ look ∈ looks, look.IsVain)
    (now : visit.clock = opening + looks.length * interval)
    (stops : run (pollAt opening interval attempts looks.length) visit = (paused, after)) :
    Paced opening interval attempts (looks ++ [⟨visit, after⟩]) paused := by
  obtain ⟨outcome, after', paused', brings, quiet, rests, runs⟩ := run_pollAt positive left now
  cases stops.symm.trans runs
  exact {
    bounded := by
      rw [List.length_append, List.length_singleton]
      exact left
    onTime := fun tick look at' => by
      rw [List.getElem?_append] at at'
      split at at'
      case isTrue earlier => exact onTime tick look at'
      case isFalse last =>
        obtain ⟨here, rfl⟩ := List.getElem?_eq_some_iff.1 at'
        have last : tick = looks.length := by
          rw [List.length_singleton] at here
          omega
        subst last
        simpa using now
    discreet := List.forall_mem_append.2 ⟨discreet, List.forall_mem_singleton.2 quiet⟩
    vain := by rwa [List.dropLast_concat]
    rests := ⟨_, outcome, List.getLast?_concat, brings, by simpa using rests⟩ }

theorem Paced.start {interval : Nat} (positive : 0 < interval) (some : 0 < attempts)
    (stops : run (Operation.poll attempts interval).errand visit = (paused, after)) :
    Paced visit.clock interval attempts [⟨visit, after⟩] paused := by
  show Paced visit.clock interval attempts ([] ++ [⟨visit, after⟩]) paused
  refine Paced.look positive some (fun _ _ => nofun)
    (fun _ mem => absurd mem List.not_mem_nil) (fun _ mem => absurd mem List.not_mem_nil) ?_ ?_
  · simp
  · exact (run_poll some interval visit).symm.trans stops

/-- Polling is only ever woken after looks in vain. -/
theorem Paced.wake {wakeUp : Nat} {next : Errand Outcome} (positive : 0 < interval)
    (paced : Paced opening interval attempts looks (.sleeping wakeUp next))
    (now : visit.clock = wakeUp) (stops : run next visit = (paused, after)) :
    Paced opening interval attempts (looks ++ [⟨visit, after⟩]) paused := by
  obtain ⟨last, outcome, final, brings, rests⟩ := paced.rests
  cases rests with
  | sleeps left =>
      have vain : last.IsVain := by
        cases brings
        assumption
      have split : looks = looks.dropLast ++ [last] :=
        (List.dropLast_append_getLast? last final).symm
      refine Paced.look positive left paced.onTime paced.discreet ?_ now stops
      rw [split]
      exact List.forall_mem_append.2 ⟨paced.vain, List.forall_mem_singleton.2 vain⟩

end Errand

end VisitorLink
