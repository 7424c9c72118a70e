import VisitorLink.Visit.Account

/-!
# Pieces of errands

`Errand.run` follows an errand up to its end or its next wait, which is one piece of it. Here stands
what the steps that errands are made of do to a piece, and `Errand.Keeps`, which says of all pieces
of an errand, whatever the answers and whatever happens during the waits, how they move the visit,
what they ask for and what they end with.
-/

namespace VisitorLink.Errand

variable {α β : Type}

/-! ## Steps -/

theorem run_visit_bind (rest : Visit → Errand β) (visit : Visit) :
    run (Errand.visit >>= rest) visit = run (rest visit) visit := rfl

theorem run_modify_bind (change : Visit → Visit) (rest : Unit → Errand β) (visit : Visit) :
    run (modify change >>= rest) visit = run (rest ()) (change visit) := rfl

theorem run_apply_bind (change : Change) (rest : Unit → Errand β) (visit : Visit) :
    run (apply change >>= rest) visit = run (rest ()) (visit.apply change) := rfl

theorem run_slots_bind (operation : StorageM α) (rest : Except StorageError α → Errand β)
    (visit : Visit) :
    run (slots operation >>= rest) visit =
      run (rest (operation.on visit.storage).1)
        { visit with storage := (operation.on visit.storage).2 } := rfl

theorem run_lookForProvider_bind (rest : Bool → Errand β) (visit : Visit) :
    run (lookForProvider >>= rest) visit =
      run (rest visit.outside.providerPresent) (visit.inquire .detect) := rfl

theorem run_isCurrent_bind (id address : String) (rest : Bool → Errand β) (visit : Visit) :
    run (isCurrent id address >>= rest) visit =
      run (rest (visit.state.isCurrent id address)) visit := rfl

theorem run_isVisitor_bind (id : String) (rest : Bool → Errand β) (visit : Visit) :
    run (isVisitor id >>= rest) visit = run (rest (visit.state.visitorId? == some id)) visit := rfl

/-- A condition is decided before the errand is run. -/
theorem run_ite (condition : Prop) [Decidable condition] (first second : Errand α) (visit : Visit) :
    run (if condition then first else second) visit =
      if condition then run first visit else run second visit := by
  split <;> rfl

/-- No time is spent on a sleep whose end has come. -/
theorem run_sleep_of_due {wakeUp : Nat} {visit : Visit} (due : wakeUp ≤ visit.clock)
    (next : Errand α) : run (.sleep wakeUp next) visit = run next visit :=
  if_pos due

/-- A sleep whose end is to come interrupts the errand. -/
theorem run_sleep_of_not_due {wakeUp : Nat} {visit : Visit} (early : ¬wakeUp ≤ visit.clock)
    (next : Errand α) : run (.sleep wakeUp next) visit = (.sleeping wakeUp next, visit) :=
  if_neg early

/-! ## One errand after another -/

/-- An errand that finishes is followed by the rest at once. -/
theorem run_bind_of_finished {errand : Errand α} {visit middle : Visit} {result : α}
    (stops : run errand visit = (.finished result, middle)) (rest : α → Errand β) :
    run (errand >>= rest) visit = run (rest result) middle := by
  rw [run_bind, stops]
  rfl

/-- An errand that stops at a call takes the rest along. -/
theorem run_bind_of_calling {errand : Errand α} {visit after : Visit} {call : Call}
    {next : call.Answer → Errand α} (stops : run errand visit = (.calling call next, after))
    (rest : α → Errand β) :
    run (errand >>= rest) visit = (.calling call fun answer => next answer >>= rest, after) := by
  rw [run_bind, stops]
  rfl

/-- Renaming the result of an errand is one more step at its end. -/
theorem map_eq_bind (rename : α → β) (errand : Errand α) :
    rename <$> errand = errand >>= fun result => pure (rename result) := rfl

/-! ## All pieces of an errand -/

section Keeps

variable (Moves : Visit → Visit → Prop) (Asks : Call → Prop)

/-- What `Keeps` says of an errand in the midst of a piece, which began with the visit `first`. -/
def KeepsFrom (Ends : α → Prop) (first : Visit) : Errand α → Visit → Prop
  | .done result, visit => Moves first visit ∧ Ends result
  | .look next, visit => KeepsFrom Ends first (next visit) visit
  | .set visit next, _ => KeepsFrom Ends first next visit
  | .call asked next, visit =>
      Moves first visit ∧ Asks asked ∧ ∀ answer later, KeepsFrom Ends later (next answer) later
  | .sleep _ next, visit =>
      Moves first visit ∧ KeepsFrom Ends first next visit ∧ ∀ later, KeepsFrom Ends later next later

/-- That every piece of an errand moves the visit in an allowed way, that the errand waits for
allowed calls only, and that it ends with allowed results only. -/
def Keeps (Ends : α → Prop) (errand : Errand α) : Prop :=
  ∀ visit, KeepsFrom Moves Asks Ends visit errand visit

variable {Moves Asks} {Ends : α → Prop} {Ends' : β → Prop} {errand : Errand α}

/-- The visit after a piece is one that the relation allows for, counted from where the errand
began. -/
theorem KeepsFrom.moves {first visit : Visit}
    (keeps : KeepsFrom Moves Asks Ends first errand visit) :
    Moves first (run errand visit).2 := by
  induction errand generalizing visit with
  | done result => exact keeps.1
  | look next ih => exact ih visit keeps
  | set changed next ih => exact ih keeps
  | call asked next ih => exact keeps.1
  | sleep wakeUp next ih =>
      by_cases due : wakeUp ≤ visit.clock
      · rw [run_sleep_of_due due]
        exact ih keeps.2.1
      · rw [run_sleep_of_not_due due]
        exact keeps.1

/-- The visit after a piece is one that the relation allows for. -/
theorem Keeps.moves (keeps : Keeps Moves Asks Ends errand) (visit : Visit) :
    Moves visit (run errand visit).2 :=
  (keeps visit).moves

/-- Where a piece stops: at an allowed result, at an allowed call or at a time. -/
theorem KeepsFrom.stops {first visit : Visit}
    (keeps : KeepsFrom Moves Asks Ends first errand visit) :
    match (run errand visit).1 with
    | .finished result => Ends result
    | .calling call next => Asks call ∧ ∀ answer, Keeps Moves Asks Ends (next answer)
    | .sleeping _ next => Keeps Moves Asks Ends next := by
  induction errand generalizing visit with
  | done result => exact keeps.2
  | look next ih => exact ih visit keeps
  | set changed next ih => exact ih keeps
  | call asked next ih => exact keeps.2
  | sleep wakeUp next ih =>
      by_cases due : wakeUp ≤ visit.clock
      · rw [run_sleep_of_due due]
        exact ih keeps.2.1
      · rw [run_sleep_of_not_due due]
        exact keeps.2.2

/-- A result is one that is allowed. -/
theorem Keeps.ends (keeps : Keeps Moves Asks Ends errand) {visit : Visit} {result : α}
    (finished : (run errand visit).1 = .finished result) : Ends result := by
  simpa only [finished] using (keeps visit).stops

/-- A call is one that is allowed, and after any answer the errand keeps on. -/
theorem Keeps.asks (keeps : Keeps Moves Asks Ends errand) {visit : Visit} {call : Call}
    {next : call.Answer → Errand α} (calling : (run errand visit).1 = .calling call next) :
    Asks call ∧ ∀ answer, Keeps Moves Asks Ends (next answer) := by
  simpa only [calling] using (keeps visit).stops

/-- After a sleep the errand keeps on. -/
theorem Keeps.sleeps (keeps : Keeps Moves Asks Ends errand) {visit : Visit} {wakeUp : Nat}
    {next : Errand α} (sleeping : (run errand visit).1 = .sleeping wakeUp next) :
    Keeps Moves Asks Ends next := by
  simpa only [sleeping] using (keeps visit).stops

/-- What `Keeps` says of what is left of an errand. -/
def StillKeeps (Moves : Visit → Visit → Prop) (Asks : Call → Prop) (Ends : α → Prop) :
    Paused α → Prop
  | .finished _ => True
  | .calling _ next => ∀ answer, Keeps Moves Asks Ends (next answer)
  | .sleeping _ next => Keeps Moves Asks Ends next

/-- What is left of an errand after a piece of it still keeps to the relation. -/
theorem Keeps.stillKeeps (keeps : Keeps Moves Asks Ends errand) (visit : Visit) :
    StillKeeps Moves Asks Ends (run errand visit).1 := by
  have stops := (keeps visit).stops
  generalize (run errand visit).1 = paused at stops
  cases paused with
  | finished result => trivial
  | calling call next => exact stops.2
  | sleeping wakeUp next => exact stops

/-- A piece may be looked at from an earlier moment on. -/
theorem KeepsFrom.from_earlier (trans : ∀ first middle last, Moves first middle →
      Moves middle last → Moves first last)
    {first middle visit : Visit} (before : Moves first middle)
    (keeps : KeepsFrom Moves Asks Ends middle errand visit) :
    KeepsFrom Moves Asks Ends first errand visit := by
  induction errand generalizing visit with
  | done result => exact ⟨trans _ _ _ before keeps.1, keeps.2⟩
  | look next ih => exact ih visit keeps
  | set changed next ih => exact ih keeps
  | call asked next ih => exact ⟨trans _ _ _ before keeps.1, keeps.2⟩
  | sleep wakeUp next ih => exact ⟨trans _ _ _ before keeps.1, ih keeps.2.1, keeps.2.2⟩

/-- One errand after another, where what the second one does may depend on what the first one may
end with. -/
theorem Keeps.bind (trans : ∀ first middle last, Moves first middle → Moves middle last →
      Moves first last)
    {rest : α → Errand β} (keeps : Keeps Moves Asks Ends errand)
    (after : ∀ result, Ends result → Keeps Moves Asks Ends' (rest result)) :
    Keeps Moves Asks Ends' (errand >>= rest) := by
  suffices bound : ∀ first visit, KeepsFrom Moves Asks Ends first errand visit →
      KeepsFrom Moves Asks Ends' first (errand.bind rest) visit from
    fun visit => bound visit visit (keeps visit)
  -- The rest of a piece is in the midst of it, so the induction is over all first visits.
  clear keeps
  intro first visit keeps
  induction errand generalizing first visit with
  | done result => exact (after result keeps.2 visit).from_earlier trans keeps.1
  | look next ih => exact ih visit first visit keeps
  | set changed next ih => exact ih first changed keeps
  | call asked next ih =>
      exact ⟨keeps.1, keeps.2.1, fun answer later => ih answer later later (keeps.2.2 answer later)⟩
  | sleep wakeUp next ih =>
      exact ⟨keeps.1, ih first visit keeps.2.1, fun later => ih later later (keeps.2.2 later)⟩

/-- Moves, calls and results may be described more loosely. -/
theorem Keeps.mono {Moves' : Visit → Visit → Prop} {Asks' : Call → Prop} {Ends' : α → Prop}
    (keeps : Keeps Moves Asks Ends errand)
    (moves : ∀ before after, Moves before after → Moves' before after)
    (asks : ∀ call, Asks call → Asks' call) (ends : ∀ result, Ends result → Ends' result) :
    Keeps Moves' Asks' Ends' errand := by
  suffices loose : ∀ first visit, KeepsFrom Moves Asks Ends first errand visit →
      KeepsFrom Moves' Asks' Ends' first errand visit from
    fun visit => loose visit visit (keeps visit)
  clear keeps
  intro first visit keeps
  induction errand generalizing first visit with
  | done result => exact ⟨moves _ _ keeps.1, ends _ keeps.2⟩
  | look next ih => exact ih visit first visit keeps
  | set changed next ih => exact ih first changed keeps
  | call asked next ih =>
      exact ⟨moves _ _ keeps.1, asks _ keeps.2.1,
        fun answer later => ih answer later later (keeps.2.2 answer later)⟩
  | sleep wakeUp next ih =>
      exact ⟨moves _ _ keeps.1, ih first visit keeps.2.1,
        fun later => ih later later (keeps.2.2 later)⟩

/-! ### The steps -/

/-- A result that is allowed keeps to every reflexive relation. -/
theorem keeps_done (same : ∀ visit, Moves visit visit) {result : α} (allowed : Ends result) :
    Keeps Moves Asks Ends (.done result) :=
  fun visit => ⟨same visit, allowed⟩

/-- A look keeps to a relation if what follows does, whatever is seen. -/
theorem keeps_look {next : Visit → Errand α} (keeps : ∀ seen, Keeps Moves Asks Ends (next seen)) :
    Keeps Moves Asks Ends (.look next) :=
  fun visit => keeps visit visit

/-- A step keeps to a relation that allows for it. -/
theorem keeps_act {change : Visit → α × Visit} (moves : ∀ visit, Moves visit (change visit).2)
    (allowed : ∀ visit, Ends (change visit).1) :
    Keeps Moves Asks Ends (Procedure.act change : Errand α) :=
  fun visit => ⟨moves visit, allowed visit⟩

/-- A call keeps to a relation that allows for an inquiry. -/
theorem keeps_ask (noted : ∀ visit inquiry, Moves visit (visit.inquire inquiry))
    (same : ∀ visit, Moves visit visit) {asked : Call} (allowed : Asks asked) :
    Keeps Moves Asks (fun _ => True) (ask asked) :=
  fun visit => ⟨noted visit _, allowed, fun _ later => ⟨same later, trivial⟩⟩

/-- A sleep keeps to every reflexive relation. -/
theorem keeps_sleep (same : ∀ visit, Moves visit visit) (wakeUp : Nat) :
    Keeps Moves Asks (fun _ => True) (.sleep wakeUp (.done ()) : Errand Unit) :=
  fun visit => ⟨same visit, ⟨same visit, trivial⟩, fun later => ⟨same later, trivial⟩⟩

/-! ### Steps in the midst of a piece -/

variable {first visit : Visit}

theorem keepsFrom_visit_bind {rest : Visit → Errand β} :
    KeepsFrom Moves Asks Ends' first (Errand.visit >>= rest) visit ↔
      KeepsFrom Moves Asks Ends' first (rest visit) visit := Iff.rfl

theorem keepsFrom_apply_bind {change : Change} {rest : Unit → Errand β} :
    KeepsFrom Moves Asks Ends' first (apply change >>= rest) visit ↔
      KeepsFrom Moves Asks Ends' first (rest ()) (visit.apply change) := Iff.rfl

theorem keepsFrom_track_bind {change : Tracker → Tracker} {rest : Unit → Errand β} :
    KeepsFrom Moves Asks Ends' first (track change >>= rest) visit ↔
      KeepsFrom Moves Asks Ends' first (rest ())
        { visit with tracker := change visit.tracker } := Iff.rfl

theorem keepsFrom_lookForProvider_bind {rest : Bool → Errand β} :
    KeepsFrom Moves Asks Ends' first (lookForProvider >>= rest) visit ↔
      KeepsFrom Moves Asks Ends' first (rest visit.outside.providerPresent)
        (visit.inquire .detect) := Iff.rfl

theorem keepsFrom_shownIf_bind {present : Bool} {rest : Option String → Errand β} :
    KeepsFrom Moves Asks Ends' first (shownIf present >>= rest) visit ↔
      KeepsFrom Moves Asks Ends' first
        (rest (if present then visit.shownAddress? else none)) visit := Iff.rfl

end Keeps

end VisitorLink.Errand
