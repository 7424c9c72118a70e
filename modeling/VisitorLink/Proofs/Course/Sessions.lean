import Mathlib.Logic.Relation
import VisitorLink.Proofs.Course.Reports

/-!
# The sessions of a course

What the service is told of sessions falls into the sessions themselves: each begins with the
request to start it, and what is told until the next one starts belongs to it. A ledger keeps the
sessions together with the tracker and with how far the present start is. If no two starts overlap,
the ledger of a course moves with it in steps of a few kinds.

Main statement: every move of a ledger keeps it `Sound`, so that no session ends twice and only the
last one may go on (`Ledger.Moves.sound`).
-/

namespace VisitorLink

/-- Whether an inquiry ends a session. -/
def Inquiry.isEnding : Inquiry → Bool
  | .endBeacon _ | .call (.service (.endSession _)) => true
  | _ => false

/-- The end of a session is told by an inquiry that ends one. -/
theorem Outside.ending_isEnding (outside : Outside) (id : String) :
    (outside.ending id).isEnding = true := by
  unfold ending
  split <;> rfl

/-- It ends the session of its visitor. -/
theorem Outside.ending_endsSession (outside : Outside) (id : String) :
    (outside.ending id).endsSession id = true := by
  unfold ending
  split <;> exact beq_self_eq_true id

/-- What ends the session of a visitor ends a session. -/
theorem Inquiry.isEnding_of_endsSession {inquiry : Inquiry} {id : String}
    (ends : inquiry.endsSession id = true) : inquiry.isEnding = true := by
  cases inquiry with
  | call asked =>
      cases asked with
      | provider call => cases ends
      | service call => cases call <;> first | rfl | cases ends
  | detect => cases ends
  | endBeacon ended => rfl

/-! ## Sessions -/

/-- A session as the service sees it. -/
structure Session where
  /-- The number of the operation that starts the session. -/
  number : Nat
  visitor : String
  request : StartRequest
  context : PageContext
  /-- Whether the start was accepted, once it has been answered. -/
  accepted : Option Bool := none
  /-- What was told from the start on until the next one, oldest first. -/
  reports : List Inquiry := []

namespace Session

/-- All that was told of a session. -/
def inquiries (session : Session) : List Inquiry :=
  .call (.service (.startSession session.visitor session.request)) :: session.reports

/-- The ends among what was told. -/
def endings (session : Session) : List Inquiry :=
  session.reports.filter Inquiry.isEnding

/-- That a session was refused, or accepted and ended once. -/
def Over (session : Session) : Prop :=
  session.accepted = some false ∨ session.accepted = some true ∧ session.endings.length = 1

/-- That a session ends once at most, and as that of its visitor. -/
structure EndsOnce (session : Session) : Prop where
  once : session.endings.length ≤ 1
  own : ∀ ending ∈ session.endings, ending.endsSession session.visitor = true

/-- The session after something more was told. -/
def tell (told : List Inquiry) (session : Session) : Session :=
  { session with reports := session.reports ++ told }

/-- A session of which nothing more is told is the same. -/
theorem tell_nil (session : Session) : session.tell [] = session := by
  rw [tell, List.append_nil]

/-- The ends among what is told in addition come last. -/
theorem endings_tell (told : List Inquiry) (session : Session) :
    (session.tell told).endings = session.endings ++ told.filter Inquiry.isEnding :=
  List.filter_append _ _

/-- Where no end is told, there are as many ends as before. -/
theorem endings_tell_of_none {told : List Inquiry}
    (none : ∀ inquiry ∈ told, inquiry.isEnding = false) (session : Session) :
    (session.tell told).endings = session.endings := by
  rw [endings_tell, List.filter_eq_nil_iff.2 (by simpa using none), List.append_nil]

/-- An end that is told is one more. -/
theorem endings_tell_ending (outside : Outside) (id : String) (session : Session) :
    (session.tell [outside.ending id]).endings = session.endings ++ [outside.ending id] := by
  rw [endings_tell, List.filter_cons_of_pos (outside.ending_isEnding id)]
  rfl

/-- A session ends once while no further end is told. -/
theorem EndsOnce.tell {session : Session} (ends : session.EndsOnce) {told : List Inquiry}
    (none : ∀ inquiry ∈ told, inquiry.isEnding = false) : (session.tell told).EndsOnce where
  once := (endings_tell_of_none none session).symm ▸ ends.once
  own := (endings_tell_of_none none session).symm ▸ ends.own

/-- A session that is over stays so while no end is told. -/
theorem Over.tell {session : Session} (past : session.Over) {told : List Inquiry}
    (none : ∀ inquiry ∈ told, inquiry.isEnding = false) : (session.tell told).Over := by
  rw [Over, endings_tell_of_none none]
  exact past

/-- A session that goes on may be ended. -/
theorem endsOnce_tell_ending {session : Session} (goesOn : session.endings.length = 0)
    (outside : Outside) : (session.tell [outside.ending session.visitor]).EndsOnce where
  once := by
    rw [endings_tell_ending, List.length_append, goesOn]
    exact Nat.le_refl 1
  own ending mem := by
    rw [endings_tell_ending, List.eq_nil_of_length_eq_zero goesOn] at mem
    cases List.mem_singleton.1 mem
    exact outside.ending_endsSession session.visitor

/-- What is told in addition belongs to the last session. The sessions are listed newest first. -/
def tellLast (told : List Inquiry) (sessions : List Session) : List Session :=
  sessions.modifyHead (tell told)

/-- The start of the last session is answered. -/
def answerLast (accepted : Bool) (sessions : List Session) : List Session :=
  sessions.modifyHead fun last => { last with accepted := some accepted }

/-- Nothing told is told of no session. -/
theorem tellLast_nil (sessions : List Session) : tellLast [] sessions = sessions := by
  cases sessions with
  | nil => rfl
  | cons last earlier => exact congrArg (· :: earlier) (tell_nil last)

/-- Telling something makes no session. -/
theorem tellLast_eq_nil_iff {told : List Inquiry} {sessions : List Session} :
    tellLast told sessions = [] ↔ sessions = [] := by
  cases sessions <;> simp [tellLast]

/-- What a change of the last session leaves alone stays the same for all sessions. -/
theorem map_modifyHead {α : Type} {change : Session → Session} {view : Session → α}
    (same : ∀ session, view (change session) = view session) (sessions : List Session) :
    (sessions.modifyHead change).map view = sessions.map view := by
  cases sessions with
  | nil => rfl
  | cons last earlier => exact congrArg (· :: earlier.map view) (same last)

end Session

/-! ## Ledgers -/

/-- The sessions so far, newest first, with the tracker and with how far the present start is, which
the operation of the given number makes. -/
structure Ledger where
  tracker : Tracker := {}
  number : Nat := 0
  phase : Phase := .aside
  sessions : List Session := []

namespace Ledger

open Session

/-- What becomes of a ledger when something is told, where the tracker may be used during a start
only if this may be interrupted. -/
inductive Moves (outside : Outside) (interrupts : Prop) (before : Ledger) :
    List Inquiry → Ledger → Prop
  | idle {told : List Inquiry} {tracker : Tracker} (idles : before.tracker.Idles told tracker) :
      Moves outside interrupts before told
        { before with tracker := tracker, sessions := tellLast told before.sessions }
  | act {told : List Inquiry} {tracker : Tracker} (free : before.phase = .aside ∨ interrupts)
      (acts : before.tracker.Acts outside .go told tracker .aside) :
      Moves outside interrupts before told
        { before with tracker := tracker, sessions := tellLast told before.sessions }
  | takeUp {told : List Inquiry} {tracker : Tracker} {id : String} {context : PageContext}
      (number : Nat) (free : before.phase = .aside)
      (acts : before.tracker.Acts outside .go told tracker (.closing id context)) :
      Moves outside interrupts before told
        { tracker := tracker
          number := number
          phase := .closing id context
          sessions := tellLast told before.sessions }
  | begin {id : String} {context : PageContext} (request : StartRequest)
      (pending : before.phase = .closing id context) :
      Moves outside interrupts before [.call (.service (.startSession id request))]
        { before with
          tracker.ended := false
          phase := .starting id context request
          sessions := ⟨before.number, id, request, context, none, []⟩ :: before.sessions }
  | answer {told : List Inquiry} {tracker : Tracker} {id : String} {context : PageContext}
      {request : StartRequest} {accepted : Bool}
      (pending : before.phase = .starting id context request)
      (acts : before.tracker.Acts outside (.answered id context accepted) told tracker .aside) :
      Moves outside interrupts before told
        { before with
          tracker := tracker
          phase := .aside
          sessions := tellLast told (answerLast accepted before.sessions) }

/-- How the tracker stands to the sessions, by how far the present start is. -/
inductive Standing (tracker : Tracker) (number : Nat) : Phase → List Session → Prop
  | nobody {sessions : List Session} (unknown : tracker.visitor = none)
      (past : ∀ session ∈ sessions, session.Over) : Standing tracker number .aside sessions
  | known {last : Session} {earlier : List Session} (known : tracker.visitor = some last.visitor)
      (accepted : last.accepted = some true)
      (endings : last.endings.length = tracker.ended.toNat)
      (past : ∀ session ∈ earlier, session.Over) :
      Standing tracker number .aside (last :: earlier)
  | closing {id : String} {sessions : List Session} (known : tracker.visitor = some id)
      (ended : tracker.ended = true) (past : ∀ session ∈ sessions, session.Over)
      (context : PageContext) : Standing tracker number (.closing id context) sessions
  | starting {last : Session} {earlier : List Session}
      (known : tracker.visitor = some last.visitor) (numbered : last.number = number)
      (waits : last.accepted = none) (endings : last.endings.length = tracker.ended.toNat)
      (past : ∀ session ∈ earlier, session.Over) :
      Standing tracker number (.starting last.visitor last.context last.request) (last :: earlier)

/-- That no session of a ledger ends twice, and how the tracker stands to them. -/
structure Sound (ledger : Ledger) : Prop where
  once : ∀ session ∈ ledger.sessions, session.EndsOnce
  standing : Standing ledger.tracker ledger.number ledger.phase ledger.sessions
  blank : ledger.sessions = [] → ledger.tracker.heartbeat = none

/-! ## What moves keep -/

variable {outside : Outside} {before after tracker tracker' : Tracker} {told : List Inquiry}
  {number : Nat} {phase : Phase} {sessions : List Session}

/-- That the tracker stays with its visitor and ends no session. -/
structure Spares (before : Tracker) (told : List Inquiry) (after : Tracker) : Prop where
  visitor : after.visitor = before.visitor
  ended : after.ended = before.ended
  none : ∀ inquiry ∈ told, inquiry.isEnding = false

/-- A tracker that idles spares the last session. -/
theorem spares_of_idles (idles : before.Idles told after) : Spares before told after where
  visitor := by rw [idles.rest]
  ended := by rw [idles.rest]
  none inquiry mem := by
    obtain ⟨heartbeat, _, rfl⟩ := idles.told inquiry mem
    rfl

/-- What is told of pages and heartbeats ends no session. -/
theorem not_isEnding_of_mem_map (inquire : String → Inquiry) (visitor : Option String)
    (other : ∀ id, (inquire id).isEnding = false) :
    ∀ inquiry ∈ visitor.toList.map inquire, inquiry.isEnding = false := by
  intro inquiry mem
  obtain ⟨id, _, rfl⟩ := List.mem_map.1 mem
  exact other id

/-- Apart from starts the tracker spares the session, or ends the one that goes on. -/
theorem spares_or_concludes (acts : before.Acts outside .go told after .aside) :
    Spares before told after ∨
      before.ended = false ∧ told = before.ongoing?.toList.map outside.ending ∧
        after = { before with ended := true, heartbeat := none } := by
  cases acts with
  | rest | still => exact .inl ⟨rfl, rfl, nofun⟩
  | view path =>
      exact .inl
        ⟨Tracker.viewing_visitor _ _, Tracker.viewing_ended _ _,
          not_isEnding_of_mem_map _ _ fun _ => rfl⟩
  | pulse => exact .inl ⟨rfl, rfl, not_isEnding_of_mem_map _ _ fun _ => rfl⟩
  | conclude goesOn => exact .inr ⟨goesOn, rfl, rfl⟩

/-- What holds of the sessions and is kept in telling holds after it. -/
theorem forall_tellLast {Holds : Session → Prop} (all : ∀ session ∈ sessions, Holds session)
    (tell : ∀ session, Holds session → Holds (session.tell told)) :
    ∀ session ∈ tellLast told sessions, Holds session := by
  cases sessions with
  | nil => exact all
  | cons last earlier =>
      obtain ⟨present, former⟩ := List.forall_mem_cons.1 all
      exact List.forall_mem_cons.2 ⟨tell last present, former⟩

namespace Standing

/-- How the tracker stands to the sessions is kept while it spares the last one. -/
theorem spares (standing : Standing tracker number phase sessions)
    (spares : Spares tracker told tracker') :
    Standing tracker' number phase (tellLast told sessions) := by
  have visitor {viewer : Option String} (known : tracker.visitor = viewer) :
      tracker'.visitor = viewer := spares.visitor.trans known
  have endings {last : Session} (endings : last.endings.length = tracker.ended.toNat) :
      (last.tell told).endings.length = tracker'.ended.toNat := by
    rw [endings_tell_of_none spares.none, spares.ended]
    exact endings
  have overs (past : ∀ session ∈ sessions, session.Over) :
      ∀ session ∈ tellLast told sessions, session.Over :=
    forall_tellLast past fun _ past => past.tell spares.none
  cases standing with
  | nobody unknown past => exact .nobody (visitor unknown) (overs past)
  | known known accepted open' past => exact .known (visitor known) accepted (endings open') past
  | closing known ended past context =>
      exact .closing (visitor known) (spares.ended.trans ended) (overs past) context
  | @starting last earlier known numbered waits open' past =>
      exact @Standing.starting _ _ (last.tell told) earlier (visitor known) numbered waits
        (endings open') past

/-- The session that goes on is the last one, and it has no end. -/
theorem ongoing {viewer : String} (standing : Standing tracker number phase sessions)
    (goesOn : tracker.ongoing? = some viewer) :
    ∃ last earlier, sessions = last :: earlier ∧ last.visitor = viewer ∧
      last.endings.length = 0 := by
  obtain ⟨present, open'⟩ := Tracker.ongoing?_eq_some_iff.1 goesOn
  cases standing with
  | nobody unknown => cases unknown.symm.trans present
  | known known accepted endings =>
      rw [open'] at endings
      exact ⟨_, _, rfl, Option.some.inj (known.symm.trans present), endings⟩
  | closing known ended => cases ended.symm.trans open'
  | starting known numbered waits endings =>
      rw [open'] at endings
      exact ⟨_, _, rfl, Option.some.inj (known.symm.trans present), endings⟩

/-- The end of the session that goes on is the first one of its session. -/
theorem once_of_ends (standing : Standing tracker number phase sessions)
    (once : ∀ session ∈ sessions, session.EndsOnce) (outside : Outside) :
    ∀ session ∈ tellLast (tracker.ongoing?.toList.map outside.ending) sessions,
      session.EndsOnce := by
  cases goesOn : tracker.ongoing? with
  | none => exact (tellLast_nil sessions).symm ▸ once
  | some viewer =>
      obtain ⟨last, earlier, rfl, rfl, none⟩ := standing.ongoing goesOn
      obtain ⟨_, former⟩ := List.forall_mem_cons.1 once
      exact List.forall_mem_cons.2 ⟨endsOnce_tell_ending none outside, former⟩

/-- Once the tracker has ended, its session is over. -/
theorem concludes (standing : Standing tracker number phase sessions)
    (goesOn : tracker.ended = false) (outside : Outside) :
    Standing { tracker with ended := true, heartbeat := none } number phase
      (tellLast (tracker.ongoing?.toList.map outside.ending) sessions) := by
  have ends {last : Session} (known : tracker.visitor = some last.visitor)
      (endings : last.endings.length = tracker.ended.toNat) :
      (last.tell (tracker.ongoing?.toList.map outside.ending)).endings.length = 1 := by
    rw [Tracker.ongoing?_eq_some_iff.2 ⟨known, goesOn⟩]
    rw [goesOn] at endings
    exact (congrArg List.length (endings_tell_ending outside _ _)).trans
      (by rw [List.length_append, endings]; rfl)
  cases standing with
  | nobody unknown past =>
      rw [Tracker.ongoing?_of_unknown unknown]
      exact .nobody unknown ((tellLast_nil sessions).symm ▸ past)
  | known known accepted endings past => exact .known known accepted (ends known endings) past
  | closing known ended => cases ended.symm.trans goesOn
  | @starting last earlier known numbered waits endings past =>
      exact @Standing.starting _ _ (last.tell _) earlier known numbered waits (ends known endings)
        past

/-- Before another visitor is taken up, the former session is over. -/
theorem over_of_ends (standing : Standing tracker number .aside sessions) (outside : Outside) :
    ∀ session ∈ tellLast (tracker.ongoing?.toList.map outside.ending) sessions,
      session.Over := by
  cases standing with
  | nobody unknown past =>
      rw [Tracker.ongoing?_of_unknown unknown]
      exact (tellLast_nil sessions).symm ▸ past
  | @known last earlier known accepted endings past =>
      refine List.forall_mem_cons.2 ⟨.inr ⟨accepted, ?_⟩, past⟩
      rw [Tracker.ongoing?_of_known known]
      cases ended : tracker.ended with
      | true =>
          rw [ended] at endings
          exact (congrArg (fun s : Session => s.endings.length) (tell_nil last)).trans endings
      | false =>
          rw [ended] at endings
          exact (congrArg List.length (endings_tell_ending outside _ _)).trans
            (by rw [List.length_append, endings]; rfl)

end Standing

/-- What spares the session keeps a ledger sound. -/
theorem Sound.spares {ledger : Ledger} (sound : ledger.Sound)
    (spares : Spares ledger.tracker told tracker)
    (blank : ledger.tracker.heartbeat = none → tracker.heartbeat = none) :
    Sound { ledger with tracker := tracker, sessions := tellLast told ledger.sessions } where
  once := forall_tellLast sound.once fun _ once => once.tell spares.none
  standing := sound.standing.spares spares
  blank none := blank (sound.blank (tellLast_eq_nil_iff.1 none))

/-- The answer to the start of a session tells whether there is one, and ends none. -/
theorem Sound.answered {ledger : Ledger} (sound : ledger.Sound) {id : String}
    {context : PageContext} {request : StartRequest} {accepted : Bool}
    (pending : ledger.phase = .starting id context request)
    (acts : ledger.tracker.Acts outside (.answered id context accepted) told tracker .aside) :
    Sound
      { ledger with
        tracker := tracker
        phase := .aside
        sessions := tellLast told (answerLast accepted ledger.sessions) } := by
  obtain ⟨once, standing, _⟩ := sound
  rw [pending] at standing
  generalize ledger.sessions = sessions at once standing
  cases standing with
  | @starting last earlier known numbered waits endings past =>
      have answered (accepted : Bool) :
          ∀ session ∈ answerLast accepted (last :: earlier), session.EndsOnce := by
        obtain ⟨present, former⟩ := List.forall_mem_cons.1 once
        exact List.forall_mem_cons.2 ⟨⟨present.once, present.own⟩, former⟩
      cases acts with
      | accept =>
          have accepted : Standing ledger.tracker ledger.number .aside
            (answerLast true (last :: earlier)) := .known known rfl endings past
          have none := not_isEnding_of_mem_map
            (fun viewer => .call (.service (.recordPage viewer last.context.path)))
            (ledger.tracker.viewer? last.context.path) fun _ => rfl
          exact ⟨forall_tellLast (answered true) fun _ once => once.tell none,
            accepted.spares ⟨Tracker.viewing_visitor _ _, Tracker.viewing_ended _ _, none⟩, nofun⟩
      | refuse =>
          rw [tellLast_nil]
          refine ⟨answered false, .nobody ?_ (List.forall_mem_cons.2 ⟨.inl rfl, past⟩), nofun⟩
          rw [known]
          simp

/-- Every move keeps a ledger sound. -/
theorem Moves.sound {interrupts : Prop} {before after : Ledger}
    (moves : before.Moves outside interrupts told after) (sound : before.Sound) : after.Sound := by
  cases moves with
  | idle idles =>
      refine sound.spares (spares_of_idles idles) fun still => ?_
      refine Option.eq_none_iff_forall_ne_some.2 fun heartbeat runs => ?_
      obtain ⟨former, ran, _⟩ := idles.heartbeat heartbeat runs
      cases still.symm.trans ran
  | act free acts =>
      rcases spares_or_concludes acts with spares | ⟨goesOn, rfl, rfl⟩
      · refine sound.spares spares fun still => ?_
        cases acts with
        | rest | pulse => exact still
        | still | conclude => rfl
        | view path => exact (Tracker.viewing_heartbeat _ _).trans still
      · exact ⟨sound.standing.once_of_ends sound.once outside,
          sound.standing.concludes goesOn outside, fun _ => rfl⟩
  | takeUp number free acts =>
      have standing := sound.standing
      rw [free] at standing
      cases acts with
      | takeUp other =>
          exact ⟨standing.once_of_ends sound.once outside,
            .closing rfl rfl (standing.over_of_ends outside) _, fun _ => rfl⟩
  | @begin id context request pending =>
      have standing := sound.standing
      rw [pending] at standing
      cases standing with
      | closing known ended past =>
          let begun : Session := ⟨before.number, id, request, context, none, []⟩
          have once : begun.EndsOnce := ⟨Nat.zero_le 1, nofun⟩
          exact ⟨List.forall_mem_cons.2 ⟨once, sound.once⟩,
            @Standing.starting _ _ begun before.sessions known rfl rfl rfl past, nofun⟩
  | answer pending acts => exact sound.answered pending acts

/-- All sessions of a ledger but the last one are over once the next one has been asked for. -/
theorem Sound.over_of_mem_tail {ledger : Ledger} (sound : ledger.Sound) :
    ∀ session ∈ ledger.sessions.tail, session.Over := by
  obtain ⟨_, standing, _⟩ := sound
  generalize ledger.sessions = sessions at standing
  generalize ledger.phase = phase at standing
  cases standing with
  | nobody unknown past => exact fun session mem => past session (List.mem_of_mem_tail mem)
  | closing known ended past => exact fun session mem => past session (List.mem_of_mem_tail mem)
  | known known accepted endings past => exact past
  | starting known numbered waits endings past => exact past

/-- Before the first session nothing is told in the background. -/
theorem Sound.idles {ledger : Ledger} (sound : ledger.Sound)
    (idles : ledger.tracker.Idles told tracker) (none : ledger.sessions = []) : told = [] := by
  refine List.eq_nil_iff_forall_not_mem.2 fun inquiry mem => ?_
  obtain ⟨heartbeat, runs, _⟩ := idles.told inquiry mem
  cases (sound.blank none).symm.trans runs

/-- Before the first session there is nothing to tell but its start. -/
theorem Sound.acts {ledger : Ledger} (sound : ledger.Sound)
    (acts : ledger.tracker.Acts outside .go told tracker phase) (none : ledger.sessions = []) :
    told = [] := by
  have quiet : ledger.tracker.ongoing? = Option.none := by
    obtain ⟨_, standing, _⟩ := sound
    rw [none] at standing
    generalize ledger.phase = pending at standing
    cases standing with
    | nobody unknown => exact Tracker.ongoing?_of_unknown unknown
    | closing known ended => exact Tracker.ongoing?_of_ended ended
  cases acts with
  | rest | still => rfl
  | view path => rw [Tracker.viewer?_of_not_ongoing quiet]; rfl
  | pulse | conclude | takeUp => rw [quiet]; rfl

/-- That a ledger moves any number of times. -/
def Goes (interrupts : Prop) : Ledger → Ledger → Prop :=
  Relation.ReflTransGen fun before after =>
    ∃ outside told, Moves outside interrupts before told after

/-- A move is a way to go. -/
theorem Moves.goes {interrupts : Prop} {before after : Ledger}
    (moves : before.Moves outside interrupts told after) : before.Goes interrupts after :=
  .single ⟨outside, told, moves⟩

/-- Going keeps a ledger sound, by induction on the moves. -/
theorem Goes.sound {interrupts : Prop} {before after : Ledger} (goes : before.Goes interrupts after)
    (sound : before.Sound) : after.Sound := by
  induction goes with
  | refl => exact sound
  | tail _ moves ih =>
      obtain ⟨outside, told, moves⟩ := moves
      exact moves.sound ih

/-- Nothing has been told before the first session. -/
theorem sound_opening : Sound {} where
  once := nofun
  standing := .nobody rfl nofun
  blank _ := rfl

end Ledger

end VisitorLink
