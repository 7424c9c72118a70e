import Mathlib.Data.List.Chain
import VisitorLink.Proofs.Course.Ledgers

/-!
# The trace of a session

If the operations of a visit concern themselves with the session one after the other, every session
that the service accepts is told in order: its first page, then further pages and heartbeats, and
its end. The ledger of such a course is `Orderly`: the page that the tracker has recorded last is
the last page told, a heartbeat runs only while a session goes on, and nothing is told between the
request to start a session and the answer.

Main statement: the sessions of such a course are all bracketed (`sessions_are_bracketed`).
-/

namespace VisitorLink

/-- The page that an inquiry records. -/
def Inquiry.page? : Inquiry → Option String
  | .call (.service (.recordPage _ path)) => some path
  | _ => none

/-- Whether an inquiry records a page of a visitor or is a heartbeat of theirs. -/
def Inquiry.attends (id : String) : Inquiry → Bool
  | .call (.service (.recordPage viewer _)) => viewer == id
  | .call (.service (.heartbeat beating)) => beating == id
  | _ => false

namespace Session

/-- The pages that were told, oldest first. -/
def pages (reports : List Inquiry) : List String :=
  reports.filterMap Inquiry.page?

theorem pages_append (reports told : List Inquiry) :
    pages (reports ++ told) = pages reports ++ pages told :=
  List.filterMap_append

/-- What is told of a visitor's session while it goes on: the page it starts on, and then pages and
heartbeats of the visitor, where no page is told twice in a row. -/
structure Follows (visitor path : String) (reports : List Inquiry) : Prop where
  first : [.call (.service (.recordPage visitor path))] <+: reports
  own : ∀ inquiry ∈ reports, inquiry.attends visitor = true
  turns : (pages reports).IsChain (· ≠ ·)

/-- That nothing is told of a session unless it is accepted, and then what is told while it goes on,
and at most its end after that. -/
structure Bracketed (session : Session) : Prop where
  blank : session.accepted ≠ some true → session.reports = []
  body : session.accepted = some true → ∃ (body : List Inquiry) (ending : Option Inquiry),
    session.reports = body ++ ending.toList ∧
      Follows session.visitor session.context.path body ∧
      ∀ last ∈ ending, last.endsSession session.visitor = true

variable {session : Session} {visitor path : String} {reports told : List Inquiry}

theorem Follows.bracketed
    (follows : Follows session.visitor session.context.path session.reports)
    (accepted : session.accepted = some true) : session.Bracketed where
  blank refused := absurd accepted refused
  body _ := ⟨session.reports, none, (List.append_nil _).symm, follows, nofun⟩

theorem Bracketed.follows (bracketed : session.Bracketed) (accepted : session.accepted = some true)
    (goesOn : session.endings.length = 0) :
    Follows session.visitor session.context.path session.reports := by
  obtain ⟨body, ending, reports, follows, ends⟩ := bracketed.body accepted
  cases ending with
  | none =>
      rw [reports]
      exact (List.append_nil body).symm ▸ follows
  | some last =>
      have mem : last ∈ session.endings := by
        refine List.mem_filter.2 ⟨reports ▸ List.mem_append_right _ (.head _), ?_⟩
        exact Inquiry.isEnding_of_endsSession (ends last rfl)
      exact absurd (List.eq_nil_of_length_eq_zero goesOn) (List.ne_nil_of_mem mem)

theorem follows_first (visitor path : String) :
    Follows visitor path [.call (.service (.recordPage visitor path))] where
  first := List.prefix_refl _
  own _ mem := List.mem_singleton.1 mem ▸ beq_self_eq_true visitor
  turns := .singleton path

theorem Follows.tell (follows : Follows visitor path reports)
    (own : ∀ inquiry ∈ told, inquiry.attends visitor = true)
    (turns : (pages told).IsChain (· ≠ ·))
    (other : ∀ last ∈ (pages reports).getLast?, ∀ next ∈ (pages told).head?, last ≠ next) :
    Follows visitor path (reports ++ told) where
  first := follows.first.trans (List.prefix_append _ _)
  own inquiry mem := (List.mem_append.1 mem).elim (follows.own inquiry) (own inquiry)
  turns := by
    rw [pages_append]
    exact follows.turns.append turns other

end Session

namespace Ledger

open Session

/-- How the tracker of a ledger stands to what is told while no operation interrupts another. -/
structure Orderly (ledger : Ledger) : Prop where
  bracketed : ∀ session ∈ ledger.sessions, session.Bracketed
  attends : ∀ heartbeat, ledger.tracker.heartbeat = some heartbeat →
    ledger.phase = .aside ∧ ledger.tracker.ongoing? = some heartbeat.visitor
  fresh : ledger.phase ≠ .aside → ledger.tracker.lastPath = none
  unended : ∀ id context request, ledger.phase = .starting id context request →
    ledger.tracker.ended = false
  page : ledger.phase = .aside → ∀ last ∈ ledger.sessions.head?,
    ledger.tracker.ongoing? = some last.visitor →
      ledger.tracker.lastPath = (pages last.reports).getLast?

variable {outside : Outside} {interrupts : Prop} {before after ledger : Ledger} {tracker : Tracker}
  {told : List Inquiry}

theorem orderly_opening : Orderly {} where
  bracketed := nofun
  attends := nofun
  fresh _ := rfl
  unended := nofun
  page _ := nofun

/-- While no start is under way, the session that goes on was accepted and has not been ended. -/
theorem Orderly.live (orderly : ledger.Orderly) (sound : ledger.Sound)
    (aside : ledger.phase = .aside) {viewer : String}
    (goesOn : ledger.tracker.ongoing? = some viewer) :
    ∃ last earlier, ledger.sessions = last :: earlier ∧ last.visitor = viewer ∧
      last.accepted = some true ∧ Follows last.visitor last.context.path last.reports ∧
      ledger.tracker.lastPath = (pages last.reports).getLast? := by
  have standing := sound.standing
  obtain ⟨last, earlier, sessions, own, open'⟩ := standing.ongoing goesOn
  rw [aside, sessions] at standing
  have accepted : last.accepted = some true := by
    cases standing with
    | nobody unknown => cases (Tracker.ongoing?_of_unknown unknown).symm.trans goesOn
    | known known accepted => exact accepted
  have bracketed := orderly.bracketed last (sessions ▸ .head _)
  exact ⟨last, earlier, sessions, own, accepted, bracketed.follows accepted open',
    orderly.page aside last (sessions ▸ rfl) (own ▸ goesOn)⟩

/-- A tracker that stays with its visitor and its page keeps a ledger orderly. -/
theorem Orderly.stays (orderly : ledger.Orderly)
    (visitor : tracker.visitor = ledger.tracker.visitor)
    (ended : tracker.ended = ledger.tracker.ended)
    (lastPath : tracker.lastPath = ledger.tracker.lastPath)
    (heartbeats : ∀ heartbeat, tracker.heartbeat = some heartbeat →
      ∃ former, ledger.tracker.heartbeat = some former ∧ former.visitor = heartbeat.visitor) :
    Orderly { ledger with tracker := tracker } := by
  have ongoing : tracker.ongoing? = ledger.tracker.ongoing? := by
    rw [Tracker.ongoing?, visitor, ended]
    rfl
  refine ⟨orderly.bracketed, fun heartbeat runs => ?_, fun making => ?_, ?_, ?_⟩
  · obtain ⟨former, ran, same⟩ := heartbeats heartbeat runs
    exact ongoing.symm ▸ same ▸ orderly.attends former ran
  · exact lastPath.trans (orderly.fresh making)
  · exact fun id context request waits => ended.trans (orderly.unended id context request waits)
  · exact fun aside last mem goesOn =>
      lastPath.trans (orderly.page aside last mem (ongoing.symm.trans goesOn))

/-- What is told of the session that goes on keeps a ledger orderly. -/
theorem Orderly.tells (orderly : ledger.Orderly) (sound : ledger.Sound)
    (aside : ledger.phase = .aside) {viewer : String}
    (goesOn : ledger.tracker.ongoing? = some viewer)
    (own : ∀ inquiry ∈ told, inquiry.attends viewer = true) (turns : (pages told).IsChain (· ≠ ·))
    (other : ∀ last ∈ ledger.tracker.lastPath, ∀ next ∈ (pages told).head?, last ≠ next) :
    Orderly
      { ledger with
        tracker.lastPath := (pages told).getLast?.or ledger.tracker.lastPath
        sessions := tellLast told ledger.sessions } := by
  obtain ⟨last, earlier, sessions, rfl, accepted, follows, page⟩ := orderly.live sound aside goesOn
  rw [page] at other
  obtain ⟨_, others⟩ := List.forall_mem_cons.1 (sessions ▸ orderly.bracketed)
  refine ⟨?_, orderly.attends, fun making => absurd aside making, ?_, ?_⟩
  · rw [sessions]
    have present : (last.tell told).Bracketed :=
      Follows.bracketed (follows.tell own turns other) accepted
    exact List.forall_mem_cons.2 ⟨present, others⟩
  · exact fun _ _ _ waits => nomatch aside.symm.trans waits
  · intro _ session mem _
    rw [sessions] at mem
    cases mem
    change (pages told).getLast?.or ledger.tracker.lastPath =
      (pages (last.reports ++ told)).getLast?
    rw [page, pages_append, List.getLast?_append]

/-- The session that goes on may be ended. -/
theorem Orderly.ends (orderly : ledger.Orderly) (sound : ledger.Sound)
    (aside : ledger.phase = .aside) (outside : Outside) :
    ∀ session ∈ tellLast (ledger.tracker.ongoing?.toList.map outside.ending) ledger.sessions,
      session.Bracketed := by
  cases goesOn : ledger.tracker.ongoing? with
  | none => exact (tellLast_nil ledger.sessions).symm ▸ orderly.bracketed
  | some viewer =>
      obtain ⟨last, earlier, sessions, rfl, accepted, follows, _⟩ :=
        orderly.live sound aside goesOn
      obtain ⟨_, others⟩ := List.forall_mem_cons.1 (sessions ▸ orderly.bracketed)
      rw [sessions]
      refine List.forall_mem_cons.2 ⟨⟨fun refused => absurd accepted refused, fun _ => ?_⟩, others⟩
      refine ⟨last.reports, some (outside.ending last.visitor), rfl, follows, ?_⟩
      rintro _ ⟨⟩
      exact outside.ending_endsSession last.visitor

/-- Heartbeats of the visitor whose session goes on keep a ledger orderly. -/
theorem Orderly.beats (orderly : ledger.Orderly) (sound : ledger.Sound)
    (aside : ledger.phase = .aside) {viewer : String}
    (goesOn : ledger.tracker.ongoing? = some viewer)
    (beats : ∀ inquiry ∈ told, inquiry = .call (.service (.heartbeat viewer))) :
    Orderly { ledger with sessions := tellLast told ledger.sessions } := by
  have own (inquiry : Inquiry) (mem : inquiry ∈ told) : inquiry.attends viewer = true :=
    beats inquiry mem ▸ beq_self_eq_true viewer
  have none : pages told = [] :=
    List.filterMap_eq_nil_iff.2 fun inquiry mem => beats inquiry mem ▸ rfl
  have tells := orderly.tells sound aside goesOn own (none ▸ .nil) (by rw [none]; exact nofun)
  rwa [none] at tells

/-- A page that was not told last may be told. -/
theorem Orderly.views (orderly : ledger.Orderly) (sound : ledger.Sound)
    (aside : ledger.phase = .aside) (path : String) :
    Orderly
      { ledger with
        tracker := ledger.tracker.viewing path
        sessions := tellLast
          ((ledger.tracker.viewer? path).toList.map fun id =>
            .call (.service (.recordPage id path)))
          ledger.sessions } := by
  cases views : ledger.tracker.viewer? path with
  | none =>
      rw [Tracker.viewing, views]
      exact (tellLast_nil ledger.sessions).symm ▸ orderly
  | some viewer =>
      obtain ⟨goesOn, unseen⟩ := Option.filter_eq_some_iff.1 views
      rw [Tracker.viewing, views]
      refine orderly.tells sound aside goesOn (follows_first viewer path).own (.singleton path) ?_
      rintro last mem _ ⟨⟩ rfl
      exact bne_iff_ne.1 unseen mem

/-- When its start is accepted, the first page of a session is told. When it is refused, nothing is
told of it. -/
theorem Orderly.answered {id : String} {context : PageContext} {request : StartRequest}
    {accepted : Bool} (orderly : ledger.Orderly) (sound : ledger.Sound)
    (pending : ledger.phase = .starting id context request)
    (acts : ledger.tracker.Acts outside (.answered id context accepted) told tracker .aside) :
    Orderly
      { ledger with
        tracker := tracker
        phase := .aside
        sessions := tellLast told (answerLast accepted ledger.sessions) } := by
  have making : ledger.phase ≠ .aside := fun aside => nomatch aside.symm.trans pending
  have standing := sound.standing
  have bracketed := orderly.bracketed
  rw [pending] at standing
  generalize ledger.sessions = sessions at standing bracketed ⊢
  cases standing with
  | @starting last earlier known numbered waits endings past =>
      obtain ⟨silent, others⟩ := List.forall_mem_cons.1 bracketed
      have blank := silent.blank fun accepted => nomatch waits.symm.trans accepted
      have unended := orderly.unended _ _ _ pending
      have goesOn := Tracker.ongoing?_eq_some_iff.2 ⟨known, unended⟩
      cases acts with
      | @accept _ _ heartbeat own =>
          -- No page was recorded since the visitor was taken up, so the first one is told.
          have views : ledger.tracker.viewer? last.context.path = some last.visitor := by
            rw [Tracker.viewer?_of_ongoing goesOn, orderly.fresh making,
              if_neg (Option.some_ne_none _).symm]
          rw [Tracker.viewing, views]
          refine ⟨List.forall_mem_cons.2 ⟨Follows.bracketed ?_ rfl, others⟩, ?_,
            fun making => absurd rfl making, ?_, ?_⟩
          · change Follows _ _ (last.reports ++ _)
            rw [blank]
            exact follows_first last.visitor last.context.path
          · rintro _ ⟨⟩
            exact ⟨rfl, own ▸ goesOn⟩
          · rintro _ _ _ ⟨⟩
          · rintro _ _ ⟨⟩ _
            change some last.context.path = (pages (last.reports ++ _)).getLast?
            rw [blank]
            rfl
      | refuse =>
          have gone : ledger.tracker.visitor.filter (· != last.visitor) = none := by
            rw [known]
            simp
          refine ⟨List.forall_mem_cons.2 ⟨⟨fun _ => (List.append_nil _).trans blank, ?_⟩, others⟩,
            fun heartbeat runs => ?_, fun making => absurd rfl making, ?_, fun _ _ _ goesOn => ?_⟩
          · rintro ⟨⟩
          · exact absurd (orderly.attends heartbeat runs).1 making
          · rintro _ _ _ ⟨⟩
          · cases (Tracker.ongoing?_of_unknown gone).symm.trans goesOn

/-- What is told in the background keeps a ledger orderly. -/
theorem Orderly.idles (orderly : ledger.Orderly) (sound : ledger.Sound)
    (idles : ledger.tracker.Idles told tracker) :
    Orderly { ledger with tracker := tracker, sessions := tellLast told ledger.sessions } := by
  have tells : Orderly { ledger with sessions := tellLast told ledger.sessions } := by
    cases runs : ledger.tracker.heartbeat with
    | none =>
        have silent : told = [] := List.eq_nil_iff_forall_not_mem.2 fun inquiry mem => by
          obtain ⟨heartbeat, ran, _⟩ := idles.told inquiry mem
          cases runs.symm.trans ran
        rw [silent, tellLast_nil]
        exact orderly
    | some heartbeat =>
        obtain ⟨aside, goesOn⟩ := orderly.attends heartbeat runs
        refine orderly.beats sound aside goesOn fun inquiry mem => ?_
        obtain ⟨former, ran, same⟩ := idles.told inquiry mem
        cases runs.symm.trans ran
        exact same
  refine tells.stays ?_ ?_ ?_ idles.heartbeat
  all_goals rw [idles.rest]

/-- What an operation does apart from starts keeps a ledger orderly. -/
theorem Orderly.acts (orderly : ledger.Orderly) (sound : ledger.Sound)
    (aside : ledger.phase = .aside)
    (acts : ledger.tracker.Acts outside .go told tracker .aside) :
    Orderly { ledger with tracker := tracker, sessions := tellLast told ledger.sessions } := by
  cases acts with
  | rest => exact (tellLast_nil ledger.sessions).symm ▸ orderly
  | still => exact (tellLast_nil ledger.sessions).symm ▸ orderly.stays rfl rfl rfl nofun
  | view path => exact orderly.views sound aside path
  | pulse =>
      cases goesOn : ledger.tracker.ongoing? with
      | none => exact (tellLast_nil ledger.sessions).symm ▸ orderly
      | some viewer =>
          exact orderly.beats sound aside goesOn fun inquiry mem => List.mem_singleton.1 mem
  | conclude goesOn =>
      have ends := orderly.ends sound aside outside
      refine ⟨ends, nofun, fun making => absurd aside making, ?_, ?_⟩
      · exact fun _ _ _ waits => nomatch aside.symm.trans waits
      · exact fun _ _ _ goesOn => nomatch (Tracker.ongoing?_of_ended rfl).symm.trans goesOn

/-- Where no operation interrupts another, every move keeps a ledger orderly. -/
theorem Moves.orderly (moves : before.Moves outside interrupts told after) (calm : ¬ interrupts)
    (sound : before.Sound) (orderly : before.Orderly) : after.Orderly := by
  cases moves with
  | idle idles => exact orderly.idles sound idles
  | act free acts => exact orderly.acts sound (free.resolve_right calm) acts
  | takeUp number free acts =>
      cases acts with
      | takeUp other => exact ⟨orderly.ends sound free outside, nofun, fun _ => rfl, nofun, nofun⟩
  | begin request pending =>
      have making : before.phase ≠ .aside := fun aside => nomatch aside.symm.trans pending
      refine ⟨List.forall_mem_cons.2 ⟨⟨fun _ => rfl, nofun⟩, orderly.bracketed⟩,
        fun heartbeat runs => ?_, fun _ => orderly.fresh making, fun _ _ _ _ => rfl, nofun⟩
      exact absurd (orderly.attends heartbeat runs).1 making
  | answer pending acts => exact orderly.answered sound pending acts

theorem Goes.orderly (goes : before.Goes interrupts after) (calm : ¬ interrupts)
    (sound : before.Sound) (orderly : before.Orderly) : after.Orderly := by
  induction goes with
  | refl => exact orderly
  | tail goes moves ih =>
      obtain ⟨outside, told, moves⟩ := moves
      exact moves.orderly calm (Goes.sound goes sound) ih

end Ledger

namespace Course

variable {settings : VisitSettings} {outside : Outside} {storage : Storage} {state : State}

/-- If no operation does anything with the session while another one waits for an answer about it,
then what is told falls into sessions: each begins with the request to start it, and nothing more is
told of it if it is refused; if it is accepted, the page that it starts on follows, then pages and
heartbeats of its visitor, where no page is told twice in a row, and at most its end after that.
Each session but the last was refused or has been ended. -/
theorem sessions_are_bracketed {course : Course}
    (runs : Runs (InTurn fun _ => true) (opening settings outside storage state) course) :
    ∃ sessions, course.Recounts sessions ∧ (∀ session ∈ sessions, session.Bracketed) ∧
      ∀ session ∈ sessions.dropLast, session.Over := by
  obtain ⟨ledger, goes, fits⟩ := runs.exists_ledger fun _ _ => rfl
  have sound := goes.sound Ledger.sound_opening
  have orderly := goes.orderly (fun ⟨_, other⟩ => nomatch other) Ledger.sound_opening
    Ledger.orderly_opening
  refine ⟨_, fits.recounts, fun session mem => ?_, fun session mem => ?_⟩
  · exact orderly.bracketed session (List.mem_reverse.1 mem)
  · rw [List.dropLast_reverse] at mem
    exact sound.over_of_mem_tail session (List.mem_reverse.1 mem)

/-- A session of two pages, which is ended when the next one starts. -/
theorem session_of_two_pages_is_bracketed :
    ∃ course : Course,
      Runs (InTurn fun _ => true)
        (opening {} { sendsBeacons := true, random := Vector.replicate 16 0 } (.memory {} {}))
        course ∧
      course.visit.reports =
        [.call (.service (.startSession "first" {})),
          .call (.service (.recordPage "first" "/")),
          .call (.service (.recordPage "first" "/map")), .endBeacon "first",
          .call (.service (.startSession "second" {}))] ∧
      ∃ sessions, course.Recounts sessions ∧ (∀ session ∈ sessions, session.Bracketed) ∧
        ∀ session ∈ sessions.dropLast, session.Over := by
  have begins : Runs (InTurn fun _ => true) _
      ((opening {} { sendsBeacons := true, random := Vector.replicate 16 0 } (.memory {} {})).start
        (.startTracking "first" { path := "/" })) :=
    Runs.start .refl _ (by decide +kernel)
  have started := begins.answer (.head _) (.ok {}) (by decide +kernel)
  have recorded := started.answer (.head _) (.ok ()) (by decide +kernel)
  have views := recorded.start (.recordPage "/map") (by decide +kernel)
  have viewed := views.answer (.head _) (.ok ()) (by decide +kernel)
  have goesOn := viewed.start (.startTracking "second" {}) (by decide +kernel)
  exact ⟨_, goesOn, by decide +kernel, sessions_are_bracketed goesOn⟩

end Course

end VisitorLink
