import VisitorLink.Proofs.Course.Ledgers

/-!
# Ends of sessions

Whether a session has been ended is known to the tracker alone, and whoever ends it first says so at
once. The mark is taken away only when another session starts. If starts do not overlap, this keeps
every session from being ended twice, whatever else happens while one is started or ended.

Main statement: in courses in which starts do not overlap, no session is ended twice, and one that
was accepted has been ended before the next one starts (`session_ends_once`).
-/

namespace VisitorLink

open Session

theorem Inquiry.eq_of_endsSession {inquiry : Inquiry} {id other : String}
    (ends : inquiry.endsSession id = true) (ends' : inquiry.endsSession other = true) :
    id = other := by
  cases inquiry with
  | call asked =>
      cases asked with
      | provider call => cases ends
      | service call =>
          cases call <;> first
            | exact (beq_iff_eq.1 ends).symm.trans (beq_iff_eq.1 ends')
            | cases ends
  | detect => cases ends
  | endBeacon ended => exact (beq_iff_eq.1 ends).symm.trans (beq_iff_eq.1 ends')

namespace Session

variable {session : Session}

/-- A session starts for its visitor, and ends for nobody else. -/
theorem EndsOnce.countP_le (ends : session.EndsOnce) (id : String) :
    session.inquiries.countP (Inquiry.endsSession id) ≤
      session.inquiries.countP (Inquiry.startsSession id) := by
  have counts : session.inquiries.countP (Inquiry.endsSession id) =
      session.endings.countP (Inquiry.endsSession id) := by
    rw [inquiries, endings, List.countP_filter, List.countP_cons_of_neg Bool.false_ne_true]
    refine List.countP_congr fun inquiry _ => ?_
    rw [Bool.and_eq_true]
    exact ⟨fun ends => ⟨ends, Inquiry.isEnding_of_endsSession ends⟩, And.left⟩
  rw [counts]
  by_cases own : session.visitor = id
  · refine (List.countP_le_length.trans ends.once).trans (List.countP_pos_iff.2 ?_)
    exact ⟨_, .head _, beq_iff_eq.2 own⟩
  · rw [List.countP_eq_zero.2 fun ending mem other =>
      own (Inquiry.eq_of_endsSession (ends.own ending mem) other)]
    exact Nat.zero_le _

theorem countP_flatMap_le {sessions : List Session} (ends : ∀ session ∈ sessions, session.EndsOnce)
    (id : String) :
    (sessions.flatMap inquiries).countP (Inquiry.endsSession id) ≤
      (sessions.flatMap inquiries).countP (Inquiry.startsSession id) := by
  induction sessions with
  | nil => exact Nat.le_refl 0
  | cons session others ih =>
      rw [List.flatMap_cons, List.countP_append, List.countP_append]
      obtain ⟨own, ends⟩ := List.forall_mem_cons.1 ends
      exact Nat.add_le_add (own.countP_le id) (ih ends)

end Session

namespace Course

variable {settings : VisitSettings} {outside : Outside} {storage : Storage} {state : State}

/-- If no start of a session is begun while another one has not ended, whatever else happens in the
meantime, then the sessions of a course are each ended once at most, by a beacon or by a call, and
for their own visitor. Each one but the last was refused, or it was accepted and has been ended
once, before the next one was asked for. So nobody's session has been ended more often than it was
started. -/
theorem session_ends_once {course : Course}
    (runs : Runs (InTurn Operation.startsSessions) (opening settings outside storage state)
      course) :
    ∃ sessions, course.Recounts sessions ∧ (∀ session ∈ sessions, session.EndsOnce) ∧
      (∀ session ∈ sessions.dropLast, session.Over) ∧
      ∀ id, course.visit.reports.countP (Inquiry.endsSession id) ≤
        course.visit.reports.countP (Inquiry.startsSession id) := by
  obtain ⟨ledger, goes, fits⟩ := runs.exists_ledger fun _ starts => starts
  have sound := goes.sound Ledger.sound_opening
  have once : ∀ session ∈ ledger.sessions.reverse, session.EndsOnce :=
    fun session mem => sound.once session (List.mem_reverse.1 mem)
  refine ⟨_, fits.recounts, once, fun session mem => ?_, fun id => ?_⟩
  · rw [List.dropLast_reverse] at mem
    exact sound.over_of_mem_tail session (List.mem_reverse.1 mem)
  · rw [fits.recounts.reports]
    exact countP_flatMap_le once id

/-- A session is ended while its start is waited for, and the next one starts after that. -/
theorem session_is_ended_during_start :
    ∃ course : Course,
      Runs (InTurn Operation.startsSessions)
        (opening {} { random := Vector.replicate 16 0 } (.memory {} {})) course ∧
      course.visit.reports =
        [.call (.service (.startSession "first" {})), .call (.service (.endSession "first")),
          .call (.service (.startSession "second" {}))] ∧
      ∃ sessions, course.Recounts sessions ∧ (∀ session ∈ sessions, session.EndsOnce) ∧
        (∀ session ∈ sessions.dropLast, session.Over) ∧
        ∀ id, course.visit.reports.countP (Inquiry.endsSession id) ≤
          course.visit.reports.countP (Inquiry.startsSession id) := by
  have begins : Runs (InTurn Operation.startsSessions) _
      ((opening {} { random := Vector.replicate 16 0 } (.memory {} {})).start
        (.startTracking "first" {})) :=
    Runs.start .refl _ (by decide +kernel)
  have ended := begins.start .endTracking nofun
  have accepted := ended.answer (.head _) (.ok {}) (by decide +kernel)
  have goesOn := accepted.start (.startTracking "second" {}) (by decide +kernel)
  exact ⟨_, goesOn, by decide +kernel, session_ends_once goesOn⟩

end Course

end VisitorLink
