import Mathlib.Data.List.InsertIdx
import VisitorLink.Proofs.Course.Alone
import VisitorLink.Proofs.Visit.Pages

/-!
# What the session sees of a course

Of a course the session sees what the tracking of pages sees of the visit, and the operations on the
session that wait. These are told by their places among each other, since their numbers count the
operations about the wallet as well.

Main statements: where the session sees the same of two courses, operations on the session do the
same to what it sees (`Alike.start`, `Alike.answer` and `Alike.wake`), and they leave the state, the
events and all but the first referrer in the slots alone (`Reaches.tracks`).
-/

namespace VisitorLink

open Errand

namespace Course

/-- The operations on the session that wait, in the order in which they came to wait. -/
def sessionWaiting (course : Course) : List Waiting :=
  course.waiting.filter (·.operation.isOnSession)

/-- The operations on the session that wait, without their numbers. -/
def threads (course : Course) : List (Operation × Errand.Paused Outcome) :=
  course.sessionWaiting.map fun waiting => (waiting.operation, waiting.paused)

/-- That the session sees the same of two courses. -/
structure Alike (course course' : Course) : Prop where
  pages : course.visit.pagesView = course'.visit.pagesView
  threads : course.threads = course'.threads

/-- What is left of an operation after a piece of it. -/
def threadOf (operation : Operation) :
    Errand.Paused Outcome → List (Operation × Errand.Paused Outcome)
  | .finished _ => []
  | paused => [(operation, paused)]

variable {settings : VisitSettings} {outside : Outside} {storage : Storage} {state : State}
  {before before' course resumed resumed' : Course} {number number' index : Nat}
  {operation operation' : Operation} {cue : Cue} {piece piece' : Errand.Paused Outcome × Visit}

/-! ## Operations that wait -/

/-- A piece of an operation on the session leaves what is left of it last. -/
theorem threads_pause (session : operation.isOnSession = true) (course : Course) (number : Nat)
    (piece : Errand.Paused Outcome × Visit) :
    (course.pause number operation piece).threads =
      course.threads ++ threadOf operation piece.1 := by
  have one (paused : Errand.Paused Outcome) :
      [(⟨number, operation, paused⟩ : Waiting)].filter (·.operation.isOnSession) =
        [⟨number, operation, paused⟩] := List.filter_eq_self.2 fun waiting mem => by
    rwa [List.mem_singleton.1 mem]
  rcases piece with ⟨_ | _ | _, visit⟩
  · exact (List.append_nil _).symm
  all_goals
    simp only [threads, sessionWaiting, pause, wait, note, List.filter_append, one,
      List.map_append]
    rfl

/-- A piece of another operation leaves the session's operations as they were. -/
theorem threads_pause_of_beside (aside : operation.isOnSession = false) (course : Course)
    (number : Nat) (piece : Errand.Paused Outcome × Visit) :
    (course.pause number operation piece).threads = course.threads := by
  rcases piece with ⟨_ | _ | _, visit⟩
  · rfl
  all_goals
    simp only [threads, sessionWaiting, pause, wait, note, List.filter_append,
      List.filter_singleton, aside, cond_false, List.append_nil]

/-- What waits on the session without an operation is what waited without it. -/
theorem sessionWaiting_without (course : Course) (number : Nat) :
    (course.without number).sessionWaiting =
      course.sessionWaiting.filter (·.number != number) := by
  rw [sessionWaiting, without, sessionWaiting, List.filter_filter, List.filter_filter]
  exact List.filter_congr fun waiting _ => Bool.and_comm _ _

/-- An operation that is not on the session is not among those that wait on it. -/
theorem threads_resumes_of_beside (resumes : Resumes before number operation cue resumed)
    (numbered : before.Numbered) (aside : operation.isOnSession = false) :
    resumed.threads = before.threads := by
  have without {paused : Errand.Paused Outcome}
      (waits : ⟨number, operation, paused⟩ ∈ before.waiting) :
      (before.without number).sessionWaiting = before.sessionWaiting := by
    rw [sessionWaiting_without]
    refine List.filter_eq_self.2 fun waiting mem => bne_iff_ne.2 fun same => ?_
    obtain ⟨mem, session⟩ := List.mem_filter.1 mem
    cases numbered.eq mem waits same
    cases aside.symm.trans session
  cases resumes with
  | start operation => rfl
  | answer waits answer => exact congrArg (List.map _) (without waits)
  | wake waits => exact congrArg (List.map _) (without waits)

/-- To leave out what has a number is to leave out what stands in its place. -/
theorem filter_number_ne {waiting : List Waiting} (nodup : (waiting.map Waiting.number).Nodup)
    {left : Waiting} (waits : waiting[index]? = some left) :
    waiting.filter (·.number != left.number) = waiting.eraseIdx index := by
  induction waiting generalizing index with
  | nil => cases waits
  | cons earlier waiting ih =>
      obtain ⟨fresh, nodup⟩ := List.nodup_cons.1 nodup
      cases index with
      | zero =>
          cases waits
          rw [List.filter_cons_of_neg (by simp)]
          refine List.filter_eq_self.2 fun other mem => bne_iff_ne.2 fun same => fresh ?_
          exact same ▸ List.mem_map_of_mem mem
      | succ index =>
          have mem : left ∈ waiting := List.mem_of_getElem? waits
          have other : earlier.number ≠ left.number := fun same =>
            fresh (same ▸ List.mem_map_of_mem mem)
          have kept : (earlier.number != left.number) = true := bne_iff_ne.2 other
          rw [List.filter_cons, if_pos kept, ih nodup waits]
          rfl

/-- Taking an operation out takes out its place among the threads. -/
theorem threads_without (numbered : course.Numbered) {left : Waiting}
    (waits : course.sessionWaiting[index]? = some left) :
    (course.without left.number).threads = course.threads.eraseIdx index := by
  have nodup : (course.sessionWaiting.map Waiting.number).Nodup :=
    numbered.nodup.sublist (List.filter_sublist.map _)
  rw [threads, sessionWaiting_without, filter_number_ne nodup waits, threads, List.eraseIdx_map]

/-- The place of an operation is that of its thread. -/
theorem getElem?_threads {left : Waiting}
    (waits : course.sessionWaiting[index]? = some left) :
    course.threads[index]? = some (left.operation, left.paused) := by
  rw [threads, List.getElem?_map, waits]
  rfl

/-! ## Pieces of operations on the session -/

/-- An operation on the session sees nothing else of a visit, in all that is left of it. -/
theorem Reaches.sees (reaches : Reaches (opening settings outside storage state) course) :
    ∀ waiting ∈ course.sessionWaiting, StillSees Visit.pagesView waiting.paused := by
  have persists : Operation.Persists fun operation paused =>
      operation.isOnSession = true → StillSees Visit.pagesView paused :=
    { answered := fun sees answer visit session => (sees session answer).stillSees visit
      woken := fun sees visit session => (sees session).stillSees visit }
  intro waiting mem
  obtain ⟨mem, session⟩ := List.mem_filter.1 mem
  refine (reaches.persists persists ?_ waiting mem).1 session
  exact fun operation visit session => (Operation.seesPages_errand session).stillSees visit

/-- An operation on the session keeps to the tracking of pages, in all that is left of it. -/
theorem Reaches.tracks (reaches : Reaches (opening settings outside storage state) course)
    (proceeds : course.Proceeds number operation cue piece)
    (session : operation.isOnSession = true) : course.visit.Apart piece.2 := by
  have persists : Operation.Persists fun operation paused => operation.isOnSession = true →
      StillKeeps Visit.Apart (fun call => call.isSession = true) (fun _ => True) paused :=
    { answered := fun tracks answer visit session => (tracks session answer).stillKeeps visit
      woken := fun tracks visit session => (tracks session).stillKeeps visit }
  have begins (operation : Operation) (visit : Visit) (session : operation.isOnSession = true) :
      StillKeeps Visit.Apart (fun call => call.isSession = true) (fun _ => True)
        (operation.errand.run visit).1 :=
    (Operation.tracks_errand session).stillKeeps visit
  cases proceeds with
  | start => exact (Operation.tracks_errand session).moves course.visit
  | answer waits answer =>
      exact ((reaches.persists persists begins _ waits).1 session answer).moves course.visit
  | wake waits =>
      exact Errand.Keeps.moves ((reaches.persists persists begins _ waits).1 session) course.visit

/-! ## The same in two courses -/

namespace Alike

/-- Courses that look alike and pause alike look alike. -/
theorem pause (session : operation.isOnSession = true)
    (threads : resumed.threads = resumed'.threads)
    (same : piece.1 = piece'.1 ∧ piece.2.pagesView = piece'.2.pagesView) :
    (resumed.pause number operation piece).Alike (resumed'.pause number' operation piece') where
  pages := by
    rw [pause_visit, pause_visit]
    exact same.2
  threads := by rw [threads_pause session, threads_pause session, threads, same.1]

/-- Courses that look alike look alike after the same start. -/
theorem start (alike : before.Alike before') (session : operation.isOnSession = true) :
    (before.start operation).Alike (before'.start operation) :=
  pause session alike.threads ((Operation.seesPages_errand session).same alike.pages)

/-- What waits in the same place is the same. -/
theorem eq_of_waits (alike : before.Alike before') {paused paused' : Errand.Paused Outcome}
    (waits : before.sessionWaiting[index]? = some ⟨number, operation, paused⟩)
    (waits' : before'.sessionWaiting[index]? = some ⟨number', operation', paused'⟩) :
    operation = operation' ∧ paused = paused' := by
  have same := getElem?_threads waits'
  rw [← alike.threads, getElem?_threads waits] at same
  exact Prod.mk.inj (Option.some.inj same)

/-- Courses that look alike do so without the operations of one place. -/
theorem without (alike : before.Alike before') (numbered : before.Numbered)
    (numbered' : before'.Numbered) {left left' : Waiting}
    (waits : before.sessionWaiting[index]? = some left)
    (waits' : before'.sessionWaiting[index]? = some left') :
    (before.without left.number).threads = (before'.without left'.number).threads := by
  rw [threads_without numbered waits, threads_without numbered' waits', alike.threads]

variable (alike : before.Alike before')
  (reaches : Reaches (opening settings outside storage state) before)
  (reaches' : Reaches (opening settings outside storage state) before')

include alike reaches reaches'

/-- Courses that look alike look alike after the same answer at the same place. -/
theorem answer {call : Call} {next next' : call.Answer → Errand Outcome}
    (waits : before.sessionWaiting[index]? = some ⟨number, operation, .calling call next⟩)
    (waits' : before'.sessionWaiting[index]? = some ⟨number', operation', .calling call next'⟩)
    (answer : call.Answer) :
    (before.answer number operation call next answer).Alike
      (before'.answer number' operation' call next' answer) := by
  obtain ⟨rfl, same⟩ := alike.eq_of_waits waits waits'
  cases same
  have mem := List.mem_of_getElem? waits
  refine pause (List.mem_filter.1 mem).2 ?_ ((reaches.sees _ mem answer).same alike.pages)
  exact alike.without reaches.numbered reaches'.numbered waits waits'

/-- Courses that look alike look alike when the operations of one place are woken. -/
theorem wake {wakeUp wakeUp' : Nat} {next next' : Errand Outcome}
    (waits : before.sessionWaiting[index]? = some ⟨number, operation, .sleeping wakeUp next⟩)
    (waits' : before'.sessionWaiting[index]? =
      some ⟨number', operation', .sleeping wakeUp' next'⟩) :
    (before.wake number operation next).Alike (before'.wake number' operation' next') := by
  obtain ⟨rfl, same⟩ := alike.eq_of_waits waits waits'
  cases same
  have mem := List.mem_of_getElem? waits
  refine pause (List.mem_filter.1 mem).2 ?_ (SeesOnly.same (reaches.sees _ mem) alike.pages)
  exact alike.without reaches.numbered reaches'.numbered waits waits'

end Alike

end Course

end VisitorLink
