import Mathlib.Data.List.Chain
import PromptClient.Proofs.Polling
import PromptClient.Rehearsal.Errands

/-! # The course of an errand

An errand waits for one thing after the other: for its job, and then in turn for the answer to
a look-up and for the end of a pause. Its course is what it waits for when nobody calls it
off. -/

namespace PromptClient

namespace Clockwork

theorem wakeTime_le_lastTime (now : Nat) (length : Duration) :
    wakeTime now length ≤ lastTime :=
  Nat.min_le_right _ _

theorem le_wakeTime {now : Nat} (within : now ≤ lastTime) (length : Duration) :
    now ≤ wakeTime now length := by
  apply Nat.le_min.mpr
  exact ⟨Nat.le_add_right _ _, within⟩

/-- Until the clock stops, every pause takes some time. -/
theorem lt_wakeTime {now : Nat} {length : Duration} (runs : now < lastTime)
    (positive : 0 < length.nanoseconds) : now < wakeTime now length := by
  apply Nat.lt_min.mpr
  refine ⟨?_, runs⟩
  split
  · have started : 0 < length.ceilMilliseconds := by
      apply Nat.div_pos
      · omega
      · decide
    omega
  · have far : 0 < farAway := by decide
    omega

end Clockwork

namespace Errand

open Clockwork

variable {β : Type} [Answering β] {policy : PollPolicy}

/-! ## Steps -/

namespace Progress

/-- After the wait that begins with an event. -/
def after (policy : PollPolicy) (progress : Progress β) (event : ErrandEvent) : Progress β :=
  (progress.waiting event).resume policy (progress.wait event)

variable (progress : Progress β) (event : ErrandEvent)

@[simp] theorem wait_event : (progress.wait event).event = event :=
  rfl

@[simp] theorem wait_begun : (progress.wait event).begun = progress.time :=
  rfl

@[simp] theorem waiting_errand : (progress.waiting event).errand = progress.errand :=
  rfl

@[simp] theorem waiting_events :
    (progress.waiting event).events = event :: progress.events :=
  rfl

@[simp] theorem after_errand : (progress.after policy event).errand =
    progress.errand.next policy (progress.wait event).reply :=
  rfl

theorem after_eq : progress.after policy event =
    { errand := progress.errand.next policy (expect progress.script event).1
      script := (expect progress.script event).2.2
      time := (progress.wait event).ended
      events := event :: progress.events } :=
  rfl

@[simp] theorem after_time :
    (progress.after policy event).time = (progress.wait event).ended :=
  rfl

@[simp] theorem after_events :
    (progress.after policy event).events = event :: progress.events :=
  rfl

theorem after_time_le_lastTime (policy : PollPolicy) :
    (progress.after policy event).time ≤ lastTime :=
  wakeTime_le_lastTime _ _

theorem time_le_wait_ended {progress : Progress β} (within : progress.time ≤ lastTime)
    (event : ErrandEvent) : progress.time ≤ (progress.wait event).ended :=
  le_wakeTime within _

end Progress

theorem playFor_over {progress : Progress β} (closed : progress.errand.event? policy = none)
    (callOff : Option Nat) (steps : Nat) :
    playFor policy callOff steps progress = progress := by
  cases steps with
  | zero => rfl
  | succ steps => simp only [playFor, closed]

theorem playFor_step {progress : Progress β} {event : ErrandEvent}
    (happens : progress.errand.event? policy = some event) (steps : Nat) :
    playFor policy none (steps + 1) progress =
      playFor policy none steps (progress.after policy event) := by
  simp only [playFor, happens]
  rfl

/-- Called off during a wait, an errand stays in it. -/
theorem playFor_stays {progress : Progress β} {event : ErrandEvent} {time : Nat}
    (happens : progress.errand.event? policy = some event)
    (before : time < (progress.wait event).ended) (steps : Nat) :
    playFor policy (some time) (steps + 1) progress = progress.waiting event := by
  simp [playFor, happens, before]

theorem playFor_goesOn {progress : Progress β} {event : ErrandEvent} {time : Nat}
    (happens : progress.errand.event? policy = some event)
    (later : (progress.wait event).ended ≤ time) (steps : Nat) :
    playFor policy (some time) (steps + 1) progress =
      playFor policy (some time) steps (progress.after policy event) := by
  simp [playFor, happens, Nat.not_lt.mpr later, Progress.after]

theorem playFor_add (first second : Nat) (progress : Progress β) :
    playFor policy none (first + second) progress =
      playFor policy none second (playFor policy none first progress) := by
  induction first generalizing progress with
  | zero => rw [Nat.zero_add, playFor]
  | succ first induction =>
      rw [Nat.succ_add]
      cases happens : progress.errand.event? policy with
      | none => simp only [playFor_over happens]
      | some event => rw [playFor_step happens, playFor_step happens, induction]

theorem time_le_playFor (policy : PollPolicy) {progress : Progress β}
    (within : progress.time ≤ lastTime) (steps : Nat) :
    progress.time ≤ (playFor policy none steps progress).time := by
  induction steps generalizing progress with
  | zero => exact Nat.le_refl _
  | succ steps induction =>
      cases happens : progress.errand.event? policy with
      | none => exact Nat.le_of_eq (congrArg (·.time) (playFor_over happens none _).symm)
      | some event =>
          rw [playFor_step happens]
          apply Nat.le_trans (Progress.time_le_wait_ended within event)
          exact induction (progress.after_time_le_lastTime event policy)

/-! ## The waits in order -/

/-- What an errand waits for in so many steps when nobody calls it off. -/
def course (policy : PollPolicy) : (steps : Nat) → Progress β → List Wait
  | 0, _ => []
  | steps + 1, progress =>
      match progress.errand.event? policy with
      | none => []
      | some event => progress.wait event :: course policy steps (progress.after policy event)

theorem course_over {progress : Progress β} (closed : progress.errand.event? policy = none)
    (steps : Nat) : course policy steps progress = [] := by
  cases steps with
  | zero => rfl
  | succ steps => simp only [course, closed]

theorem course_step {progress : Progress β} {event : ErrandEvent}
    (happens : progress.errand.event? policy = some event) (steps : Nat) :
    course policy (steps + 1) progress =
      progress.wait event :: course policy steps (progress.after policy event) := by
  simp only [course, happens]

theorem course_add (first second : Nat) (progress : Progress β) :
    course policy (first + second) progress =
      course policy first progress ++
        course policy second (playFor policy none first progress) := by
  induction first generalizing progress with
  | zero => simp [course, playFor]
  | succ first induction =>
      rw [Nat.succ_add]
      cases happens : progress.errand.event? policy with
      | none => simp only [course_over happens, playFor_over happens, List.append_nil]
      | some event =>
          rw [course_step happens, course_step happens, playFor_step happens, induction,
            List.cons_append]

/-- The course of an errand that comes to its end ends with it. -/
theorem mem_course_of_over {progress : Progress β} {enough : Nat}
    (closed : (playFor policy none enough progress).errand.event? policy = none) {steps : Nat}
    {wait : Wait} (found : wait ∈ course policy steps progress) :
    wait ∈ course policy enough progress := by
  have longer : wait ∈ course policy (steps + enough) progress := by
    rw [course_add]
    exact List.mem_append_left _ found
  rw [Nat.add_comm, course_add, course_over closed, List.append_nil] at longer
  exact longer

theorem playFor_events (steps : Nat) (progress : Progress β) :
    (playFor policy none steps progress).events.reverse =
      progress.events.reverse ++ (course policy steps progress).map (·.event) := by
  induction steps generalizing progress with
  | zero => simp [playFor, course]
  | succ steps induction =>
      cases happens : progress.errand.event? policy with
      | none => simp [playFor_over happens, course_over happens]
      | some event => simp [playFor_step happens, course_step happens, induction]

theorem course_times {progress : Progress β} (within : progress.time ≤ lastTime) (steps : Nat) :
    ∀ wait ∈ course policy steps progress,
      progress.time ≤ wait.begun ∧ wait.begun ≤ wait.ended := by
  induction steps generalizing progress with
  | zero => simp [course]
  | succ steps induction =>
      intro wait found
      cases happens : progress.errand.event? policy with
      | none =>
          rw [course_over happens] at found
          cases found
      | some event =>
          rw [course_step happens] at found
          have passes := Progress.time_le_wait_ended within event
          rcases List.mem_cons.mp found with rfl | found
          · exact ⟨Nat.le_refl _, passes⟩
          · have later := induction (progress.after_time_le_lastTime event policy) wait found
            exact ⟨Nat.le_trans passes later.1, later.2⟩

/-- A course begins with the wait in which the errand is. -/
theorem course_head {progress : Progress β} {steps : Nat} {wait : Wait}
    (first : (course policy steps progress).head? = some wait) :
    wait.begun = progress.time := by
  cases steps with
  | zero => cases first
  | succ steps =>
      cases happens : progress.errand.event? policy with
      | none =>
          rw [course_over happens] at first
          cases first
      | some event =>
          rw [course_step happens] at first
          cases first
          rfl

/-- Nothing is waited for before the wait for something else has ended. -/
theorem course_unbroken (steps : Nat) (progress : Progress β) :
    (course policy steps progress).IsChain fun wait next => next.begun = wait.ended := by
  induction steps generalizing progress with
  | zero => exact .nil
  | succ steps induction =>
      cases happens : progress.errand.event? policy with
      | none =>
          rw [course_over happens]
          exact .nil
      | some event =>
          rw [course_step happens]
          apply List.IsChain.cons (induction _)
          intro next first
          exact course_head first

/-! ## What is waited for -/

/-- An errand that asks for nothing but the result of a job. -/
def IsFor (key : String) : Errand → Prop
  | .creating _ => False
  | .asking job _ => job.key = key
  | .resting job _ => job.key = key
  | .finished _ _ => True
  | .crashed => True

theorem IsFor.next {key : String} {errand : Errand} (isFor : errand.IsFor key)
    (policy : PollPolicy) (reply : Reply) : (errand.next policy reply).IsFor key := by
  cases errand with
  | creating submission => cases isFor
  | asking job waited =>
      rcases next_asking_cases policy job waited reply with
        ⟨rests, -⟩ | ⟨status, outcome, ends⟩ | crashes
      · rw [rests]
        exact isFor
      · rw [ends]
        trivial
      · rw [crashes]
        trivial
  | resting job waited =>
      rcases next_resting_cases policy job waited reply with asks | crashes
      · rw [asks]
        exact isFor
      · rw [crashes]
        trivial
  | finished job outcome =>
      rw [next_finished]
      trivial
  | crashed =>
      rw [next_crashed]
      trivial

theorem IsFor.event {key : String} {errand : Errand} {event : ErrandEvent}
    (isFor : errand.IsFor key) (happens : errand.event? policy = some event) :
    event = .call (.fetch key) ∨ event = .pause policy.interval := by
  cases errand with
  | creating submission => cases isFor
  | asking job waited =>
      cases happens
      exact .inl (congrArg (fun key => ErrandEvent.call (.fetch key)) isFor)
  | resting job waited =>
      cases happens
      exact .inr rfl
  | finished job outcome => cases happens
  | crashed => cases happens

theorem IsFor.course {key : String} {progress : Progress β}
    (isFor : progress.errand.IsFor key) (steps : Nat) :
    ∀ wait ∈ course policy steps progress,
      wait.event = .call (.fetch key) ∨ wait.event = .pause policy.interval := by
  induction steps generalizing progress with
  | zero => simp [Errand.course]
  | succ steps induction =>
      intro wait found
      cases happens : progress.errand.event? policy with
      | none =>
          rw [course_over happens] at found
          cases found
      | some event =>
          rw [course_step happens] at found
          rcases List.mem_cons.mp found with rfl | found
          · exact isFor.event happens
          · exact induction (isFor.next policy _) wait found

theorem asking_of_fetch {errand : Errand} {key : String}
    (happens : errand.event? policy = some (.call (.fetch key))) :
    ∃ job waited, errand = .asking job waited := by
  cases errand with
  | asking job waited => exact ⟨job, waited, rfl⟩
  | creating submission => cases happens
  | resting job waited => cases happens
  | finished job outcome => cases happens
  | crashed => cases happens

/-- What a look-up decides about the errand. -/
def verdict? : Except PollFault Lookup → Option (Except Failure String)
  | .error fault => some (.error (.poll fault))
  | .ok (.ready body) => some (.ok body)
  | .ok .notReady => none

theorem next_asking_of_verdict (policy : PollPolicy) (job : Job) (waited : Duration)
    {answer : Except PollFault Lookup} {outcome : Except Failure String}
    (decides : verdict? answer = some outcome) :
    ∃ ended, next policy (.asking job waited) (.found answer) = .finished ended outcome := by
  rcases answer with fault | lookup
  · cases decides
    exact ⟨_, rfl⟩
  · cases lookup with
    | ready body =>
        cases decides
        exact ⟨_, rfl⟩
    | notReady => cases decides

/-- A look-up that decides is the last thing waited for. -/
theorem course_decided {progress : Progress β} {steps : Nat} {earlier later : List Wait}
    {wait : Wait} {key : String} {answer : Except PollFault Lookup}
    {outcome : Except Failure String}
    (waits : course policy steps progress = earlier ++ wait :: later)
    (asked : wait.event = .call (.fetch key)) (answered : wait.reply = .found answer)
    (decides : verdict? answer = some outcome) :
    later = [] ∧ (playFor policy none steps progress).errand.joined? = some outcome := by
  induction steps generalizing progress earlier with
  | zero => simp [course] at waits
  | succ steps induction =>
      cases happens : progress.errand.event? policy with
      | none => simp [course_over happens] at waits
      | some event =>
          rw [course_step happens] at waits
          rw [playFor_step happens]
          cases earlier with
          | cons first earlier => exact induction (List.cons.inj waits).2
          | nil =>
              rcases List.cons.inj waits with ⟨rfl, rest⟩
              have same : event = .call (.fetch key) := asked
              subst same
              rcases asking_of_fetch happens with ⟨job, waited, asking⟩
              rcases next_asking_of_verdict policy job waited decides with ⟨ended, ends⟩
              have finished : (progress.after policy (.call (.fetch key))).errand =
                  .finished ended outcome := by
                rw [Progress.after_errand, asking, answered, ends]
              have closed : (progress.after policy (.call (.fetch key))).errand.event? policy =
                  none := by
                rw [finished]
                rfl
              rw [course_over closed] at rest
              rw [playFor_over closed, finished]
              exact ⟨rest.symm, rfl⟩

/-! ## Getting on -/

/-- How far the point where an errand waits is into a round of look-up and pause. -/
def roundSteps : Errand → Nat
  | .creating _ => 0
  | .asking _ _ => 1
  | .resting _ _ => 2
  | .finished _ _ => 0
  | .crashed => 0

theorem after_getsOn {progress : Progress β} {event : ErrandEvent}
    (positive : 0 < policy.interval.nanoseconds) (runs : progress.time < lastTime)
    (happens : progress.errand.event? policy = some event) :
    (progress.after policy event).errand.event? policy = none ∨
      2 * progress.time + roundSteps progress.errand <
        2 * (progress.after policy event).time +
          roundSteps (progress.after policy event).errand := by
  have passes : progress.time ≤ (progress.after policy event).time :=
    Progress.time_le_wait_ended (Nat.le_of_lt runs) event
  rw [Progress.after_errand]
  cases waits : progress.errand with
  | creating submission =>
      rcases next_creating_cases policy submission (progress.wait event).reply with
        ⟨key, asks⟩ | ⟨fault, ends⟩ | crashes
      · right
        rw [asks]
        change _ + 0 < _ + 1
        omega
      · exact .inl (by rw [ends]; rfl)
      · exact .inl (by rw [crashes]; rfl)
  | asking job waited =>
      rcases next_asking_cases policy job waited (progress.wait event).reply with
        ⟨rests, -⟩ | ⟨status, outcome, ends⟩ | crashes
      · right
        rw [rests]
        change _ + 1 < _ + 2
        omega
      · exact .inl (by rw [ends]; rfl)
      · exact .inl (by rw [crashes]; rfl)
  | resting job waited =>
      rw [waits] at happens
      cases happens
      have lasts : progress.time < (progress.after policy (.pause policy.interval)).time :=
        lt_wakeTime runs positive
      rcases next_resting_cases policy job waited
        (progress.wait (.pause policy.interval)).reply with asks | crashes
      · right
        rw [asks]
        change _ + 2 < _ + 1
        omega
      · exact .inl (by rw [crashes]; rfl)
  | finished job outcome => rw [waits] at happens; cases happens
  | crashed => rw [waits] at happens; cases happens

/-- With pauses of some length, an errand comes to its end or goes on beyond any time that the
clock shows. By induction on the steps, each of which brings it on by a part of a round. -/
theorem playFor_getsOn {progress : Progress β} {time : Nat}
    (positive : 0 < policy.interval.nanoseconds) (shown : time < lastTime)
    (within : progress.time ≤ lastTime) (steps : Nat) :
    (playFor policy none steps progress).errand.event? policy = none ∨
      time < (playFor policy none steps progress).time ∨
      2 * progress.time + roundSteps progress.errand + steps ≤
        2 * (playFor policy none steps progress).time +
          roundSteps (playFor policy none steps progress).errand := by
  induction steps generalizing progress with
  | zero => exact .inr (.inr (Nat.le_refl _))
  | succ steps induction =>
      cases happens : progress.errand.event? policy with
      | none =>
          left
          rw [playFor_over happens, happens]
      | some event =>
          have before := time_le_playFor policy within (steps + 1)
          rw [playFor_step happens] at before ⊢
          rcases Nat.lt_or_ge progress.time lastTime with runs | stopped
          · rcases after_getsOn positive runs happens with closed | getsOn
            · left
              rw [playFor_over closed, closed]
            · rcases induction (progress.after_time_le_lastTime event policy) with
                closed | beyond | later
              · exact .inl closed
              · exact .inr (.inl beyond)
              · right; right; omega
          · right; left; omega

theorem playFor_ends_or_passes {progress : Progress β} {time : Nat}
    (positive : 0 < policy.interval.nanoseconds) (shown : time < lastTime)
    (within : progress.time ≤ lastTime) :
    ∃ steps, (playFor policy none (steps + 1) progress).errand.event? policy = none ∨
      time < (playFor policy none (steps + 1) progress).time := by
  refine ⟨2 * time + 2, ?_⟩
  rcases playFor_getsOn positive shown within (2 * time + 2 + 1) with closed | beyond | later
  · exact .inl closed
  · exact .inr beyond
  · right
    have few : roundSteps (playFor policy none (2 * time + 2 + 1) progress).errand ≤ 2 := by
      cases (playFor policy none (2 * time + 2 + 1) progress).errand <;> simp [roundSteps]
    omega

end Errand

end PromptClient
