import PromptClient.Proofs.Course

/-! # Calling an errand off

An errand that runs in the background may be called off at any time. Up to then it does what it
would have done anyway, and from then on nothing. -/

namespace PromptClient

namespace Errand

open Clockwork

variable {β : Type} [Answering β] {policy : PollPolicy}

/-! ## Called off at a time -/

theorem joined?_of_waiting {errand : Errand} {event : ErrandEvent}
    (happens : errand.event? policy = some event) :
    errand.joined? = some (.error .cancelled) := by
  cases errand with
  | creating submission => rfl
  | asking job waited => rfl
  | resting job waited => rfl
  | finished job outcome => cases happens
  | crashed => cases happens

theorem isOver_of_event? {errand : Errand} (closed : errand.event? policy = none) :
    errand.isOver = true := by
  cases errand with
  | creating submission => cases closed
  | asking job waited => cases closed
  | resting job waited => cases closed
  | finished job outcome => rfl
  | crashed => rfl

/-- An errand as it is called off, beside the same errand when nobody calls it off: it has done
what the other has done before that time. If the other is still before it, the two are
alike; if the other is beyond it, nothing more is done. -/
structure CalledOff (policy : PollPolicy) (time : Nat) (progress : Progress β)
    (steps : Nat) : Prop where
  events : (playFor policy (some time) steps progress).events.reverse =
    progress.events.reverse ++
      ((course policy steps progress).filter (·.begun < time)).map (·.event)
  alike : (playFor policy none steps progress).time < time →
    playFor policy (some time) steps progress = playFor policy none steps progress
  cancelled : time < (playFor policy none steps progress).time →
    (playFor policy (some time) steps progress).errand.joined? = some (.error .cancelled)
  still : time < (playFor policy none steps progress).time →
    ∀ more, playFor policy (some time) (steps + more) progress =
      playFor policy (some time) steps progress
  decided : (playFor policy none steps progress).time ≠ time

theorem calledOff_over {progress : Progress β} {time : Nat} (before : progress.time < time)
    (closed : progress.errand.event? policy = none) (steps : Nat) :
    CalledOff policy time progress steps := by
  refine ⟨?_, ?_, ?_, ?_, ?_⟩
  · simp [playFor_over closed, course_over closed]
  · intro _
    simp only [playFor_over closed]
  · rw [playFor_over closed]
    omega
  · rw [playFor_over closed]
    omega
  · rw [playFor_over closed]
    omega

/-- Called off during a wait, an errand begins none of the waits after it. -/
theorem calledOff_now {progress : Progress β} {event : ErrandEvent} {time : Nat}
    (happens : progress.errand.event? policy = some event) (before : progress.time < time)
    (during : time < (progress.wait event).ended) (steps : Nat) :
    CalledOff policy time progress (steps + 1) := by
  have ended := progress.after_time_le_lastTime event policy
  have beyond : time < (playFor policy none (steps + 1) progress).time := by
    rw [playFor_step happens]
    apply Nat.lt_of_lt_of_le during
    exact time_le_playFor policy ended steps
  refine ⟨?_, ?_, ?_, ?_, Nat.ne_of_gt beyond⟩
  · -- Whatever comes after this wait begins when it has ended.
    have none_later : (course policy steps (progress.after policy event)).filter
        (·.begun < time) = [] := by
      rw [List.filter_eq_nil_iff]
      intro wait found
      have later := (course_times ended steps wait found).1
      rw [Progress.after_time] at later
      simp only [decide_eq_true_eq]
      omega
    rw [playFor_stays happens during, course_step happens, List.filter_cons, none_later]
    simp [before]
  · omega
  · intro _
    rw [playFor_stays happens during]
    exact joined?_of_waiting happens
  · intro _ more
    rw [playFor_stays happens during, Nat.add_right_comm, playFor_stays happens during]

/-- What holds of an errand after a wait that ends in time holds before it. -/
theorem CalledOff.earlier {progress : Progress β} {event : ErrandEvent} {time steps : Nat}
    (happens : progress.errand.event? policy = some event) (before : progress.time < time)
    (ended : (progress.wait event).ended < time)
    (later : CalledOff policy time (progress.after policy event) steps) :
    CalledOff policy time progress (steps + 1) := by
  have goesOn := playFor_goesOn happens (Nat.le_of_lt ended)
  refine ⟨?_, ?_, ?_, ?_, ?_⟩
  · rw [goesOn, later.events, course_step happens, List.filter_cons]
    simp [before]
  · rw [goesOn, playFor_step happens]
    exact later.alike
  · rw [goesOn, playFor_step happens]
    exact later.cancelled
  · rw [playFor_step happens]
    intro beyond more
    rw [Nat.add_right_comm, goesOn, goesOn]
    exact later.still beyond more
  · rw [playFor_step happens]
    exact later.decided

/-- By induction on the steps: a wait ends before an errand is called off or after it. -/
theorem calledOff {progress : Progress β} {time : Nat} (before : progress.time < time)
    (steps : Nat) (apart : ∀ wait ∈ course policy steps progress, wait.ended ≠ time) :
    CalledOff policy time progress steps := by
  induction steps generalizing progress with
  | zero =>
      refine ⟨by simp [playFor, course], fun _ => rfl, ?_, ?_, ?_⟩
      · rw [playFor]
        omega
      · rw [playFor]
        omega
      · rw [playFor]
        omega
  | succ steps induction =>
      cases happens : progress.errand.event? policy with
      | none => exact calledOff_over before happens (steps + 1)
      | some event =>
          rw [course_step happens, List.forall_mem_cons] at apart
          rcases apart with ⟨other, apart⟩
          rcases Nat.lt_or_gt_of_ne other with ended | during
          · exact (induction ended apart).earlier happens before ended
          · exact calledOff_now happens before during steps

/-! ## From the beginning -/

/-- The waits of a job and what waiting for it comes to. -/
structure Orderly (policy : PollPolicy) (submission : Submission) (waits : List Wait)
    (result : Option (Except Failure String)) : Prop where
  /-- One thing is waited for at a time. -/
  unbroken : waits.IsChain fun wait next => next.begun = wait.ended
  forwards : ∀ wait ∈ waits, wait.begun ≤ wait.ended
  /-- The job is created first. Whatever comes later is about the job with the key that was
  given for it, and nothing comes later if there is no such key. -/
  created : ∃ first later, waits = first :: later ∧
    first.event = .call (.create submission) ∧ first.begun = 0 ∧
    (∀ fault, first.reply = .created (.error fault) →
      later = [] ∧ result = some (.error (.submission fault))) ∧
    (∀ key, first.reply = .created (.ok key) → ∀ wait ∈ later,
      wait.event = .call (.fetch key) ∨ wait.event = .pause policy.interval) ∧
    ((∀ key, first.reply ≠ .created (.ok key)) → later = [])
  /-- A look-up that fails or finds a result is the last one. -/
  decided : ∀ earlier wait later key answer outcome, waits = earlier ++ wait :: later →
    wait.event = .call (.fetch key) → wait.reply = .found answer →
    verdict? answer = some outcome → later = [] ∧ result = some outcome

theorem orderly (policy : PollPolicy) (submission : Submission) (script : β) (steps : Nat) :
    let start : Progress β := .start (.creating submission) script
    Orderly policy submission (course policy (steps + 1) start)
      (playFor policy none (steps + 1) start).errand.joined? := by
  intro start
  have within : start.time ≤ lastTime := Nat.zero_le _
  have happens : start.errand.event? policy = some (.call (.create submission)) := rfl
  have next : (start.after policy (.call (.create submission))).errand =
      (Errand.creating submission).next policy
        (start.wait (.call (.create submission))).reply := rfl
  refine ⟨course_unbroken _ _, fun wait found => (course_times within _ wait found).2, ?_, ?_⟩
  · refine ⟨_, _, course_step happens steps, rfl, rfl, ?_, ?_, ?_⟩
    · intro fault refused
      rw [refused] at next
      have closed : (start.after policy (.call (.create submission))).errand.event? policy =
          none := by
        rw [next]
        rfl
      rw [course_over closed, playFor_step happens, playFor_over closed, next]
      exact ⟨rfl, rfl⟩
    · intro key accepted
      rw [accepted] at next
      apply IsFor.course
      rw [next]
      rfl
    · intro refused
      apply course_over
      rw [next]
      generalize replied : (start.wait (.call (.create submission))).reply = reply
      rw [replied] at refused
      cases reply with
      | created outcome =>
          cases outcome with
          | ok key => exact absurd rfl (refused key)
          | error fault => rfl
      | found answer => rfl
      | rested => rfl
      | crashed => rfl
  · intro earlier wait later key answer outcome waits asked answered decides
    exact course_decided waits asked answered decides

/-- A job that runs in the background and is called off makes the calls that it would have made
before that time, in the same order, and no others. What it comes to is its own outcome if it
would have been over by then, and that it was called off if not. Otherwise it runs as a job
does that is waited for: it is created once and then looked up, one thing after the other and
until a look-up fails or finds a result. -/
theorem run_and_callOff (policy : PollPolicy) (submission : Submission) (script : β) :
    let start : Progress β := .start (.creating submission) script
    (∀ steps,
      let run := playFor policy none (steps + 1) start
      run.events.reverse = (course policy (steps + 1) start).map (·.event) ∧
      Orderly policy submission (course policy (steps + 1) start) run.errand.joined? ∧
      ∀ job outcome, run.errand = .finished job outcome → run.errand.joined? = some outcome) ∧
    ∀ time, (∀ steps, ∀ wait ∈ course policy steps start,
        wait.begun ≠ time ∧ wait.ended ≠ time) →
      (∀ steps,
        let run := playFor policy none (steps + 1) start
        let task := playFor policy (some time) (steps + 1) start
        task.events.reverse =
          ((course policy (steps + 1) start).filter (·.begun < time)).map (·.event) ∧
        (run.time < time → task = run) ∧
        (time < run.time → task.errand.joined? = some (.error .cancelled) ∧
          ∀ more, playFor policy (some time) (steps + 1 + more) start = task) ∧
        run.time ≠ time) ∧
      (0 < policy.interval.nanoseconds → time < lastTime →
        ∃ steps,
          (playFor policy none (steps + 1) start).errand.isOver = true ∨
          time < (playFor policy none (steps + 1) start).time) := by
  intro start
  have within : start.time ≤ lastTime := Nat.zero_le _
  constructor
  · intro steps run
    refine ⟨playFor_events (steps + 1) start, orderly policy submission script steps, ?_⟩
    intro job outcome ends
    rw [ends]
    rfl
  · intro time apart
    -- The creation begins at zero, and nothing begins at the time in question.
    have before : start.time < time := by
      have first := apart 1 (start.wait (.call (.create submission))) List.mem_cons_self
      exact Nat.pos_of_ne_zero fun zero => first.1 zero.symm
    constructor
    · intro steps run task
      have alone := fun wait found => (apart (steps + 1) wait found).2
      have off := calledOff before (steps + 1) alone
      exact ⟨off.events, off.alike, fun beyond => ⟨off.cancelled beyond, off.still beyond⟩,
        off.decided⟩
    · intro positive shown
      rcases playFor_ends_or_passes positive shown within with ⟨steps, closed | beyond⟩
      · exact ⟨steps, .inl (isOver_of_event? closed)⟩
      · exact ⟨steps, .inr beyond⟩

/-- A job that is created after two seconds and found at its second look-up, which is at once
after a pause of half a minute: ten seconds are too short for it, forty are enough. -/
theorem run_and_callOff_script :
    let policy : PollPolicy := ⟨Duration.ofSeconds 30, none⟩
    let submission : Submission := ⟨"p", ⟨"SlackChannel", "", "", false, []⟩, none⟩
    let script : Script :=
      ⟨[⟨.accept "job-1", Duration.ofSeconds 2⟩],
        [⟨.notReady 1, Duration.ofSeconds 1⟩, ⟨.ready "News", .zero⟩]⟩
    let start : Progress Script := .start (.creating submission) script
    (playFor policy none 9 start).errand.joined? = some (.ok "News") ∧
    (playFor policy (some 10000) 9 start).errand.joined? = some (.error .cancelled) ∧
    (playFor policy (some 10000) 9 start).events.reverse =
      [.call (.create submission), .call (.fetch "job-1"), .pause (Duration.ofSeconds 30)] ∧
    playFor policy (some 40000) 9 start = playFor policy none 9 start := by
  intro policy submission script start
  have closed : (playFor policy none 9 start).errand.event? policy = none := by decide +kernel
  have known : ∀ time ∈ [10000, 40000], ∀ wait ∈ course policy 9 start,
      wait.begun ≠ time ∧ wait.ended ≠ time := by decide +kernel
  have apart : ∀ time ∈ [10000, 40000], ∀ steps, ∀ wait ∈ course policy steps start,
      wait.begun ≠ time ∧ wait.ended ≠ time :=
    fun time given steps wait found => known time given wait (mem_course_of_over closed found)
  have early := (run_and_callOff policy submission script).2 10000 (apart 10000 (by decide))
  have late := (run_and_callOff policy submission script).2 40000 (apart 40000 (by decide))
  rcases early.1 8 with ⟨events, -, cancelled, -⟩
  rcases late.1 8 with ⟨-, alike, -, -⟩
  refine ⟨by rfl, (cancelled (by decide +kernel)).1, ?_, alike (by decide +kernel)⟩
  rw [events]
  decide +kernel

/-! ## Scripts -/

theorem sayToFetch_cases (key : String) (cues : List (Cue ResultLine)) :
    let (reply, _, rest) := Script.sayToFetch key cues
    (reply = .found (.ok .notReady) ∧
      (Script.mk [] rest).lookups < (Script.mk [] cues).lookups) ∨
    reply = .crashed ∨
    ∃ answer outcome, reply = .found answer ∧ verdict? answer = some outcome := by
  induction cues with
  | nil => exact .inr (.inr ⟨_, _, rfl, rfl⟩)
  | cons cue rest induction =>
      rcases cue with ⟨line, delay⟩
      cases line with
      | notReady times =>
          cases times with
          | zero => simpa [Script.sayToFetch, Script.lookups, Script.ResultLine.calls] using induction
          | succ times =>
              left
              refine ⟨rfl, ?_⟩
              simp only [Script.lookups, List.foldr_cons, Script.ResultLine.calls]
              omega
      | ready body => exact .inr (.inr ⟨_, _, rfl, rfl⟩)
      | fail status body => exact .inr (.inr ⟨_, _, rfl, rfl⟩)
      | unreachable => exact .inr (.inr ⟨_, _, rfl, rfl⟩)
      | crash => exact .inr (.inl rfl)

/-- The steps until a look-up has been answered. -/
def stepsToAnswer : Errand → Nat
  | .creating _ => 2
  | .asking _ _ => 1
  | .resting _ _ => 2
  | .finished _ _ => 0
  | .crashed => 0

/-- As many steps are left at most when a script answers. -/
def stepsLeft (progress : Progress Script) : Nat :=
  2 * progress.script.lookups + stepsToAnswer progress.errand

theorem after_stepsLeft {progress : Progress Script} {event : ErrandEvent}
    (happens : progress.errand.event? policy = some event) :
    (progress.after policy event).errand.event? policy = none ∨
      stepsLeft (progress.after policy event) < stepsLeft progress := by
  rw [stepsLeft, stepsLeft, Progress.after_errand]
  cases waits : progress.errand with
  | creating submission =>
      rw [waits] at happens
      cases happens
      rcases next_creating_cases policy submission
        (progress.wait (.call (.create submission))).reply with
        ⟨key, asks⟩ | ⟨fault, ends⟩ | crashes
      · right
        rw [asks]
        change 2 * progress.script.lookups + 1 < 2 * progress.script.lookups + 2
        omega
      · exact .inl (by rw [ends]; rfl)
      · exact .inl (by rw [crashes]; rfl)
  | asking job waited =>
      rw [waits] at happens
      cases happens
      rcases sayToFetch_cases job.key progress.script.results with
        ⟨unready, fewer⟩ | crashes | ⟨answer, outcome, answered, decides⟩
      · have replied : (progress.wait (.call (.fetch job.key))).reply =
            .found (.ok .notReady) := unready
        have left : (progress.after policy (.call (.fetch job.key))).script.lookups <
            progress.script.lookups := fewer
        rcases next_asking_cases policy job waited (.found (.ok .notReady)) with
          ⟨rests, -⟩ | ⟨status, outcome, ends⟩ | crashes
        · right
          rw [replied, rests]
          simp only [stepsToAnswer]
          omega
        · exact .inl (by rw [replied, ends]; rfl)
        · exact .inl (by rw [replied, crashes]; rfl)
      · have replied : (progress.wait (.call (.fetch job.key))).reply = .crashed := crashes
        exact .inl (by rw [replied]; rfl)
      · have replied : (progress.wait (.call (.fetch job.key))).reply = .found answer := answered
        rcases next_asking_of_verdict policy job waited decides with ⟨ended, ends⟩
        exact .inl (by rw [replied, ends]; rfl)
  | resting job waited =>
      rw [waits] at happens
      cases happens
      rcases next_resting_cases policy job waited
        (progress.wait (.pause policy.interval)).reply with asks | crashes
      · right
        rw [asks]
        change 2 * progress.script.lookups + 1 < 2 * progress.script.lookups + 2
        omega
      · exact .inl (by rw [crashes]; rfl)
  | finished job outcome => rw [waits] at happens; cases happens
  | crashed => rw [waits] at happens; cases happens

theorem playFor_comes_to_end {progress : Progress Script} (steps : Nat)
    (enough : stepsLeft progress ≤ steps) :
    (playFor policy none steps progress).errand.event? policy = none := by
  induction steps generalizing progress with
  | zero =>
      rcases progress with ⟨errand, script, time, events⟩
      cases errand with
      | creating submission => simp [stepsLeft, stepsToAnswer] at enough
      | asking job waited => simp [stepsLeft, stepsToAnswer] at enough
      | resting job waited => simp [stepsLeft, stepsToAnswer] at enough
      | finished job outcome => rfl
      | crashed => rfl
  | succ steps induction =>
      cases happens : progress.errand.event? policy with
      | none => rw [playFor_over happens, happens]
      | some event =>
          rw [playFor_step happens]
          rcases after_stepsLeft happens with closed | fewer
          · rw [playFor_over closed, closed]
          · apply induction
            omega

/-- A rehearsal is played to its end, so what it comes to when it is called off only depends on
whether it would have been over by then. -/
theorem rehearse_callOff (policy : PollPolicy) (submission : Submission) (script : Script)
    {time : Nat} (apart : ∀ steps, ∀ wait ∈ course policy steps
      (.start (.creating submission) script), wait.begun ≠ time ∧ wait.ended ≠ time) :
    let run := rehearse policy none script (.creating submission)
    let task := rehearse policy (some time) script (.creating submission)
    run.errand.isOver = true ∧
    task.errand.joined? =
      if run.time < time then run.errand.joined? else some (.error .cancelled) := by
  intro run task
  let start : Progress Script := .start (.creating submission) script
  have before : start.time < time := by
    have first := apart 1 (start.wait (.call (.create submission))) List.mem_cons_self
    exact Nat.pos_of_ne_zero fun zero => first.1 zero.symm
  have off := calledOff before (stepsFor script) fun wait found => (apart _ wait found).2
  have closed : run.errand.event? policy = none := by
    apply playFor_comes_to_end
    simp only [stepsLeft, stepsToAnswer, Progress.start, stepsFor]
    omega
  refine ⟨isOver_of_event? closed, ?_⟩
  split
  case isTrue early => exact congrArg (·.errand.joined?) (off.alike early)
  case isFalse late =>
    apply off.cancelled
    exact Nat.lt_of_le_of_ne (Nat.le_of_not_lt late) off.decided.symm

end Errand

end PromptClient
