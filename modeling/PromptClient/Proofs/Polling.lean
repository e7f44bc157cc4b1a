import PromptClient.Job

/-! # Polling

A poll looks a job up at once and then after each pause. How many look-ups and pauses
it makes, and how it ends, follows from the backend's answers and the policy alone. -/

namespace PromptClient

namespace Errand

/-! ## What events come to -/

/-- The keys looked up, in order. -/
def lookups (events : List ErrandEvent) : List String :=
  events.filterMap fun
    | .call (.fetch key) => some key
    | _ => none

/-- The nanoseconds of all pauses together. -/
def totalPause : List ErrandEvent → Nat
  | [] => 0
  | .call _ :: rest => totalPause rest
  | .pause length :: rest => length.nanoseconds + totalPause rest

/-- Look-ups with a pause after each. -/
def rounds (key : String) (interval : Duration) : (pauses : Nat) → List ErrandEvent
  | 0 => []
  | pauses + 1 => .call (.fetch key) :: .pause interval :: rounds key interval pauses

/-- Look-ups with a pause between every two of them. -/
def alternation (key : String) (interval : Duration) (pauses : Nat) : List ErrandEvent :=
  rounds key interval pauses ++ [.call (.fetch key)]

/-- The job of an errand, once there is one. -/
def job? : Errand → Option Job
  | .creating _ => none
  | .asking job _ => some job
  | .resting job _ => some job
  | .finished job _ => job
  | .crashed => none

/-! ## Polls -/

/-- Look a job up until it is finished, or for as long as the replies last. -/
def poll (policy : PollPolicy) (job : Job) (replies : List Reply) :
    List ErrandEvent × Errand :=
  play policy (ask job Duration.zero) replies

/-- The replies of a backend to a number of look-ups, with the end of a pause after
each. -/
def answered (answers : Nat → Except PollFault Lookup) : (count : Nat) → List Reply
  | 0 => []
  | count + 1 =>
      .found (answers 0) :: .rested :: answered (fun later => answers (later + 1)) count

/-- The first answers find nothing. -/
def NotReadyFor (answers : Nat → Except PollFault Lookup) (count : Nat) : Prop :=
  ∀ number, number < count → answers number = .ok .notReady

/-- A poll makes that many pauses with the look-ups around them and ends there,
whatever else the backend would say. -/
def EndsAfter (policy : PollPolicy) (job : Job) (answers : Nat → Except PollFault Lookup)
    (pauses : Nat) (status : JobStatus) (outcome : Except Failure String) : Prop :=
  ∀ more, poll policy job (answered answers (pauses + 1) ++ more) =
    (alternation job.key policy.interval pauses,
      .finished (some ⟨job.key, status, job.polls + (pauses + 1)⟩) outcome)

end Errand

/-- Pausing for that many nanoseconds in all is within the policy. -/
def PollPolicy.Allows (policy : PollPolicy) (nanoseconds : Nat) : Prop :=
  ∀ most, policy.maxWait = some most → nanoseconds ≤ most.nanoseconds

theorem PollPolicy.Allows.of_le {policy : PollPolicy} {less more : Nat}
    (allows : policy.Allows more) (le : less ≤ more) : policy.Allows less :=
  fun most given => Nat.le_trans le (allows most given)

namespace Errand

/-! ## Steps -/

theorem add?_of_lt {first second : Duration}
    (fits : first.nanoseconds + second.nanoseconds < Duration.limit) :
    first.add? second = some ⟨first.nanoseconds + second.nanoseconds⟩ := by
  simp only [Duration.add?, fits, if_true]

/-- After a look-up that found nothing, an errand rests while the policy allows it. -/
theorem giveUpOrRest_of_allows {policy : PollPolicy} {job : Job} {waited : Duration}
    (fits : waited.nanoseconds + policy.interval.nanoseconds < Duration.limit)
    (allows : policy.Allows (waited.nanoseconds + policy.interval.nanoseconds)) :
    giveUpOrRest policy job waited = .resting job waited := by
  cases bound : policy.maxWait with
  | none => simp only [giveUpOrRest, bound]
  | some most =>
      have within := allows most bound
      have notLonger : ¬ most.nanoseconds <
          waited.nanoseconds + policy.interval.nanoseconds := by omega
      simp [giveUpOrRest, bound, add?_of_lt fits, Duration.exceeds, notLonger]

/-- After a look-up that found nothing, an errand ends before a pause that would be
too much. -/
theorem giveUpOrRest_of_exceeds {policy : PollPolicy} {job : Job} {waited most : Duration}
    (bound : policy.maxWait = some most)
    (fits : waited.nanoseconds + policy.interval.nanoseconds < Duration.limit)
    (exceeds : most.nanoseconds < waited.nanoseconds + policy.interval.nanoseconds) :
    giveUpOrRest policy job waited =
      .finished (some { job with status := .failed })
        (.error (.poll (.timedOut job.key waited))) := by
  simp [giveUpOrRest, bound, add?_of_lt fits, Duration.exceeds, exceeds]

/-- A finished errand takes no notice of what else comes. -/
theorem next_finished (policy : PollPolicy) (job : Option Job)
    (outcome : Except Failure String) (reply : Reply) :
    next policy (.finished job outcome) reply = .finished job outcome := by
  cases reply <;> rfl

@[simp] theorem play_finished (policy : PollPolicy) (job : Option Job)
    (outcome : Except Failure String) (replies : List Reply) :
    play policy (.finished job outcome) replies = ([], .finished job outcome) := by
  induction replies with
  | nil => rfl
  | cons reply rest induction =>
      simp [play, event?, next_finished, induction]

/-- Nor does a crashed one. -/
theorem next_crashed (policy : PollPolicy) (reply : Reply) :
    next policy .crashed reply = .crashed := by
  cases reply <;> rfl

@[simp] theorem play_crashed (policy : PollPolicy) (replies : List Reply) :
    play policy .crashed replies = ([], .crashed) := by
  induction replies with
  | nil => rfl
  | cons reply rest induction =>
      simp [play, event?, next_crashed, induction]

/-! ## Rounds -/

/-- A look-up that finds nothing and the pause after it, while the policy allows it. -/
theorem play_round {policy : PollPolicy} (job : Job) {waited : Duration}
    (rest : List Reply)
    (fits : waited.nanoseconds + policy.interval.nanoseconds < Duration.limit)
    (allows : policy.Allows (waited.nanoseconds + policy.interval.nanoseconds)) :
    play policy (.asking job waited) (.found (.ok .notReady) :: .rested :: rest) =
      let later := play policy
        (ask job ⟨waited.nanoseconds + policy.interval.nanoseconds⟩) rest
      (.call (.fetch job.key) :: .pause policy.interval :: later.1, later.2) := by
  have rests : next policy (.asking job waited) (.found (.ok .notReady)) =
      .resting job waited := giveUpOrRest_of_allows fits allows
  have asks : next policy (.resting job waited) .rested =
      ask job ⟨waited.nanoseconds + policy.interval.nanoseconds⟩ := by
    simp only [next, add?_of_lt fits]
  simp [play, event?, rests, asks]

/-- Rounds that find nothing come one after the other. By induction on their number,
with the job and the time waited so far left open. -/
theorem play_rounds (policy : PollPolicy) (rest : List Reply) (pauses : Nat) :
    ∀ (job : Job) (waited : Nat) (answers : Nat → Except PollFault Lookup),
    NotReadyFor answers pauses →
    waited + pauses * policy.interval.nanoseconds < Duration.limit →
    policy.Allows (waited + pauses * policy.interval.nanoseconds) →
    play policy (ask job ⟨waited⟩) (answered answers pauses ++ rest) =
      let later := play policy
        (ask { job with polls := job.polls + pauses }
          ⟨waited + pauses * policy.interval.nanoseconds⟩) rest
      (rounds job.key policy.interval pauses ++ later.1, later.2) := by
  induction pauses with
  | zero =>
      intro job waited answers _ _ _
      simp [answered, rounds]
  | succ pauses induction =>
      intro job waited answers notReady fits allows
      have sum : waited + (pauses + 1) * policy.interval.nanoseconds =
          waited + policy.interval.nanoseconds + pauses * policy.interval.nanoseconds := by
        rw [Nat.succ_mul]
        omega
      rw [sum] at fits allows ⊢
      have first : answers 0 = .ok .notReady := notReady 0 (Nat.succ_pos pauses)
      have later : NotReadyFor (fun number => answers (number + 1)) pauses :=
        fun number below => notReady (number + 1) (Nat.succ_lt_succ below)
      have fitsOnce : waited + policy.interval.nanoseconds < Duration.limit := by omega
      have allowsOnce : policy.Allows (waited + policy.interval.nanoseconds) :=
        allows.of_le (Nat.le_add_right _ _)
      have round := play_round { job with polls := job.polls + 1 }
        (answered (fun number => answers (number + 1)) pauses ++ rest) fitsOnce allowsOnce
      have remaining := induction { job with polls := job.polls + 1 }
        (waited + policy.interval.nanoseconds) (fun number => answers (number + 1))
        later fits allows
      rw [answered, first, List.cons_append, List.cons_append]
      change play policy (.asking { job with polls := job.polls + 1 } ⟨waited⟩) _ = _
      rw [round, remaining]
      simp [rounds, Nat.add_assoc, Nat.add_comm 1 pauses]

/-- The last of the answers comes after all the others. -/
theorem answered_succ (count : Nat) : ∀ answers : Nat → Except PollFault Lookup,
    answered answers (count + 1) =
      answered answers count ++ [.found (answers count), .rested] := by
  induction count with
  | zero => intro answers; rfl
  | succ count induction =>
      intro answers
      rw [answered, induction]
      rfl

/-- A look-up that ends an errand is the last thing it does. -/
theorem play_last_lookup {policy : PollPolicy} {job : Job} {waited : Duration}
    {answer : Except PollFault Lookup} {ended : Option Job}
    {outcome : Except Failure String}
    (ends : next policy (.asking job waited) (.found answer) = .finished ended outcome)
    (rest : List Reply) :
    play policy (.asking job waited) (.found answer :: rest) =
      ([.call (.fetch job.key)], .finished ended outcome) := by
  rw [play, ends, play_finished]
  rfl

/-- A poll whose answers find nothing until one that ends it. -/
theorem endsAfter_of_answer {policy : PollPolicy} {job : Job}
    {answers : Nat → Except PollFault Lookup} {pauses : Nat} {status : JobStatus}
    {outcome : Except Failure String}
    (notReady : NotReadyFor answers pauses)
    (fits : pauses * policy.interval.nanoseconds < Duration.limit)
    (allows : policy.Allows (pauses * policy.interval.nanoseconds))
    (ends : ∀ polls,
      next policy
          (.asking { job with polls := polls } ⟨pauses * policy.interval.nanoseconds⟩)
          (.found (answers pauses)) =
        .finished (some ⟨job.key, status, polls⟩) outcome) :
    EndsAfter policy job answers pauses status outcome := by
  intro more
  have before := play_rounds policy
    (.found (answers pauses) :: .rested :: more) pauses job 0 answers notReady
    (by rwa [Nat.zero_add]) (by rwa [Nat.zero_add])
  rw [Nat.zero_add] at before
  have last := play_last_lookup (ends (job.polls + pauses + 1)) (.rested :: more)
  rw [poll, answered_succ, List.append_assoc]
  change play policy (ask job ⟨0⟩) (answered answers pauses ++
    (.found (answers pauses) :: .rested :: more)) = _
  rw [before]
  change (_ ++ (play policy (.asking _ _) _).1, (play policy (.asking _ _) _).2) = _
  rw [last]
  rfl

/-! ## What a step can come to -/

/-- An errand that waits for its job then asks for the result, has ended without a job,
or has crashed. -/
theorem next_creating_cases (policy : PollPolicy) (submission : Submission)
    (reply : Reply) :
    (∃ key, next policy (.creating submission) reply =
        ask (Job.pending key) Duration.zero) ∨
      (∃ fault, next policy (.creating submission) reply =
        .finished none (.error (.submission fault))) ∨
      next policy (.creating submission) reply = .crashed := by
  cases reply with
  | created outcome =>
      cases outcome with
      | ok key => exact .inl ⟨key, rfl⟩
      | error fault => exact .inr (.inl ⟨fault, rfl⟩)
  | found _ => exact .inr (.inr rfl)
  | rested => exact .inr (.inr rfl)
  | crashed => exact .inr (.inr rfl)

/-- An errand that waits for an answer then rests within the policy, has ended with its
job, or has crashed. -/
theorem next_asking_cases (policy : PollPolicy) (job : Job) (waited : Duration)
    (reply : Reply) :
    (next policy (.asking job waited) reply = .resting job waited ∧
        policy.Allows (waited.nanoseconds + policy.interval.nanoseconds)) ∨
      (∃ status outcome, next policy (.asking job waited) reply =
        .finished (some { job with status := status }) outcome) ∨
      next policy (.asking job waited) reply = .crashed := by
  cases reply with
  | found answer =>
      rcases answer with fault | lookup
      · exact .inr (.inl ⟨.failed, _, rfl⟩)
      · cases lookup with
        | ready body => exact .inr (.inl ⟨.ready, _, rfl⟩)
        | notReady =>
            change (giveUpOrRest policy job waited = _ ∧ _) ∨
              (∃ status outcome, giveUpOrRest policy job waited = _) ∨
              giveUpOrRest policy job waited = _
            cases bound : policy.maxWait with
            | none =>
                have free : policy.Allows
                    (waited.nanoseconds + policy.interval.nanoseconds) := by
                  intro most given
                  rw [bound] at given
                  cases given
                exact .inl ⟨by simp [giveUpOrRest, bound], free⟩
            | some most =>
                by_cases fits : waited.nanoseconds + policy.interval.nanoseconds <
                    Duration.limit
                · by_cases exceeds : most.nanoseconds <
                      waited.nanoseconds + policy.interval.nanoseconds
                  · exact .inr (.inl ⟨.failed, _,
                      giveUpOrRest_of_exceeds bound fits exceeds⟩)
                  · have allows : policy.Allows
                        (waited.nanoseconds + policy.interval.nanoseconds) := by
                      intro known given
                      rw [bound] at given
                      cases given
                      omega
                    exact .inl ⟨giveUpOrRest_of_allows fits allows, allows⟩
                · exact .inr (.inr (by simp [giveUpOrRest, bound, Duration.add?, fits]))
  | created _ => exact .inr (.inr rfl)
  | rested => exact .inr (.inr rfl)
  | crashed => exact .inr (.inr rfl)

/-- An errand that rests then asks again, with the pause counted, or has crashed. -/
theorem next_resting_cases (policy : PollPolicy) (job : Job) (waited : Duration)
    (reply : Reply) :
    next policy (.resting job waited) reply =
        ask job ⟨waited.nanoseconds + policy.interval.nanoseconds⟩ ∨
      next policy (.resting job waited) reply = .crashed := by
  cases reply with
  | rested =>
      by_cases fits : waited.nanoseconds + policy.interval.nanoseconds < Duration.limit
      · exact .inl (by simp only [next, add?_of_lt fits])
      · exact .inr (by simp [next, Duration.add?, fits])
  | created _ => exact .inr rfl
  | found _ => exact .inr rfl
  | crashed => exact .inr rfl

/-- A job is asked for at the beginning or not at all. -/
theorem next_ne_creating (policy : PollPolicy) (errand : Errand) (reply : Reply)
    (submission : Submission) : next policy errand reply ≠ .creating submission := by
  intro asks
  cases errand with
  | creating first =>
      rcases next_creating_cases policy first reply with
        ⟨key, equal⟩ | ⟨fault, equal⟩ | equal <;> rw [equal] at asks <;> cases asks
  | asking job waited =>
      rcases next_asking_cases policy job waited reply with
        ⟨equal, _⟩ | ⟨status, outcome, equal⟩ | equal <;> rw [equal] at asks <;> cases asks
  | resting job waited =>
      rcases next_resting_cases policy job waited reply with
        equal | equal <;> rw [equal] at asks <;> cases asks
  | finished job outcome =>
      rw [next_finished] at asks
      cases asks
  | crashed =>
      rw [next_crashed] at asks
      cases asks

/-- What an errand does after the point where it waits. -/
def later (policy : PollPolicy) (errand : Errand) : List Reply → List ErrandEvent
  | [] => []
  | reply :: rest => (play policy (next policy errand reply) rest).1

theorem play_eq_later (policy : PollPolicy) (errand : Errand) (replies : List Reply) :
    (play policy errand replies).1 =
      (errand.event? policy).toList ++ later policy errand replies := by
  cases replies with
  | nil => simp [play, later]
  | cons reply rest => rfl

/-! ## Counting

What is counted for a whole play follows from what one step adds. -/

@[simp] theorem lookups_append (first second : List ErrandEvent) :
    lookups (first ++ second) = lookups first ++ lookups second :=
  List.filterMap_append

@[simp] theorem totalPause_append (first second : List ErrandEvent) :
    totalPause (first ++ second) = totalPause first + totalPause second := by
  induction first with
  | nil => simp [totalPause]
  | cons event rest induction =>
      cases event <;> simp [totalPause, induction, Nat.add_assoc]

/-- How many look-ups an errand makes on reaching the point where it waits. -/
def ownLookups (policy : PollPolicy) (errand : Errand) : Nat :=
  (lookups (errand.event? policy).toList).length

/-- A step either crashes or keeps the job and counts the look-up that it makes. -/
theorem next_job (policy : PollPolicy) {errand : Errand} {job : Job} (reply : Reply)
    (known : errand.job? = some job) :
    next policy errand reply = .crashed ∨
      ∃ after, (next policy errand reply).job? = some after ∧
        after.polls = job.polls + ownLookups policy (next policy errand reply) := by
  cases errand with
  | creating submission => cases known
  | crashed => cases known
  | finished ended outcome =>
      rw [next_finished]
      exact .inr ⟨job, known, rfl⟩
  | asking asked waited =>
      cases known
      rcases next_asking_cases policy job waited reply with
        ⟨rests, _⟩ | ⟨status, outcome, ends⟩ | crashes
      · exact .inr ⟨job, by rw [rests]; rfl, by rw [rests]; rfl⟩
      · exact .inr ⟨{ job with status := status }, by rw [ends]; rfl, by rw [ends]; rfl⟩
      · exact .inl crashes
  | resting rested waited =>
      cases known
      rcases next_resting_cases policy job waited reply with asks | crashes
      · exact .inr ⟨{ job with polls := job.polls + 1 }, by rw [asks]; rfl,
          by rw [asks]; rfl⟩
      · exact .inl crashes

/-- However far an errand gets, its job has counted the look-ups made. The look-up with
which the errand begins has been counted before. -/
theorem polls_play (policy : PollPolicy) (replies : List Reply) :
    ∀ {errand : Errand} {job reached : Job}, errand.job? = some job →
      (play policy errand replies).2.job? = some reached →
      reached.polls + ownLookups policy errand =
        job.polls + (lookups (play policy errand replies).1).length := by
  induction replies with
  | nil =>
      intro errand job reached known gets
      change errand.job? = some reached at gets
      cases known.symm.trans gets
      rfl
  | cons reply rest induction =>
      intro errand job reached known gets
      change (play policy (next policy errand reply) rest).2.job? = some reached at gets
      change _ = job.polls + (lookups ((errand.event? policy).toList ++
        (play policy (next policy errand reply) rest).1)).length
      rw [lookups_append, List.length_append]
      rcases next_job policy reply known with crashes | ⟨after, has, counts⟩
      -- A crash leaves no job behind whose look-ups could be counted.
      · rw [crashes, play_crashed] at gets
        cases gets
      · have later := induction has gets
        have own : (lookups (errand.event? policy).toList).length =
          ownLookups policy errand := rfl
        omega

/-- The nanoseconds paused before the point where an errand waits. -/
def pausedBefore : Errand → Nat
  | .asking _ waited => waited.nanoseconds
  | .resting _ waited => waited.nanoseconds
  | _ => 0

/-- Neither the pauses made nor the one under way go beyond the policy. -/
def StaysWithin (policy : PollPolicy) : Errand → Prop
  | .asking _ waited => policy.Allows waited.nanoseconds
  | .resting _ waited =>
      policy.Allows (waited.nanoseconds + policy.interval.nanoseconds)
  | _ => True

/-- From an errand within the policy, all pauses stay within it. -/
theorem totalPause_play {policy : PollPolicy} (replies : List Reply) :
    ∀ errand : Errand, StaysWithin policy errand →
      policy.Allows
        (pausedBefore errand + totalPause (play policy errand replies).1) := by
  have nothing : policy.Allows 0 := fun _ _ => Nat.zero_le _
  -- The errand is left open, since every reply leads to another one. What it has waited
  -- moves from its events into its own count at the end of each pause.
  induction replies with
  | nil =>
      intro errand within
      cases errand with
      | asking job waited => exact within
      | resting job waited => exact within
      | creating submission => exact nothing
      | finished job outcome => exact nothing
      | crashed => exact nothing
  | cons reply rest induction =>
      intro errand within
      change policy.Allows (_ + totalPause ((errand.event? policy).toList ++
        (play policy (next policy errand reply) rest).1))
      rw [totalPause_append]
      cases errand with
      | asking job waited =>
          rcases next_asking_cases policy job waited reply with
            ⟨rests, allows⟩ | ⟨status, outcome, ends⟩ | crashes
          · rw [rests]
            have later := induction (.resting job waited) allows
            simpa [pausedBefore, event?, totalPause] using later
          · rw [ends, play_finished]
            exact within
          · rw [crashes, play_crashed]
            exact within
      | resting job waited =>
          rcases next_resting_cases policy job waited reply with asks | crashes
          · rw [asks]
            have later := induction
              (ask job ⟨waited.nanoseconds + policy.interval.nanoseconds⟩) within
            simpa [pausedBefore, ask, event?, totalPause, Nat.add_assoc] using later
          · rw [crashes, play_crashed]
            exact within
      | creating submission =>
          rcases next_creating_cases policy submission reply with
            ⟨key, asks⟩ | ⟨fault, ends⟩ | crashes
          · rw [asks]
            have later := induction (ask (Job.pending key) Duration.zero) nothing
            simpa [pausedBefore, ask, event?, totalPause, Duration.zero] using later
          · rw [ends, play_finished]
            exact nothing
          · rw [crashes, play_crashed]
            exact nothing
      | finished job outcome =>
          rw [next_finished, play_finished]
          exact nothing
      | crashed =>
          rw [next_crashed, play_crashed]
          exact nothing

/-! ## Polling a backend -/

/-- Within a limit, pausing stops before the first pause that would go beyond it. -/
theorem div_mul_bounds (most : Nat) {interval : Nat} (positive : 0 < interval) :
    most / interval * interval ≤ most ∧
      most < most / interval * interval + interval := by
  have parts := Nat.div_add_mod' most interval
  have remainder := Nat.mod_lt most positive
  omega

/-- A poll that finds nothing for as long as it may pause gives up. -/
theorem endsAfter_of_exceeds {policy : PollPolicy} {job : Job} {most : Duration}
    {answers : Nat → Except PollFault Lookup}
    (bound : policy.maxWait = some most) (positive : 0 < policy.interval.nanoseconds)
    (fits : (most.nanoseconds / policy.interval.nanoseconds + 1) *
      policy.interval.nanoseconds < Duration.limit)
    (notReady : NotReadyFor answers
      (most.nanoseconds / policy.interval.nanoseconds + 1)) :
    EndsAfter policy job answers (most.nanoseconds / policy.interval.nanoseconds) .failed
      (.error (.poll (.timedOut job.key
        ⟨most.nanoseconds / policy.interval.nanoseconds *
          policy.interval.nanoseconds⟩))) := by
  have bounds := div_mul_bounds most.nanoseconds positive
  rw [Nat.succ_mul] at fits
  apply endsAfter_of_answer
  · exact fun number below => notReady number (Nat.lt_succ_of_lt below)
  · omega
  · intro known given
    rw [bound] at given
    cases given
    exact bounds.1
  · intro polls
    rw [notReady _ (Nat.lt_succ_self _)]
    exact giveUpOrRest_of_exceeds bound fits bounds.2

/-- How a poll goes, by the backend's answers. An answer that ends the job decides if the
pauses before it are within the policy; the poll then makes one pause before every look-up
but the first. If they are not, or if there is no such answer at all, the poll gives up
before the first pause that would go beyond the limit. However far it gets, the job has
counted its look-ups, and its pauses stay within the policy. -/
theorem poll_course (policy : PollPolicy) (job : Job)
    (answers : Nat → Except PollFault Lookup) :
    (∀ pauses, NotReadyFor answers pauses →
      pauses * policy.interval.nanoseconds < Duration.limit →
      (∀ most, policy.maxWait = some most →
        pauses * policy.interval.nanoseconds ≤ most.nanoseconds) →
      (∀ body, answers pauses = .ok (.ready body) →
        EndsAfter policy job answers pauses .ready (.ok body)) ∧
      (∀ fault, answers pauses = .error fault →
        EndsAfter policy job answers pauses .failed (.error (.poll fault)))) ∧
    (∀ most, policy.maxWait = some most → 0 < policy.interval.nanoseconds →
      let pauses := most.nanoseconds / policy.interval.nanoseconds
      let waited := pauses * policy.interval.nanoseconds
      waited + policy.interval.nanoseconds < Duration.limit →
      ((∃ count, NotReadyFor answers count ∧
          most.nanoseconds < count * policy.interval.nanoseconds) ∨
        ∀ number, answers number = .ok .notReady) →
      EndsAfter policy job answers pauses .failed
        (.error (.poll (.timedOut job.key ⟨waited⟩))) ∧
      most.nanoseconds < waited + policy.interval.nanoseconds) ∧
    (∀ replies, policy.Allows (totalPause (poll policy job replies).1)) ∧
    ∀ replies reached, (poll policy job replies).2.job? = some reached →
      reached.polls = job.polls + (lookups (poll policy job replies).1).length := by
  refine ⟨?_, ?_, ?_, ?_⟩
  · intro pauses notReady fits allows
    constructor
    · intro body ready
      exact endsAfter_of_answer notReady fits allows fun polls => by rw [ready]; rfl
    · intro fault failed
      exact endsAfter_of_answer notReady fits allows fun polls => by rw [failed]; rfl
  · intro most bound positive pauses waited fits waits
    have notReady : NotReadyFor answers (pauses + 1) := by
      intro number below
      rcases waits with ⟨count, notReady, beyond⟩ | never
      · have enough : pauses < count := by
          rw [Nat.div_lt_iff_lt_mul positive]
          exact beyond
        exact notReady number (by omega)
      · exact never number
    exact ⟨endsAfter_of_exceeds bound positive (by rwa [Nat.succ_mul]) notReady,
      (div_mul_bounds most.nanoseconds positive).2⟩
  · intro replies
    have within : policy.Allows
        (pausedBefore (ask job Duration.zero) + totalPause (poll policy job replies).1) :=
      totalPause_play replies (ask job Duration.zero) (fun _ _ => Nat.zero_le _)
    simpa [pausedBefore, ask, Duration.zero] using within
  · intro replies reached gets
    have asked : (ask job Duration.zero).job? =
        some { job with polls := job.polls + 1 } := rfl
    have counted : reached.polls + 1 =
        job.polls + 1 + (lookups (poll policy job replies).1).length :=
      polls_play policy replies asked gets
    omega

/-- A pause may end exactly at the limit: with ninety seconds for pauses of thirty, the
fourth look-up is the last one, whether it finds a result or not. -/
theorem poll_course_at_limit :
    let policy : PollPolicy := ⟨Duration.ofSeconds 30, some (Duration.ofSeconds 90)⟩
    let job : Job := ⟨"job-1", .failed, 7⟩
    EndsAfter policy job (fun number => .ok (if number < 3 then .notReady else .ready "done"))
        3 .ready (.ok "done") ∧
      EndsAfter policy job (fun _ => .ok .notReady) 3 .failed
        (.error (.poll (.timedOut "job-1" (Duration.ofSeconds 90)))) := by
  intro policy job
  constructor
  · have course := (poll_course policy job
      (fun number => .ok (if number < 3 then .notReady else .ready "done"))).1 3
    refine (course ?_ (by decide) ?_).1 "done" rfl
    · intro number below
      simp [below]
    · intro most given
      cases given
      decide
  · have course := (poll_course policy job (fun _ => .ok .notReady)).2.1
      (Duration.ofSeconds 90) rfl (by decide)
    have gaveUp := (course (by decide) (.inr fun _ => rfl)).1
    have pauses : (Duration.ofSeconds 90).nanoseconds / policy.interval.nanoseconds = 3 := by
      decide
    have waited : 3 * policy.interval.nanoseconds = (Duration.ofSeconds 90).nanoseconds := by
      decide
    rw [pauses, waited] at gaveUp
    exact gaveUp

end Errand

end PromptClient
