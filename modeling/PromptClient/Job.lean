import PromptClient.Failure
import PromptClient.Request

/-! # Jobs

A job is created once and then looked up until it is finished. The first look-up
goes out at once, and after that one follows each pause. An errand is such a job on
its way, at the point where it waits for the backend or for the end of a pause: the
same steps serve whether it is waited for, runs in the background, or is called off.
-/

namespace PromptClient

/-- How often to look, and how long to go on with it. -/
structure PollPolicy where
  interval : Duration
  /-- Give up rather than pause for longer than this in all. -/
  maxWait : Option Duration
deriving DecidableEq, Repr

/-- Look every half minute, without an end. -/
def PollPolicy.standard : PollPolicy :=
  ⟨Duration.ofSeconds 30, none⟩

inductive JobStatus
  | pending
  | ready
  | failed
deriving DecidableEq, Repr

structure Job where
  key : String
  status : JobStatus
  polls : Nat
deriving DecidableEq, Repr

def Job.pending (key : String) : Job := ⟨key, .pending, 0⟩

/-- Has a result, or never will. -/
def Job.isTerminal (job : Job) : Bool :=
  job.status ≠ .pending

/-- The answer to a look-up that did not fail. -/
inductive Lookup
  | notReady
  | ready (body : String)
deriving DecidableEq, Repr

inductive BackendCall
  | create (submission : Submission)
  | fetch (key : String)
deriving DecidableEq, Repr

/-- What an errand waits for, when it comes. -/
inductive Reply
  | created (outcome : Except SubmissionFault String)
  | found (outcome : Except PollFault Lookup)
  | rested
  | crashed
deriving Repr

/-- A job on its way. -/
inductive Errand
  | creating (submission : Submission)
  /-- The backend has been asked for the result, after pauses of that length in all. -/
  | asking (job : Job) (waited : Duration)
  /-- Between two look-ups. -/
  | resting (job : Job) (waited : Duration)
  /-- Over, with the job if one was created. -/
  | finished (job : Option Job) (outcome : Except Failure String)
  /-- Ended by a crash, or by a sum of pauses that is beyond measure. -/
  | crashed
deriving Repr

/-- What an errand does that can be seen from outside. -/
inductive ErrandEvent
  | call (request : BackendCall)
  | pause (length : Duration)
deriving DecidableEq, Repr

namespace Errand

def ask (job : Job) (waited : Duration) : Errand :=
  .asking { job with polls := job.polls + 1 } waited

/-- What to do after a look-up that found nothing yet. -/
def giveUpOrRest (policy : PollPolicy) (job : Job) (waited : Duration) : Errand :=
  match policy.maxWait with
  | none => .resting job waited
  | some most =>
      match waited.add? policy.interval with
      | none => .crashed
      | some next =>
          if next.exceeds most then
            .finished (some { job with status := .failed })
              (.error (.poll (.timedOut job.key waited)))
          else .resting job waited

/-- The errand after what it waited for has come. -/
def next (policy : PollPolicy) : Errand → Reply → Errand
  | .creating _, .created (.ok key) => ask (Job.pending key) Duration.zero
  | .creating _, .created (.error fault) => .finished none (.error (.submission fault))
  | .asking job _, .found (.ok (.ready body)) =>
      .finished (some { job with status := .ready }) (.ok body)
  | .asking job waited, .found (.ok .notReady) => giveUpOrRest policy job waited
  | .asking job _, .found (.error fault) =>
      .finished (some { job with status := .failed }) (.error (.poll fault))
  | .resting job waited, .rested =>
      match waited.add? policy.interval with
      | some next => ask job next
      | none => .crashed
  | .finished job outcome, _ => .finished job outcome
  | _, _ => .crashed

def isOver : Errand → Bool
  | .finished _ _ => true
  | .crashed => true
  | _ => false

def event? (policy : PollPolicy) : Errand → Option ErrandEvent
  | .creating submission => some (.call (.create submission))
  | .asking job _ => some (.call (.fetch job.key))
  | .resting _ _ => some (.pause policy.interval)
  | .finished _ _ => none
  | .crashed => none

/-- What joining an errand that ran in the background comes to, when it goes no further:
its outcome, or that it was called off. A crash is passed on. -/
def joined? : Errand → Option (Except Failure String)
  | .finished _ outcome => some outcome
  | .crashed => none
  | _ => some (.error .cancelled)

def play (policy : PollPolicy) (errand : Errand) : List Reply → List ErrandEvent × Errand
  | [] => ((errand.event? policy).toList, errand)
  | reply :: rest =>
      let (events, last) := play policy (errand.next policy reply) rest
      ((errand.event? policy).toList ++ events, last)

end Errand

end PromptClient
