import PromptClient.Attempt
import PromptClient.Rehearsal.Errands

/-! # Rehearsing a desk

A stage sets a desk against a scripted backend. Time stands still unless a step waits
for something, and then it goes on to the next moment at which anything happens. At
such a moment the session is looked at again if it is time for that, the attempt
under way goes on if its wait is over, and last the layout follows the login.
-/

namespace PromptClient

open Clockwork

/-- The attempt that holds the lock, and the reply that it will get. -/
structure Work where
  attempt : Attempt
  due : Nat
  reply : Reply
  /-- Somebody may still ask how it ended. -/
  attended : Bool

/-- The attempt last sent to the background. -/
inductive Task
  | running
  | over (outcome : Except Failure String)
  | crashed
deriving Repr

/-- The way an attempt has ended, if it has. -/
def Attempt.ending? : Attempt → Option Task
  | .over outcome => some (.over outcome)
  | .crashed => some .crashed
  | _ => none

/-- Looks at the session from time to time, and keeps the layout up with the login. -/
structure Refresher where
  ticker : Option Ticker
  /-- The changes of the login that the layout has followed. -/
  seen : Nat

/-- A desk at a moment of its rehearsal. -/
structure Stage (σ : Type) where
  desk : Desk σ
  script : Script
  time : Nat
  work : Option Work
  task : Option Task
  /-- How the last attempt that had to wait has ended. -/
  ended : Option Task
  refresher : Option Refresher
  /-- The form's lock has been taken by hand. -/
  held : Bool

namespace Stage

variable {σ : Type} [Storage σ]

def start (desk : Desk σ) (script : Script) : Stage σ :=
  { desk := desk
    script := script
    time := 0
    work := none
    task := none
    ended := none
    refresher := none
    held := false }

def onDesk (stage : Stage σ) (change : Desk σ → Desk σ × List Event) :
    Stage σ × List Event :=
  let (desk, events) := change stage.desk
  ({ stage with desk := desk }, events)

def onLogin (stage : Stage σ) (change : Login σ → Login σ) : Stage σ :=
  { stage with desk := stage.desk.onLogin change }

/-- Let the layout follow the login, if it has changed since the last time. -/
def follow (stage : Stage σ) : Stage σ × List Event :=
  match stage.refresher with
  | none => (stage, [])
  | some refresher =>
      let changes := stage.desk.login.changes
      if refresher.seen = changes then (stage, [])
      else
        { stage with refresher := some { refresher with seen := changes } }.onDesk
          Desk.refreshLayout

/-! ## Moments -/

def await (stage : Stage σ) (attended : Bool) (errand : Errand) : Stage σ :=
  match errand.event? stage.desk.policy with
  | none => stage
  | some event =>
      let (reply, wait, script) := Errand.expect stage.script event
      { stage with
        script := script
        work := some ⟨.working errand, wakeTime stage.time wait, reply, attended⟩ }

/-- Take up what an attempt has come to: it waits again, or it has ended. -/
def takeUp (stage : Stage σ) (attended : Bool) (result : Desk σ × List Event × Attempt) :
    Stage σ × List Event × Option Task :=
  let (desk, events, attempt) := result
  let now := { stage with desk := desk }
  match attempt with
  | .working errand => (now.await attended errand, events, none)
  | other => (now, events, other.ending?)

def resume (stage : Stage σ) (work : Work) : Stage σ × List Event :=
  let (next, events, ending) :=
    { stage with work := none }.takeUp work.attended (stage.desk.step work.attempt work.reply)
  match ending with
  | none => (next, events)
  | some task =>
      ({ next with
          ended := some task
          task := if work.attended then some task else next.task }, events)

def tickTime? (stage : Stage σ) : Option Nat :=
  (stage.refresher.bind (·.ticker)).map Ticker.nextTime

/-- Look at the session again. Further looks up to `time` would find the same. -/
def tick (stage : Stage σ) (time : Nat) : Stage σ :=
  { stage with
    desk := stage.desk.onLogin Login.refresh
    refresher := stage.refresher.map fun refresher =>
      { refresher with ticker := refresher.ticker.map (·.after time) } }

/-- Is a time, and not after the limit. -/
def isWithin (limit : Nat) : Option Nat → Bool
  | none => false
  | some time => decide (time ≤ limit)

def nextMoment? (stage : Stage σ) (limit : Nat) : Option Nat :=
  let times := (stage.tickTime?.toList ++ (stage.work.map (·.due)).toList).filter (· ≤ limit)
  times.min?

def playMoment (stage : Stage σ) (limit moment : Nat) : Stage σ × List Event :=
  let now := { stage with time := max stage.time moment }
  let quietUntil :=
    match stage.work with
    | some work => min limit work.due
    | none => limit
  let looked := if isWithin moment now.tickTime? then now.tick quietUntil else now
  let (resumed, events) :=
    match looked.work with
    | some work => if work.due ≤ moment then looked.resume work else (looked, [])
    | none => (looked, [])
  let (last, more) := resumed.follow
  (last, events ++ more)

/-- Play moment after moment up to the limit, where the clock then stands. -/
def playUntil (limit : Nat) : (moments : Nat) → Stage σ → Stage σ × List Event
  | 0, stage => ({ stage with time := max stage.time limit }, [])
  | moments + 1, stage =>
      match stage.nextMoment? limit with
      | none => ({ stage with time := max stage.time limit }, [])
      | some moment =>
          let (next, events) := stage.playMoment limit moment
          let (last, more) := playUntil limit moments next
          (last, events ++ more)

/-- Enough moments for all that is left of the script, with a look at the session
before each. -/
def momentsLeft (stage : Stage σ) : Nat :=
  2 * Errand.stepsFor stage.script + 2

def advance (stage : Stage σ) (limit : Nat) : Stage σ × List Event :=
  playUntil limit stage.momentsLeft stage

/-- Wait until no attempt is under way. -/
def finish : (waits : Nat) → Stage σ → Stage σ × List Event
  | 0, stage => (stage, [])
  | waits + 1, stage =>
      match stage.work with
      | none => (stage, [])
      | some work =>
          let (next, events) := stage.advance work.due
          let (last, more) := finish waits next
          (last, events ++ more)

/-! ## Steps -/

def sleep (stage : Stage σ) (length : Duration) : Stage σ × List Event :=
  stage.advance (wakeTime stage.time length)

def spawnRefresh (stage : Stage σ) (period : Duration) : Stage σ :=
  { stage with
    refresher := some ⟨Ticker.start? stage.time period, stage.desk.login.changes⟩ }

def stopRefresh (stage : Stage σ) : Stage σ :=
  { stage with refresher := none }

def lock (stage : Stage σ) : Bool × Stage σ × List Event :=
  match stage.desk.lock? with
  | none => (false, stage, [])
  | some (desk, events) => (true, { stage with desk := desk, held := true }, events)

def unlock (stage : Stage σ) : Bool × Stage σ × List Event :=
  if stage.held then
    let (next, events) := { stage with held := false }.onDesk Desk.unlock
    (true, next, events)
  else (false, stage, [])

def submit (stage : Stage σ) (values : FormValues) : Stage σ × List Event × Task :=
  let (begun, events, ending) := stage.takeUp false (stage.desk.submit values)
  match ending with
  | some task => (begun, events, task)
  | none =>
      let (last, more) := finish begun.momentsLeft begun
      (last, events ++ more, last.ended.getD .crashed)

/-- Nobody will ask how the attempt under way ends. -/
def disregard (stage : Stage σ) : Stage σ :=
  { stage with work := stage.work.map fun work => { work with attended := false } }

def background (stage : Stage σ) (values : FormValues) : Stage σ × List Event :=
  let (begun, events, ending) := stage.disregard.takeUp true (stage.desk.submit values)
  let (last, more) := { begun with task := some (ending.getD .running) }.advance stage.time
  (last, events ++ more)

/-- Whether the background attempt is still under way, if there is one. -/
def running? (stage : Stage σ) : Option Bool :=
  stage.task.map fun
    | .running => true
    | _ => false

def join (stage : Stage σ) : Stage σ × List Event × Option Task :=
  match stage.task with
  | none => (stage, [], none)
  | some .running =>
      let (last, events) := finish stage.momentsLeft stage
      ({ last with task := none }, events, last.task)
  | some task => ({ stage with task := none }, [], some task)

def abort (stage : Stage σ) : Stage σ × List Event :=
  match stage.task, stage.work with
  | some .running, some work =>
      { stage with task := none, work := none }.onDesk fun desk => desk.cancel work.attempt
  | _, _ => ({ stage with task := none }, [])

end Stage

/-! ## A login alone -/

/-- A login at a moment of its rehearsal. -/
structure LoginStage (σ : Type) where
  login : Login σ
  time : Nat
  ticker : Option Ticker

namespace LoginStage

variable {σ : Type} [Storage σ]

def spawnRefresh (stage : LoginStage σ) (period : Duration) : LoginStage σ :=
  { stage with ticker := Ticker.start? stage.time period }

/-- Wait for some time. Of the looks at the session only the first can find anything. -/
def sleep (stage : LoginStage σ) (length : Duration) : LoginStage σ :=
  let time := wakeTime stage.time length
  let due := (stage.ticker.map fun ticker => decide (ticker.nextTime ≤ time)).getD false
  { login := if due then stage.login.refresh else stage.login
    time := time
    ticker := stage.ticker.map (·.after time) }

end LoginStage

end PromptClient
