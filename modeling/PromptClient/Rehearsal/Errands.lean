import PromptClient.Rehearsal.Clockwork
import PromptClient.Rehearsal.Script

/-! # Rehearsing an errand

An errand is played against a script, or against anything else that answers calls, on
a clock of its own, until it is over or until it is called off.
-/

namespace PromptClient

/-- What answers calls, each of them after a while. -/
class Answering (β : Type) where
  /-- The answer to a call, the time until it is given, and what answers from there on. -/
  say : β → BackendCall → Reply × Duration × β

instance : Answering Script := ⟨Script.say⟩

namespace Errand

variable {β : Type} [Answering β]

/-- How far an errand has come. -/
structure Progress (β : Type) where
  errand : Errand
  script : β
  /-- Milliseconds since it began. -/
  time : Nat
  events : List ErrandEvent

/-- What an errand waits for, from when until when, and what comes then. -/
structure Wait where
  event : ErrandEvent
  reply : Reply
  begun : Nat
  ended : Nat
deriving Repr

/-- What an errand waits for after an event, how long it waits, and the script from
there on. -/
def expect (script : β) : ErrandEvent → Reply × Duration × β
  | .call request => Answering.say script request
  | .pause length => (.rested, length, script)

namespace Progress

def start (errand : Errand) (script : β) : Progress β :=
  ⟨errand, script, 0, []⟩

/-- The wait that begins with an event. -/
def wait (progress : Progress β) (event : ErrandEvent) : Wait :=
  let (reply, length, _) := expect progress.script event
  ⟨event, reply, progress.time, Clockwork.wakeTime progress.time length⟩

/-- In the wait that begins with an event. -/
def waiting (progress : Progress β) (event : ErrandEvent) : Progress β :=
  let (_, _, script) := expect progress.script event
  { progress with script := script, events := event :: progress.events }

/-- After a wait. -/
def resume (policy : PollPolicy) (progress : Progress β) (wait : Wait) : Progress β :=
  { progress with errand := progress.errand.next policy wait.reply, time := wait.ended }

end Progress

/-- Play an errand until it is over or would wait beyond the time it is called off.
The number of steps bounds the play. -/
def playFor (policy : PollPolicy) (callOff : Option Nat) :
    (steps : Nat) → Progress β → Progress β
  | 0, progress => progress
  | steps + 1, progress =>
      match progress.errand.event? policy with
      | none => progress
      | some event =>
          let wait := progress.wait event
          let waiting := progress.waiting event
          if (callOff.map fun limit => decide (limit < wait.ended)).getD false then waiting
          else playFor policy callOff steps (waiting.resume policy wait)

/-- Enough steps for everything that a script can say, with a pause after each. -/
def stepsFor (script : Script) : Nat :=
  2 * script.lookups + 4

def rehearse (policy : PollPolicy) (callOff : Option Nat) (script : Script)
    (errand : Errand) : Progress Script :=
  let played := playFor policy callOff (stepsFor script) (.start errand script)
  { played with events := played.events.reverse }

end Errand

end PromptClient
