import PromptClient.Job

/-! # Scripted backends

A script says in advance what a backend answers, call by call, and how long it takes
over each answer. A script that has come to its end still answers.
-/

namespace PromptClient

/-- What is said to an attempt to create a job. -/
inductive CreateLine
  | accept (key : String)
  | refuse (fault : SubmissionFault)
deriving DecidableEq, Repr

/-- What is said to look-ups. -/
inductive ResultLine
  /-- So many look-ups find nothing yet. -/
  | notReady (times : Nat)
  | ready (body : String)
  | fail (status : Nat) (body : String)
  | unreachable
  | crash
deriving DecidableEq, Repr

/-- A line and the time until it is said. -/
structure Cue (α : Type) where
  line : α
  delay : Duration
deriving DecidableEq, Repr

/-- What is still to be said. -/
structure Script where
  creates : List (Cue CreateLine)
  results : List (Cue ResultLine)
deriving DecidableEq, Repr, Inhabited

namespace Script

/-- What a client reports that cannot make sense of the backend's address. -/
def unreachableDetail : String :=
  "builder error: relative URL without a base"

def append (first second : Script) : Script :=
  ⟨first.creates ++ second.creates, first.results ++ second.results⟩

def createOutcome : CreateLine → Except SubmissionFault String
  | .accept key => .ok key
  | .refuse fault => .error fault

def sayToCreate : List (Cue CreateLine) → Reply × Duration × List (Cue CreateLine)
  | [] => (.created (.ok "job-1"), .zero, [])
  | cue :: rest => (.created (createOutcome cue.line), cue.delay, rest)

def sayToFetch (key : String) : List (Cue ResultLine) → Reply × Duration × List (Cue ResultLine)
  | [] => (.found (.error (.failed key 599 "script exhausted")), .zero, [])
  | cue :: rest =>
      match cue.line with
      | .notReady 0 => sayToFetch key rest
      | .notReady (times + 1) =>
          (.found (.ok .notReady), cue.delay, { cue with line := .notReady times } :: rest)
      | .ready body => (.found (.ok (.ready body)), cue.delay, rest)
      | .fail status body => (.found (.error (.failed key status body)), cue.delay, rest)
      | .unreachable => (.found (.error (.transport unreachableDetail)), cue.delay, rest)
      | .crash => (.crashed, cue.delay, rest)

def say (script : Script) : BackendCall → Reply × Duration × Script
  | .create _ =>
      let (reply, delay, rest) := sayToCreate script.creates
      (reply, delay, { script with creates := rest })
  | .fetch key =>
      let (reply, delay, rest) := sayToFetch key script.results
      (reply, delay, { script with results := rest })

def ResultLine.calls : ResultLine → Nat
  | .notReady times => times
  | _ => 1

def lookups (script : Script) : Nat :=
  script.results.foldr (fun cue more => ResultLine.calls cue.line + more) 0

end Script

end PromptClient
