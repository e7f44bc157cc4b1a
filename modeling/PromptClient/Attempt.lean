import PromptClient.Desk

/-! # Submitting

One attempt to submit a prompt, from taking the lock to giving it back. It is cut
where it may be suspended: at the credential file, at reading and at writing the
history, at every call of the backend and at every pause. Between two such points
nothing else happens, so attempts on one desk run together in any order by taking
these steps, and calling one off leaves it where it is and gives the lock back.
-/

namespace PromptClient

/-- What an attempt waits for. -/
inductive Attempt
  | readingFile (values : FormValues) (path : String)
  | recalling (submission : Submission)
  | remembering (submission : Submission) (entries : List String)
  | working (errand : Errand)
  /-- Nothing: it is over, and the lock has been given back. -/
  | over (outcome : Except Failure String)
  /-- Nothing: it has crashed, and the lock has been given back. -/
  | crashed
deriving Repr

namespace Attempt

/-- Nothing is waited for any more. -/
def isOver : Attempt → Bool
  | .over _ => true
  | .crashed => true
  | _ => false

end Attempt

namespace Desk

variable {σ : Type} [Storage σ]

/-- A submission with a credential, that of a file with its content in place of its path. -/
def submissionWith (tool : Tool) (values : FormValues) : Credential → Submission
  | .session cookie => ⟨values.prompt, JobContext.ofForm tool values, some cookie⟩
  | .token text =>
      ⟨values.prompt,
        (JobContext.ofForm tool values).withField tool.provider.accessTokenKey text, none⟩
  | .file content =>
      ⟨values.prompt,
        (JobContext.ofForm tool values).withField tool.provider.serviceAccountKey content, none⟩

/-- End an attempt: show why nothing was sent, and give the lock back. -/
def refuse (desk : Desk σ) (fault : ValidationFault) : Desk σ × List Event × Attempt :=
  let (after, shown) := desk.unlock
  (after, .notice (.alert fault.message) :: shown, .over (.error (.validation fault)))

/-- End an attempt: show its outcome, and give the lock back. -/
def conclude (desk : Desk σ) (outcome : Except Failure String) :
    Desk σ × List Event × Attempt :=
  let (after, shown) := desk.unlock
  (after, .notice (desk.presenter.present outcome) :: shown, .over outcome)

/-- End an attempt without a word: give the lock back. -/
def abandon (desk : Desk σ) : Desk σ × List Event × Attempt :=
  let (after, shown) := desk.unlock
  (after, shown, .crashed)

def accept (desk : Desk σ) (submission : Submission) : Desk σ × List Event × Attempt :=
  (desk, [], .recalling submission)

/-- Begin an attempt. If the form is locked nothing happens at all. -/
def beginAttempt (desk : Desk σ) (values : FormValues) : Desk σ × List Event × Attempt :=
  match desk.lock? with
  | none => (desk, [], .over (.error .busy))
  | some (locked, shown) =>
      let (after, events, attempt) :=
        if Prompt.normalize values.prompt = "" then locked.refuse .emptyPrompt
        else match locked.login.resolveCredential locked.mode locked.manual with
          | .error fault => locked.refuse fault
          | .ok (.file path) => (locked, [], .readingFile values path)
          | .ok credential => locked.accept (submissionWith locked.tool values credential)
      (after, shown ++ events, attempt)

def afterFile (desk : Desk σ) (values : FormValues) (path : String) :
    Desk σ × List Event × Attempt :=
  match Storage.readText desk.storage path with
  | .error fault => desk.refuse (.unreadableFile path fault.message)
  | .ok content =>
      if Text.isAllBlank content then desk.refuse .missingFile
      else desk.accept (submissionWith desk.tool values (.file content))

/-- Send the submission: show that it is under way and ask for the job. -/
def send (desk : Desk σ) (submission : Submission) : Desk σ × List Event × Attempt :=
  (desk, [.notice (.status loadingText), .call (.create submission)],
    .working (.creating submission))

def afterRecall (desk : Desk σ) (submission : Submission) : Desk σ × List Event × Attempt :=
  let entries := desk.history
  let line := Prompt.normalize submission.prompt
  if line = "" then desk.send submission
  else (desk, [], .remembering submission (History.push line entries))

def afterRemember (desk : Desk σ) (submission : Submission) (entries : List String) :
    Desk σ × List Event × Attempt :=
  (desk.withStorage (History.store desk.storage desk.tool.storageSpace entries)).send submission

def afterReply (desk : Desk σ) (errand : Errand) : Desk σ × List Event × Attempt :=
  match errand with
  | .finished _ outcome => desk.conclude outcome
  | .crashed => desk.abandon
  | waiting => (desk, (waiting.event? desk.policy).toList.map .ofErrand, .working waiting)

/-- The next step of an attempt. The reply is what an errand waits for; an attempt
that waits for the storage takes no reply. -/
def step (desk : Desk σ) (attempt : Attempt) (reply : Reply) : Desk σ × List Event × Attempt :=
  match attempt with
  | .readingFile values path => desk.afterFile values path
  | .recalling submission => desk.afterRecall submission
  | .remembering submission entries => desk.afterRemember submission entries
  | .working errand => desk.afterReply (errand.next desk.policy reply)
  | done => (desk, [], done)

def cancel (desk : Desk σ) (attempt : Attempt) : Desk σ × List Event :=
  if attempt.isOver then (desk, []) else desk.unlock

/-- Take the steps that only need the storage, until the attempt waits for the
backend or is over. There are at most three of them. -/
def settle (desk : Desk σ) (attempt : Attempt) : (steps : Nat) → Desk σ × List Event × Attempt
  | 0 => (desk, [], attempt)
  | steps + 1 =>
      match attempt with
      | .working _ => (desk, [], attempt)
      | .over _ => (desk, [], attempt)
      | .crashed => (desk, [], attempt)
      | waiting =>
          let (after, events, next) := desk.step waiting .rested
          let (last, more, final) := settle after next steps
          (last, events ++ more, final)

/-- Begin an attempt and go on until it waits for the backend or is over. -/
def submit (desk : Desk σ) (values : FormValues) : Desk σ × List Event × Attempt :=
  let (after, events, attempt) := desk.beginAttempt values
  let (last, more, final) := after.settle attempt 3
  (last, events ++ more, final)

def carryOn (desk : Desk σ) (attempt : Attempt) : List Reply → Desk σ × List Event × Attempt
  | [] => (desk, [], attempt)
  | reply :: rest =>
      if attempt.isOver then (desk, [], attempt)
      else
        let (after, events, next) := desk.step attempt reply
        let (last, more, final) := carryOn after next rest
        (last, events ++ more, final)

end Desk

end PromptClient
