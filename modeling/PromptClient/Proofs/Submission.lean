import PromptClient.Proofs.Attempt
import PromptClient.Proofs.Polling

/-! # One submission from beginning to end

An attempt that nobody calls off is refused because the form is locked, refused because
there is nothing to send, or carried out. Each way shows exactly what it should and leaves
the desk as it should be. -/

namespace PromptClient

namespace Desk

variable {σ : Type}

/-! ## What is to be sent -/

/-- Refusing gives back the lock that was taken. -/
theorem refuse_withLock {desk : Desk σ} (unlocked : desk.form.locked = false)
    (fault : ValidationFault) :
    (desk.withLock true).refuse fault =
      (desk, [.notice (.alert fault.message), .form desk.form.snapshot],
        .over (.error (.validation fault))) := by
  have back : (desk.withLock true).withLock false = desk := withLock_self unlocked
  simp [refuse, unlock_eq, back]

theorem submissionWith_prompt (tool : Tool) (values : FormValues)
    (credential : Credential) :
    (submissionWith tool values credential).prompt = values.prompt := by
  cases credential <;> rfl

variable [Storage σ]

/-- The submission with the content of a credential file, or why there is none. -/
def prepareFile (desk : Desk σ) (values : FormValues) (path : String) :
    Except ValidationFault Submission :=
  match Storage.readText desk.storage path with
  | .error fault => .error (.unreadableFile path fault.message)
  | .ok content =>
      if Text.isAllBlank content then .error .missingFile
      else .ok (submissionWith desk.tool values (.file content))

/-- The submission that the form's content and the credential chosen make, or why there
is none. -/
def prepare (desk : Desk σ) (values : FormValues) : Except ValidationFault Submission :=
  if Prompt.normalize values.prompt = "" then .error .emptyPrompt
  else match desk.login.resolveCredential desk.mode desk.manual with
    | .error fault => .error fault
    | .ok (.file path) => desk.prepareFile values path
    | .ok credential => .ok (submissionWith desk.tool values credential)

/-- The credential that a desk supplies for a submission: the one chosen, with the content of a
file in place of its path. -/
inductive Supplies (desk : Desk σ) : Credential → Prop
  | chosen {credential : Credential}
      (resolved : desk.login.resolveCredential desk.mode desk.manual = .ok credential)
      (notFile : ∀ path, credential ≠ .file path) : Supplies desk credential
  | content {path content : String}
      (resolved : desk.login.resolveCredential desk.mode desk.manual = .ok (.file path))
      (read : Storage.readText desk.storage path = .ok content)
      (full : Text.isAllBlank content = false) : Supplies desk (.file content)

theorem prepareFile_ok {desk : Desk σ} {values : FormValues} {path : String}
    {submission : Submission} (prepared : desk.prepareFile values path = .ok submission) :
    ∃ content, Storage.readText desk.storage path = .ok content ∧
      Text.isAllBlank content = false ∧
      submission = submissionWith desk.tool values (.file content) := by
  unfold prepareFile at prepared
  split at prepared
  · cases prepared
  · rename_i content read
    split at prepared
    · cases prepared
    · rename_i full
      cases prepared
      exact ⟨content, read, by simpa using full, rfl⟩

/-- Whatever is prepared is made from a prompt that is not blank and a credential. -/
theorem prepare_ok {desk : Desk σ} {values : FormValues} {submission : Submission}
    (prepared : desk.prepare values = .ok submission) :
    Prompt.normalize values.prompt ≠ "" ∧ ∃ credential, desk.Supplies credential ∧
      submission = submissionWith desk.tool values credential := by
  unfold prepare at prepared
  split at prepared
  · cases prepared
  · rename_i full
    refine ⟨full, ?_⟩
    split at prepared
    · cases prepared
    · rename_i path resolved
      rcases prepareFile_ok prepared with ⟨content, read, full, same⟩
      exact ⟨_, .content resolved read full, same⟩
    · rename_i credential notFile resolved
      cases prepared
      exact ⟨credential, .chosen resolved fun path same => notFile path same, rfl⟩

/-- Only a prompt that is not blank is sent, and it is sent as it is. -/
theorem prepare_prompt {desk : Desk σ} {values : FormValues} {submission : Submission}
    (prepared : desk.prepare values = .ok submission) :
    submission.prompt = values.prompt ∧ Prompt.normalize values.prompt ≠ "" := by
  rcases prepare_ok prepared with ⟨full, credential, -, rfl⟩
  exact ⟨submissionWith_prompt _ _ _, full⟩

/-! ## Up to the backend

An attempt runs by itself as far as its call for the job. -/

/-- The desk after a prompt has been put into its history. -/
def recorded (desk : Desk σ) (prompt : String) : Desk σ :=
  desk.withStorage (History.record desk.storage desk.tool.storageSpace prompt).2

/-- Refuse what cannot be prepared, and go on with what can. -/
def takeUp (desk : Desk σ) : Except ValidationFault Submission →
    Desk σ × List Event × Attempt
  | .error fault => desk.refuse fault
  | .ok submission => desk.accept submission

theorem afterFile_eq (desk : Desk σ) (values : FormValues) (path : String) :
    desk.afterFile values path = desk.takeUp (desk.prepareFile values path) := by
  unfold afterFile prepareFile
  cases Storage.readText desk.storage path with
  | error fault => rfl
  | ok content =>
      cases blank : Text.isAllBlank content with
      | true => simp [takeUp, blank]
      | false => simp [takeUp, blank]

@[simp] theorem settle_working (desk : Desk σ) (errand : Errand) (steps : Nat) :
    desk.settle (.working errand) steps = (desk, [], .working errand) := by
  cases steps <;> rfl

@[simp] theorem settle_over (desk : Desk σ) (outcome : Except Failure String)
    (steps : Nat) : desk.settle (.over outcome) steps = (desk, [], .over outcome) := by
  cases steps <;> rfl

/-- What is prepared is recorded and sent. -/
theorem settle_recalling (desk : Desk σ) (submission : Submission) (spare : Nat)
    (full : Prompt.normalize submission.prompt ≠ "") :
    desk.settle (.recalling submission) (spare + 2) =
      (desk.recorded submission.prompt,
        [.notice (.status loadingText), .call (.create submission)],
        .working (.creating submission)) := by
  have kept : History.record desk.storage desk.tool.storageSpace submission.prompt =
      (History.push (Prompt.normalize submission.prompt) desk.history,
        History.store desk.storage desk.tool.storageSpace
          (History.push (Prompt.normalize submission.prompt) desk.history)) := by
    simp [History.record, full, history]
  simp [settle, step, afterRecall, full, afterRemember, send, recorded, kept]

/-- A locked form takes no submission, and nothing happens. -/
theorem submit_of_locked {desk : Desk σ} (values : FormValues)
    (locked : desk.form.locked = true) :
    desk.submit values = (desk, [], .over (.error .busy)) := by
  simp [submit, beginAttempt, lock?_of_locked locked]

/-- Take up what is prepared, and go on until the attempt waits for the backend or is
over. -/
def settleOn (desk : Desk σ) (prepared : Except ValidationFault Submission)
    (steps : Nat) : Desk σ × List Event × Attempt :=
  let (after, events, attempt) := desk.takeUp prepared
  let (last, more, final) := after.settle attempt steps
  (last, events ++ more, final)

/-- An unlocked form is locked, and then all depends on what is prepared. One step is left
over unless a file had to be read. -/
theorem submit_of_unlocked {desk : Desk σ} (values : FormValues)
    (unlocked : desk.form.locked = false) :
    ∃ spare, desk.submit values =
      let later := (desk.withLock true).settleOn (desk.prepare values) (spare + 2)
      (later.1, .form (desk.withLock true).form.snapshot :: later.2.1, later.2.2) := by
  have taken := lock?_of_unlocked unlocked
  by_cases blank : Prompt.normalize values.prompt = ""
  · exact ⟨1, by simp [submit, beginAttempt, taken, blank, prepare, settleOn, takeUp]⟩
  · cases resolved : desk.login.resolveCredential desk.mode desk.manual with
    | error fault =>
        exact ⟨1, by simp [submit, beginAttempt, taken, blank, prepare, resolved,
          settleOn, takeUp]⟩
    | ok credential =>
        cases credential with
        | session cookie | token text =>
            exact ⟨1, by simp [submit, beginAttempt, taken, blank, prepare, resolved,
              settleOn, takeUp]⟩
        | file path =>
            have read : (desk.withLock true).afterFile values path =
                (desk.withLock true).takeUp (desk.prepareFile values path) :=
              afterFile_eq _ values path
            exact ⟨0, by simp [submit, beginAttempt, taken, blank, prepare, resolved,
              settleOn, settle, step, read]⟩

/-- Without anything to send, an attempt raises an alert between locking the form and
unlocking it. -/
theorem submit_of_refused {desk : Desk σ} {values : FormValues} {fault : ValidationFault}
    (unlocked : desk.form.locked = false) (refused : desk.prepare values = .error fault) :
    desk.submit values =
      (desk,
        [.form (desk.withLock true).form.snapshot, .notice (.alert fault.message),
          .form desk.form.snapshot],
        .over (.error (.validation fault))) := by
  rcases submit_of_unlocked values unlocked with ⟨spare, submitted⟩
  rw [submitted, refused]
  simp [settleOn, takeUp, refuse_withLock unlocked]

/-- With something to send, an attempt records the prompt and asks for the job. -/
theorem submit_of_prepared {desk : Desk σ} {values : FormValues} {submission : Submission}
    (unlocked : desk.form.locked = false) (prepared : desk.prepare values = .ok submission) :
    desk.submit values =
      ((desk.withLock true).recorded values.prompt,
        [.form (desk.withLock true).form.snapshot, .notice (.status loadingText),
          .call (.create submission)],
        .working (.creating submission)) := by
  rcases submit_of_unlocked values unlocked with ⟨spare, submitted⟩
  rcases prepare_prompt prepared with ⟨same, full⟩
  have sends := (desk.withLock true).settle_recalling submission spare (by rwa [same])
  rw [same] at sends
  rw [submitted, prepared]
  simp [settleOn, takeUp, accept, sends]

/-! ## While the backend answers -/

@[simp] theorem carryOn_over (desk : Desk σ) (outcome : Except Failure String)
    (replies : List Reply) :
    desk.carryOn (.over outcome) replies = (desk, [], .over outcome) := by
  cases replies <;> rfl

@[simp] theorem carryOn_crashed (desk : Desk σ) (replies : List Reply) :
    desk.carryOn .crashed replies = (desk, [], .crashed) := by
  cases replies <;> rfl

/-- An attempt ends as its errand ends: with the outcome shown, and unlocked. -/
theorem carryOn_of_finished (desk : Desk σ) {job : Option Job}
    {outcome : Except Failure String} (replies : List Reply) :
    ∀ errand : Errand, errand.isOver = false →
      (Errand.play desk.policy errand replies).2 = .finished job outcome →
      desk.carryOn (.working errand) replies =
        (desk.withLock false,
          (Errand.later desk.policy errand replies).map .ofErrand ++
            [.notice (desk.presenter.present outcome),
              .form (desk.withLock false).form.snapshot],
          .over outcome) := by
  -- On the replies, for every errand that still waits: the one that ends here takes no
  -- notice of the replies left over.
  induction replies with
  | nil =>
      intro errand waiting finishes
      change errand = _ at finishes
      rw [finishes] at waiting
      cases waiting
  | cons reply rest induction =>
      intro errand waiting finishes
      change (Errand.play desk.policy (errand.next desk.policy reply) rest).2 = _ at finishes
      cases isOver : (errand.next desk.policy reply).isOver with
      | false =>
          have steps := desk.afterReply_of_waiting isOver
          have remaining := induction _ isOver finishes
          have does := Errand.play_eq_later desk.policy (errand.next desk.policy reply) rest
          simp [carryOn, Attempt.isOver, step, steps, remaining, Errand.later, does]
      | true =>
          cases reached : errand.next desk.policy reply with
          | creating submission | asking asked waited | resting asked waited =>
              rw [reached] at isOver
              cases isOver
          | crashed =>
              rw [reached, Errand.play_crashed] at finishes
              cases finishes
          | finished ended known =>
              rw [reached, Errand.play_finished] at finishes
              cases finishes
              simp [carryOn, Attempt.isOver, step, reached, afterReply, conclude, unlock_eq,
                Errand.later]

/-- Once the job has been asked for, no errand asks for another. -/
theorem creations_play {policy : PollPolicy} (replies : List Reply) :
    ∀ errand : Errand, (∀ submission, errand ≠ .creating submission) →
      Event.creations ((Errand.play policy errand replies).1.map .ofErrand) = [] := by
  have own : ∀ errand : Errand, (∀ submission, errand ≠ .creating submission) →
      Event.creations ((errand.event? policy).toList.map .ofErrand) = [] := by
    intro errand begun
    cases errand with
    | creating submission => exact absurd rfl (begun submission)
    | asking job waited | resting job waited | finished job outcome | crashed => rfl
  induction replies with
  | nil => exact own
  | cons reply rest induction =>
      intro errand begun
      change Event.creations (((errand.event? policy).toList ++
        (Errand.play policy (errand.next policy reply) rest).1).map .ofErrand) = []
      rw [List.map_append, Event.creations_append, own errand begun,
        induction _ (Errand.next_ne_creating policy errand reply)]
      rfl

/-! ## The whole submission -/

/-- Submit, and go on for as long as the backend's replies last. -/
def seeThrough (desk : Desk σ) (values : FormValues) (replies : List Reply) :
    Desk σ × List Event × Attempt :=
  let (waiting, events, attempt) := desk.submit values
  let (last, more, final) := waiting.carryOn attempt replies
  (last, events ++ more, final)

/-- What an attempt shows that has nothing to send. -/
theorem seeThrough_of_refused {desk : Desk σ} {values : FormValues}
    {fault : ValidationFault} (replies : List Reply) (unlocked : desk.form.locked = false)
    (refused : desk.prepare values = .error fault) :
    desk.seeThrough values replies =
      (desk,
        [.form (desk.withLock true).form.snapshot, .notice (.alert fault.message),
          .form desk.form.snapshot],
        .over (.error (.validation fault))) := by
  simp [seeThrough, submit_of_refused unlocked refused]

/-- What an attempt shows and asks whose errand comes to an end. -/
theorem seeThrough_of_finished {desk : Desk σ} {values : FormValues}
    {submission : Submission} {replies : List Reply} {job : Option Job}
    {outcome : Except Failure String} (unlocked : desk.form.locked = false)
    (prepared : desk.prepare values = .ok submission)
    (finishes : (Errand.play desk.policy (.creating submission) replies).2 =
      .finished job outcome) :
    desk.seeThrough values replies =
      (desk.recorded values.prompt,
        [.form (desk.withLock true).form.snapshot, .notice (.status loadingText),
            .call (.create submission)] ++
          ((Errand.later desk.policy (.creating submission) replies).map .ofErrand ++
            [.notice (desk.presenter.present outcome), .form desk.form.snapshot]),
        .over outcome) := by
  have submits := submit_of_prepared unlocked prepared
  have policy : ((desk.withLock true).recorded values.prompt).policy = desk.policy := by
    simp only [recorded, withStorage_policy, withLock_policy]
  have presenter : ((desk.withLock true).recorded values.prompt).presenter =
      desk.presenter := by
    simp only [recorded, withStorage_presenter, withLock_presenter]
  have back : ((desk.withLock true).recorded values.prompt).withLock false =
      desk.recorded values.prompt := by
    simp only [recorded, withLock_withStorage, withLock_withLock, withLock_storage,
      withLock_tool]
    exact withLock_self unlocked
  have form : (desk.recorded values.prompt).form = desk.form := by
    simp only [recorded, withStorage_form]
  rw [← policy] at finishes
  have ends := carryOn_of_finished ((desk.withLock true).recorded values.prompt)
    replies (.creating submission) rfl finishes
  rw [back, policy, presenter, form] at ends
  simp only [seeThrough, submits, ends]

/-- A submission goes one of three ways. If the form is locked, nothing happens at all. If
there is nothing to send, one alert says why and the desk stays as it was. Otherwise the
prompt is put into the history, one job is asked for, and what is shown is that it is under
way and then, once the backend's replies end its errand, the outcome. -/
theorem seeThrough_ways (desk : Desk σ) (values : FormValues) (replies : List Reply) :
    (desk.form.locked = true →
      desk.seeThrough values replies = (desk, [], .over (.error .busy))) ∧
    (desk.form.locked = false → ∀ fault, desk.prepare values = .error fault →
      ∃ events,
        desk.seeThrough values replies =
          (desk, events, .over (.error (.validation fault))) ∧
        Event.notices events = [.alert fault.message] ∧
        Event.calls events = []) ∧
    (desk.form.locked = false → ∀ submission, desk.prepare values = .ok submission →
      ∀ job outcome,
        (Errand.play desk.policy (.creating submission) replies).2 =
          .finished job outcome →
        ∃ events,
          desk.seeThrough values replies =
            (desk.recorded values.prompt, events, .over outcome) ∧
          Event.creations events = [submission] ∧
          (∀ markdown, outcome = .ok markdown →
            Event.notices events =
              [.status loadingText,
                .html (desk.presenter.sanitize (desk.presenter.render markdown))]) ∧
          ∀ failure, outcome = .error failure →
            Event.notices events = [.status loadingText, .error failure.message]) := by
  refine ⟨?_, ?_, ?_⟩
  · intro locked
    simp [seeThrough, submit_of_locked values locked]
  · intro unlocked fault refused
    exact ⟨_, seeThrough_of_refused replies unlocked refused, rfl, rfl⟩
  · intro unlocked submission prepared job outcome finishes
    have runs := seeThrough_of_finished unlocked prepared finishes
    refine ⟨_, runs, ?_, ?_, ?_⟩
    · have noMore : Event.creations
          ((Errand.later desk.policy (.creating submission) replies).map .ofErrand) = [] := by
        cases replies with
        | nil => rfl
        | cons reply rest =>
            exact creations_play rest _ (Errand.next_ne_creating _ _ reply)
      simp only [Event.creations_append, noMore]
      rfl
    · intro markdown succeeds
      subst succeeds
      simp only [Event.notices_append, Event.notices_ofErrand]
      rfl
    · intro failure fails
      subst fails
      simp only [Event.notices_append, Event.notices_ofErrand]
      rfl

/-- A token is given, the job is looked up twice, and the result is shown. -/
theorem seeThrough_ways_token :
    let login : Login MemoryStorage :=
      { tool := .slackChannel
        settings := ⟨"", "", "", "", none⟩
        storage := ⟨none, ⟨[]⟩, ⟨[]⟩⟩
        clock := 0
        browserOpens := true
        state := .loggedOut
        changes := 0 }
    let desk : Desk MemoryStorage :=
      { login := login
        form := .initial
        mode := .manual
        manual := .token " xoxp-1 "
        policy := .standard
        presenter := ⟨fun text => "<p>" ++ text ++ "</p>", fun text => text⟩ }
    let values : FormValues := ⟨"What is new?", "", "", false, []⟩
    let replies : List Reply :=
      [.created (.ok "job-1"), .found (.ok .notReady), .rested, .found (.ok (.ready "News"))]
    let submission : Submission :=
      ⟨"What is new?", ⟨"SlackChannel", "", "", false, [("slack_access_token", "xoxp-1")]⟩,
        none⟩
    ∃ events,
      desk.seeThrough values replies =
        (desk.recorded values.prompt, events, .over (.ok "News")) ∧
      Event.creations events = [submission] ∧
      Event.notices events = [.status loadingText, .html "<p>News</p>"] := by
  intro login desk values replies submission
  have full : Prompt.normalize "What is new?" ≠ "" := by decide +kernel
  have present : Text.isAllBlank " xoxp-1 " = false := by decide +kernel
  have trimmed : Text.trim " xoxp-1 " = "xoxp-1" := by decide +kernel
  have given : desk.login.resolveCredential desk.mode desk.manual =
      .ok (.token "xoxp-1") := by
    simp [desk, Login.resolveCredential, Login.manualCredential, present, trimmed]
  have made : submissionWith .slackChannel
      ⟨"What is new?", "", "", false, []⟩ (.token "xoxp-1") =
      ⟨"What is new?",
        ⟨"SlackChannel", "", "", false, [("slack_access_token", "xoxp-1")]⟩, none⟩ := by
    decide +kernel
  have prepared : desk.prepare values = .ok submission := by
    simp only [prepare, values, if_neg full, given]
    exact congrArg Except.ok made
  have ways := (seeThrough_ways desk values replies).2.2 rfl submission prepared
  have finishes : (Errand.play .standard (.creating submission) replies).2 =
      .finished (some ⟨"job-1", .ready, 2⟩) (.ok "News") := by
    have fits : Duration.zero.nanoseconds + (Duration.ofSeconds 30).nanoseconds <
        Duration.limit := by decide
    simp only [replies, Errand.play, Errand.next, Errand.ask, Job.pending,
      Errand.giveUpOrRest, PollPolicy.standard, Errand.add?_of_lt fits]
  rcases ways _ _ finishes with ⟨events, runs, sends, shows, _⟩
  exact ⟨events, runs, sends, shows "News" rfl⟩

end Desk

end PromptClient
