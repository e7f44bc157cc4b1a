import PromptClient.Proofs.Fields
import PromptClient.Proofs.Judgement
import PromptClient.Terminal.Workplace

/-! # Orders with a credential

An order to submit may bring a credential along, which is to be used instead of the session. -/

namespace PromptClient

namespace Turn

/-- The job that is asked for at the end of a turn. -/
def creation? (turn : Turn) : Option Submission :=
  match turn.stand with
  | .waiting (.working (.creating submission)) => some submission
  | _ => none

/-- The jobs that are asked for from here on, for as long as the replies last. -/
def jobs (turn : Turn) : List Reply → List Submission
  | [] => turn.creation?.toList
  | reply :: rest =>
      turn.creation?.toList ++
        match turn.stand with
        | .ended _ => []
        | .waiting attempt => jobs (turn.workplace.proceed attempt reply) rest

/-- Nothing but the backend is waited for. -/
def Settled (turn : Turn) : Prop :=
  ∀ attempt, turn.stand = .waiting attempt → ∃ errand, attempt = .working errand

end Turn

namespace Workplace

/-! ## What follows a job -/

theorem takeUp_stand (place : Workplace) (result : Desk FileStorage × List Event × Attempt) :
    (place.takeUp result).stand = match result.2.2 with
      | .over outcome => .ended (ending outcome).2
      | .crashed => .ended .failure
      | waiting => .waiting waiting := by
  rcases result with ⟨desk, events, attempt⟩
  cases attempt <;> rfl

/-- No reply leads to another job. -/
theorem proceed_working (place : Workplace) (errand : Errand) (reply : Reply) :
    (place.proceed (.working errand) reply).Settled ∧
      (place.proceed (.working errand) reply).creation? = none := by
  have begun := Errand.next_ne_creating place.desk.policy errand reply
  have stand := place.takeUp_stand (place.desk.step (.working errand) reply)
  simp only [Desk.step] at stand
  simp only [Turn.Settled, Turn.creation?, proceed, Desk.step]
  cases next : errand.next place.desk.policy reply with
  | creating submission => exact absurd next (begun submission)
  | asking job waited | resting job waited =>
      rw [next, Desk.afterReply_of_waiting _ rfl] at stand
      rw [Desk.afterReply_of_waiting _ rfl, stand]
      refine ⟨?_, rfl⟩
      rintro attempt ⟨⟩
      exact ⟨_, rfl⟩
  | finished job outcome =>
      rw [next] at stand
      simp only [Desk.afterReply, Desk.conclude] at stand ⊢
      rw [stand]
      exact ⟨fun _ waits => (by cases waits), rfl⟩
  | crashed =>
      rw [next] at stand
      simp only [Desk.afterReply, Desk.abandon] at stand ⊢
      rw [stand]
      exact ⟨fun _ waits => (by cases waits), rfl⟩

theorem jobs_eq_nil (replies : List Reply) :
    ∀ turn : Turn, turn.Settled → turn.creation? = none → turn.jobs replies = [] := by
  induction replies with
  | nil =>
      intro turn _ no
      rw [Turn.jobs, no]
      rfl
  | cons reply rest induction =>
      intro turn settled no
      rw [Turn.jobs, no]
      split
      · rfl
      · rename_i attempt waits
        rcases settled attempt waits with ⟨errand, rfl⟩
        rcases turn.workplace.proceed_working errand reply with ⟨settles, noMore⟩
        exact induction _ settles noMore

/-- Where nothing but the backend is waited for, no job is asked for any more but the one that
has just been. -/
theorem jobs_of_settled {turn : Turn} (settled : turn.Settled) (replies : List Reply) :
    turn.jobs replies = turn.creation?.toList := by
  cases replies with
  | nil => rfl
  | cons reply rest =>
      rw [Turn.jobs]
      split
      · exact List.append_nil _
      · rename_i attempt waits
        rcases settled attempt waits with ⟨errand, rfl⟩
        rcases turn.workplace.proceed_working errand reply with ⟨settles, noMore⟩
        rw [jobs_eq_nil rest _ settles noMore, List.append_nil]

theorem jobs_of_ended {turn : Turn} {status : ExitStatus} (ended : turn.stand = .ended status)
    (replies : List Reply) : turn.jobs replies = [] := by
  have settled : turn.Settled := by
    intro attempt waits
    rw [ended] at waits
    cases waits
  rw [jobs_of_settled settled, Turn.creation?, ended]
  rfl

/-! ## Up to the job -/

/-- The desk once the prompt of an order has been stored. -/
def promptDesk (place : Workplace) (order : SubmitOrder) : Desk FileStorage :=
  match order.prompt with
  | none => place.desk
  | some prompt => place.desk.withStorage
      (FieldStore.setField place.desk.tool.storageSpace promptField prompt place.desk.storage)

theorem storePrompt_eq (place : Workplace) (order : SubmitOrder) :
    storePrompt place.desk order = .ok (place.promptDesk order) := by
  unfold storePrompt promptDesk
  cases order.prompt with
  | none => rfl
  | some prompt =>
      exact place.desk.updateField_of_mem place.desk.tool.promptField_mem_fieldNames prompt

theorem promptDesk_form (place : Workplace) (order : SubmitOrder) :
    (place.promptDesk order).form = place.desk.form := by
  unfold promptDesk
  split <;> rfl

/-- What the form holds for an order. -/
def orderValues (place : Workplace) (order : SubmitOrder) : FormValues :=
  { (place.promptDesk order).load order.substitute with
    argumentDebugging := order.argumentDebugging }

theorem submit_eq (place : Workplace) (order : SubmitOrder) :
    place.submit order = place.takeUp
      ((giveCredential (place.promptDesk order) (credentialOf order)).submit
        (place.orderValues order)) := by
  simp only [submit, storePrompt_eq]
  rfl

/-- A credential that is not blank is used instead of the session. -/
theorem giveCredential_of_present (desk : Desk FileStorage) {credential : ManualCredential}
    (present : credential.isPresent = true) :
    (giveCredential desk credential).login = desk.login ∧
    (giveCredential desk credential).form.locked = desk.form.locked ∧
    (giveCredential desk credential).mode = .manual ∧
    (giveCredential desk credential).manual = credential := by
  simp only [giveCredential, present, if_true]
  exact ⟨rfl, rfl, rfl, rfl⟩

theorem giveCredential_of_blank (desk : Desk FileStorage) {credential : ManualCredential}
    (blank : credential.isPresent = false) : giveCredential desk credential = desk := by
  simp [giveCredential, blank]

theorem credentialOf_present {order : SubmitOrder}
    (given : order.token ≠ none ∨ order.credentialFile ≠ none)
    (notBlank : ∀ token ∈ order.token, Text.isAllBlank token = false) :
    (credentialOf order).isPresent = true := by
  unfold credentialOf
  split
  · rename_i token same
    simpa [ManualCredential.isPresent] using notBlank token same
  · rfl
  · rename_i noToken noFile
    exact absurd given (by simp [noToken, noFile])

theorem credentialOf_blank {order : SubmitOrder} {token : String} (same : token ∈ order.token)
    (blank : Text.isAllBlank token = true) : (credentialOf order).isPresent = false := by
  simp [credentialOf, Option.mem_def.mp same, ManualCredential.isPresent, blank]

section Submitting

variable {place : Workplace} {order : SubmitOrder} {desk : Desk FileStorage}
  (ready : giveCredential (place.promptDesk order) (credentialOf order) = desk)

include ready

theorem submit_of_locked (locked : desk.form.locked = true) :
    (place.submit order).stand = .ended .failure := by
  rw [submit_eq, ready, Desk.submit_of_locked _ locked]
  rfl

theorem submit_of_refused (unlocked : desk.form.locked = false) {fault : ValidationFault}
    (refused : desk.prepare (place.orderValues order) = .error fault) :
    (place.submit order).lines = [.err ("⚠️  " ++ fault.message)] ∧
      (place.submit order).stand = .ended .failure := by
  rw [submit_eq, ready, Desk.submit_of_refused unlocked refused]
  exact ⟨rfl, rfl⟩

theorem submit_of_prepared (unlocked : desk.form.locked = false) {submission : Submission}
    (prepared : desk.prepare (place.orderValues order) = .ok submission) :
    (place.submit order).stand = .waiting (.working (.creating submission)) := by
  rw [submit_eq, ready, Desk.submit_of_prepared unlocked prepared]
  rfl

/-- An order asks for the job that has been prepared, and for no other, whatever the replies.
While another one is under way it asks for none. -/
theorem mem_jobs_submit (replies : List Reply) {submission : Submission} :
    submission ∈ (place.submit order).jobs replies ↔
      desk.form.locked = false ∧ desk.prepare (place.orderValues order) = .ok submission := by
  cases locked : desk.form.locked with
  | true =>
      rw [jobs_of_ended (submit_of_locked ready locked)]
      simp
  | false =>
      cases made : desk.prepare (place.orderValues order) with
      | error fault =>
          rw [jobs_of_ended (submit_of_refused ready locked made).2]
          simp
      | ok prepared =>
          have stand := submit_of_prepared ready locked made
          have settled : (place.submit order).Settled := by
            intro attempt waits
            rw [stand] at waits
            cases waits
            exact ⟨_, rfl⟩
          rw [jobs_of_settled settled, Turn.creation?, stand]
          simp [eq_comm]

/-- An order that asks for no job has failed at once, with an alert unless the desk is busy. -/
theorem submit_of_jobless {replies : List Reply}
    (jobless : (place.submit order).jobs replies = []) :
    (place.submit order).stand = .ended .failure ∧
      (desk.form.locked = false →
        ∃ fault : ValidationFault, (place.submit order).lines = [.err ("⚠️  " ++ fault.message)]) := by
  cases locked : desk.form.locked with
  | true => exact ⟨submit_of_locked ready locked, fun free => (by cases free)⟩
  | false =>
      cases made : desk.prepare (place.orderValues order) with
      | error fault =>
          rcases submit_of_refused ready locked made with ⟨lines, stand⟩
          exact ⟨stand, fun _ => ⟨fault, lines⟩⟩
      | ok job =>
          have found := (mem_jobs_submit ready replies).mpr ⟨locked, made⟩
          rw [jobless] at found
          cases found

end Submitting

end Workplace

/-! ## What a credential is good for -/

namespace Desk

variable {σ : Type} [Storage σ]

/-- The secret that a credential gives, under its key: the token without the blanks around it,
or the content of the file. There is none if that is blank or cannot be read. -/
def secret? (desk : Desk σ) : ManualCredential → Option (String × String)
  | .absent => none
  | .token text =>
      if Text.isAllBlank text then none
      else some (desk.tool.provider.accessTokenKey, Text.trim text)
  | .file path =>
      match Storage.readText desk.storage path with
      | .error _ => none
      | .ok content =>
          if Text.isAllBlank content then none
          else some (desk.tool.provider.serviceAccountKey, content)

theorem secret?_congr {first second : Desk σ} (login : first.login = second.login)
    (credential : ManualCredential) : first.secret? credential = second.secret? credential := by
  cases credential <;> simp only [secret?, tool, storage, login]

/-- In manual mode a job carries the secret of the credential that has been given. -/
theorem prepare_secret {desk : Desk σ} (mode : desk.mode = .manual) {values : FormValues}
    {job : Submission} (prepared : desk.prepare values = .ok job) :
    job.cookie = none ∧ ∃ key value, desk.secret? desk.manual = some (key, value) ∧
      job.context.secrets = [(key, .text value)] := by
  have authentic := prepare_authenticates prepared
  rw [Authenticates, mode] at authentic
  rcases authentic with ⟨none, ⟨text, given, full, carried⟩ | ⟨path, content, given, read, full,
    carried⟩⟩
  · have present : Text.isAllBlank text = false := by
      cases blank : Text.isAllBlank text with
      | false => rfl
      | true =>
          rw [(Text.trim_eq_empty_iff text).mpr blank] at full
          cases full
    exact ⟨none, _, _, by simp [secret?, given, present], carried⟩
  · exact ⟨none, _, _, by simp [secret?, given, read, full], carried⟩

/-- A job carries the session's cookie in session mode, while there is a session. -/
theorem prepare_cookie_iff {desk : Desk σ} {values : FormValues} :
    (∃ job, desk.prepare values = .ok job ∧ job.cookie ≠ none) ↔
      desk.mode = .session ∧ desk.login.hasSession = true ∧
        Prompt.normalize values.prompt ≠ "" := by
  constructor
  · rintro ⟨job, prepared, cookie⟩
    have full := (prepare_prompt prepared).2
    have authentic := prepare_authenticates prepared
    unfold Authenticates at authentic
    split at authentic
    · rename_i mode
      rcases authentic with ⟨stored, session, found, live, decoded, valid, -, -⟩
      exact ⟨mode, desk.login.hasSession_iff.mpr ⟨stored, found, live, session, decoded, valid⟩,
        full⟩
    · exact absurd authentic.1 cookie
  · rintro ⟨mode, session, full⟩
    rcases desk.login.hasSession_iff.mp session with ⟨cookie, stored, carries⟩
    have resolved : desk.login.resolveCredential desk.mode desk.manual =
        .ok (.session cookie.value) := by
      rw [mode, Login.resolveCredential_session]
      exact (desk.login.sessionCredential_iff _).mpr ⟨cookie, stored, carries, rfl⟩
    refine ⟨submissionWith desk.tool values (.session cookie.value), ?_, by simp [submissionWith]⟩
    simp only [prepare, if_neg full, resolved]

end Desk

namespace Workplace

/-- An order that brings a credential along, and no blank token, never falls back to the session:
whatever job it asks for carries no cookie and one secret, the token without the blanks around
it or, without a token, the content of the file; and if neither can be used, it ends before any
job is asked for, with an alert unless another order is under way. A blank token, however, counts
as if no credential had been given at all: in session mode the job is then asked for with the
cookie of the session. -/
theorem submit_given (place : Workplace) (order : SubmitOrder)
    (given : order.token ≠ none ∨ order.credentialFile ≠ none) (replies : List Reply) :
    let turn := place.submit order
    let desk := place.promptDesk order
    let secret? := desk.secret? (credentialOf order)
    ((∀ token ∈ order.token, Text.isAllBlank token = false) →
      (∀ job ∈ turn.jobs replies, job.cookie = none ∧
        ∃ key value, secret? = some (key, value) ∧ job.context.secrets = [(key, .text value)]) ∧
      (secret? = none → turn.jobs replies = [] ∧ turn.stand = .ended .failure ∧
        (place.desk.form.locked = false →
          ∃ fault : ValidationFault, turn.lines = [.err ("⚠️  " ++ fault.message)]))) ∧
    ((∃ token ∈ order.token, Text.isAllBlank token = true) →
      turn = place.submit { order with token := none, credentialFile := none } ∧
      ((∃ job ∈ turn.jobs replies, job.cookie ≠ none) ↔
        place.desk.form.locked = false ∧ desk.mode = .session ∧ desk.login.hasSession = true ∧
          Prompt.normalize (place.orderValues order).prompt ≠ "")) := by
  intro turn desk secret?
  have form : desk.form.locked = place.desk.form.locked :=
    congrArg Form.locked (place.promptDesk_form order)
  refine ⟨?present, ?blank⟩
  case present =>
    intro notBlank
    rcases giveCredential_of_present desk (credentialOf_present given notBlank) with
      ⟨login, locked, mode, manual⟩
    have ready : giveCredential desk (credentialOf order) = _ := rfl
    have asked : ∀ job, job ∈ turn.jobs replies → job.cookie = none ∧
        ∃ key value, secret? = some (key, value) ∧
          job.context.secrets = [(key, .text value)] := by
      intro job found
      have made := ((mem_jobs_submit ready replies).mp found).2
      have carried := Desk.prepare_secret mode made
      rwa [manual, Desk.secret?_congr login] at carried
    refine ⟨asked, ?_⟩
    intro unusable
    have none : turn.jobs replies = [] := by
      apply List.eq_nil_iff_forall_not_mem.mpr
      intro job found
      rcases (asked job found).2 with ⟨key, value, usable, -⟩
      rw [unusable] at usable
      cases usable
    have ended := submit_of_jobless ready none
    rw [locked, form] at ended
    exact ⟨none, ended⟩
  case blank =>
    rintro ⟨token, same, blank⟩
    have ready := giveCredential_of_blank desk (credentialOf_blank same blank)
    constructor
    · change place.submit order = _
      rw [submit_eq, submit_eq, show giveCredential (place.promptDesk order)
        (credentialOf order) = place.promptDesk order from ready]
      rfl
    · rw [← Desk.prepare_cookie_iff, ← form, ← exists_and_left]
      apply exists_congr
      intro job
      rw [show job ∈ turn.jobs replies ↔ _ from mem_jobs_submit ready replies, and_assoc]

/-- There is a session, but a token is given, or a file that there is not. -/
theorem submit_given_token :
    let raw := (Session.mk "cookie" none).encode .slack
    let storage : FileStorage :=
      { files := ⟨[(["fields.db"], .database .empty),
          (["session.json"], .file (Text.Utf8.encode (Cookie.lasting raw).write))]⟩
        cookiePath := "session.json"
        databasePath := "fields.db" }
    let login := Login.start .slackChannel ⟨"", "", "", "", none⟩ storage 0 true
    let desk := (Desk.start login .standard ⟨fun text => text, fun text => text⟩).1
    let place : Workplace := ⟨desk, default, none⟩
    let order : SubmitOrder := ⟨some "What is new?", none, some " xoxp-1 ", none, false⟩
    let other : SubmitOrder := ⟨none, none, none, some "key.json", false⟩
    ((place.submit order).jobs []).length = 1 ∧
      (∀ job ∈ (place.submit order).jobs [], job.cookie = none) ∧
      (place.submit other).jobs [] = [] := by
  intro raw storage login desk place order other
  have present : ∀ token ∈ order.token, Text.isAllBlank token = false := by
    rintro token ⟨⟩
    decide +kernel
  have missing : (place.promptDesk other).secret? (credentialOf other) = none := by
    decide +kernel
  have token := (submit_given place order (by decide) []).1 present
  have file := (submit_given place other (by decide) []).1 (by rintro token ⟨⟩)
  exact ⟨by decide +kernel, fun job found => (token.1 job found).1, (file.2 missing).1⟩

/-- There is a session, and the token given is blank: the job carries the session's cookie. -/
theorem submit_given_blank :
    let raw := (Session.mk "cookie" none).encode .slack
    let storage : FileStorage :=
      { files := ⟨[(["fields.db"], .database .empty),
          (["session.json"], .file (Text.Utf8.encode (Cookie.lasting raw).write))]⟩
        cookiePath := "session.json"
        databasePath := "fields.db" }
    let login := Login.start .slackChannel ⟨"", "", "", "", none⟩ storage 0 true
    let desk := (Desk.start login .standard ⟨fun text => text, fun text => text⟩).1
    let place : Workplace := ⟨desk, default, none⟩
    let order : SubmitOrder := ⟨some "What is new?", none, some " ", none, false⟩
    ((place.submit order).jobs []).map (·.cookie) = [some raw] := by
  decide +kernel

end Workplace

end PromptClient
