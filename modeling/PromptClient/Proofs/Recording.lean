import PromptClient.Proofs.Stores
import PromptClient.Proofs.Vouching

/-! # What attempts put into the history

The history is read and written in two steps of an attempt. Since the form's lock keeps attempts
apart, nothing comes between these two, and each prompt whose job is asked for is recorded as if
that were done at once. -/

namespace PromptClient

namespace History

variable {σ : Type} [FieldStore σ] {atWork : σ → Prop}

/-- Recording prompts writes the field of the history and no other. -/
theorem recordAll_other (faithful : FieldStore.Faithful atWork) {place : σ}
    (ready : atWork place) {space other name : String} (different : ¬(other = space ∧ name = field))
    (prompts : List String) :
    FieldStore.field? (recordAll place space prompts) other name =
      FieldStore.field? place other name := by
  induction prompts generalizing place with
  | nil => rfl
  | cons prompt prompts induction =>
      rw [recordAll_cons, induction (record_stays faithful.toWorking ready space prompt)]
      by_cases blank : Prompt.normalize prompt = ""
      · rw [record_of_blank _ _ blank]
      · rw [record_of_full _ _ blank]
        exact faithful.others _ ready different

end History

/-- What an attempt has in hand fits the entries as they are now: a prompt that is not blank,
and the entries that it makes of these. -/
def Attempt.Fits (entries : List String) : Attempt → Prop
  | .readingFile values _ => Prompt.normalize values.prompt ≠ ""
  | .recalling submission => Prompt.normalize submission.prompt ≠ ""
  | .remembering submission next =>
      Prompt.normalize submission.prompt ≠ "" ∧
        next = History.push (Prompt.normalize submission.prompt) entries
  | _ => True

namespace Desk

variable {σ : Type} [Storage σ]

/-- Of whatever is asked for, the prompt has been recorded, and nothing else is stored. -/
structure Records (desk : Desk σ) (result : Desk σ × List Event × Attempt) : Prop where
  tool : result.1.tool = desk.tool
  storage : result.1.storage = History.recordAll desk.storage desk.tool.storageSpace
    ((Event.creations result.2.1).map (·.prompt))
  full : ∀ submission ∈ Event.creations result.2.1, Prompt.normalize submission.prompt ≠ ""
  fits : result.2.2.Fits result.1.history

/-- Whatever asks for nothing and leaves the storage alone. -/
theorem records_of_silent {desk after : Desk σ} {events : List Event} {attempt : Attempt}
    (login : after.login = desk.login) (silent : Event.creations events = [])
    (fits : attempt.Fits desk.history) : desk.Records (after, events, attempt) where
  tool := congrArg Login.tool login
  storage := by
    rw [silent]
    exact congrArg Login.storage login
  full := by simp [silent]
  fits := by
    have same : after.history = desk.history := by
      simp only [history, storage, tool, login]
    rw [same]
    exact fits

theorem refuse_records (desk : Desk σ) (fault : ValidationFault) :
    desk.Records (desk.refuse fault) :=
  records_of_silent rfl rfl trivial

theorem afterFile_records {desk : Desk σ} {values : FormValues} {path : String}
    (fits : (Attempt.readingFile values path).Fits desk.history) :
    desk.Records (desk.afterFile values path) := by
  unfold afterFile
  split
  · exact desk.refuse_records _
  · split
    · exact desk.refuse_records _
    · exact records_of_silent rfl rfl fits

theorem afterRecall_records {desk : Desk σ} {submission : Submission}
    (fits : (Attempt.recalling submission).Fits desk.history) :
    desk.Records (desk.afterRecall submission) := by
  have full : Prompt.normalize submission.prompt ≠ "" := fits
  simp only [afterRecall, full, if_false]
  exact records_of_silent rfl rfl ⟨full, rfl⟩

theorem afterRemember_records {desk : Desk σ} {submission : Submission} {next : List String}
    (fits : (Attempt.remembering submission next).Fits desk.history) :
    desk.Records (desk.afterRemember submission next) where
  tool := rfl
  storage := by
    rcases fits with ⟨full, rfl⟩
    change History.store _ _ _ = (History.record _ _ submission.prompt).2
    rw [History.record_of_full _ _ full]
    rfl
  full := by
    intro other found
    rw [List.mem_singleton.mp (show other ∈ [submission] from found)]
    exact fits.1
  fits := trivial

theorem afterReply_records (desk : Desk σ) {errand : Errand}
    (begun : ∀ submission, errand ≠ .creating submission) :
    desk.Records (desk.afterReply errand) := by
  cases errand with
  | creating submission => exact absurd rfl (begun submission)
  | asking job waited | resting job waited =>
      rw [desk.afterReply_of_waiting rfl]
      exact records_of_silent rfl rfl trivial
  | finished job outcome =>
      change desk.Records (desk.conclude outcome)
      exact records_of_silent rfl rfl trivial
  | crashed =>
      change desk.Records desk.abandon
      exact records_of_silent rfl rfl trivial

theorem step_records {desk : Desk σ} {attempt : Attempt} (fits : attempt.Fits desk.history)
    (reply : Reply) : desk.Records (desk.step attempt reply) := by
  cases attempt with
  | readingFile values path => exact afterFile_records fits
  | recalling submission =>
      simp only [step]
      exact afterRecall_records fits
  | remembering submission next => exact afterRemember_records fits
  | working errand =>
      exact desk.afterReply_records (Errand.next_ne_creating desk.policy errand reply)
  | «over» outcome | crashed => exact records_of_silent rfl rfl trivial

theorem beginAttempt_records (desk : Desk σ) (values : FormValues) :
    desk.Records (desk.beginAttempt values) := by
  cases locked : desk.form.locked with
  | true =>
      rw [beginAttempt_of_locked values locked]
      exact records_of_silent rfl rfl trivial
  | false =>
      simp only [beginAttempt, lock?_of_unlocked locked]
      split
      · exact records_of_silent rfl rfl trivial
      · rename_i full
        split
        · exact records_of_silent rfl rfl trivial
        · exact records_of_silent rfl rfl full
        · refine records_of_silent rfl rfl ?_
          change Prompt.normalize (submissionWith _ _ _).prompt ≠ ""
          rwa [submissionWith_prompt]

end Desk

/-! ## Attempts side by side -/

theorem Seat.eq_of_waiting? {attempt next : Attempt}
    (found : (Seat.taken attempt).waiting? = some next) : next = attempt := by
  injection (Seat.waiting?_eq_some found).1 with same
  exact same.symm

namespace Crowd

variable {σ : Type}

/-- The jobs that have been asked for, in order. -/
def sent (crowd : Crowd σ) : List Submission :=
  crowd.calls.filterMap (·.2.creation?)

theorem ActedAt.sent_eq {crowd after : Crowd σ} {number : Nat} {events : List Event}
    {seat : Seat} (acted : crowd.ActedAt number events seat after) :
    after.sent = crowd.sent ++ Event.creations events := by
  rw [sent, acted.calls_eq, List.filterMap_append, List.filterMap_map]
  rfl

theorem mem_sent {crowd : Crowd σ} {submission : Submission} :
    submission ∈ crowd.sent ↔ ∃ number, (number, .create submission) ∈ crowd.calls := by
  simp only [sent, List.mem_filterMap, Prod.exists]
  constructor
  · rintro ⟨number, request, found, same⟩
    cases request with
    | create other =>
        cases same
        exact ⟨number, found⟩
    | fetch key => cases same
  · exact fun ⟨number, found⟩ => ⟨number, _, found, rfl⟩

variable [Storage σ]

/-- Whoever waits has something in hand that fits the history. -/
def Fits (crowd : Crowd σ) : Prop :=
  ∀ number attempt, crowd.waiting? number = some attempt → attempt.Fits crowd.desk.history

/-- Some jobs have been asked for, and their prompts have been recorded. -/
structure Records (crowd after : Crowd σ) (jobs : List Submission) : Prop where
  tool : after.desk.tool = crowd.desk.tool
  sent : after.sent = crowd.sent ++ jobs
  storage : after.desk.storage = History.recordAll crowd.desk.storage
    crowd.desk.tool.storageSpace (jobs.map (·.prompt))
  full : ∀ job ∈ jobs, Prompt.normalize job.prompt ≠ ""
  fits : after.Fits

variable {crowd after : Crowd σ} {number : Nat}

/-- The attempt that acts may be the one that waits or one that has just come. -/
theorem ActedAt.records {events : List Event} {seat : Seat} {attempt : Attempt}
    (acted : crowd.ActedAt number events seat after)
    (alone : ∀ other, other ≠ number → ¬ crowd.Waits other)
    (records : crowd.desk.Records (after.desk, events, attempt))
    (waits : ∀ next, seat.waiting? = some next → next = attempt) :
    crowd.Records after (Event.creations events) where
  tool := records.tool
  sent := acted.sent_eq
  storage := records.storage
  full := records.full
  fits := by
    intro other next found
    by_cases same : other = number
    · subst same
      rw [waiting?, acted.here, Option.bind_some] at found
      rw [waits next found]
      exact records.fits
    · refine absurd ?_ (alone other same)
      rw [← acted.waits_other same, Waits, found]
      rfl

theorem records_of_same (fits : crowd.Fits) : crowd.Records crowd [] :=
  ⟨rfl, by simp, rfl, by simp, fits⟩

theorem enter_records (orderly : crowd.Orderly) (fits : crowd.Fits) (values : FormValues) :
    ∃ jobs, crowd.Records (crowd.move (.enter values)) jobs := by
  cases locked : crowd.desk.form.locked with
  | true =>
      rw [move_enter_of_locked values locked]
      have acted := crowd.join_acted crowd.desk [] .busy
      refine ⟨[], rfl, acted.sent_eq, rfl, by simp, ?_⟩
      intro number attempt found
      apply fits number
      by_cases same : number = crowd.seats.length
      · subst same
        rw [waiting?, acted.here] at found
        cases found
      · rwa [waiting?, acted.others number same] at found
  | false =>
      have records := crowd.desk.beginAttempt_records values
      rcases begun : crowd.desk.beginAttempt values with ⟨desk, events, attempt⟩
      rw [begun] at records
      have acted := crowd.join_acted desk events (.taken attempt)
      have joined : crowd.move (.enter values) = crowd.join desk events (.taken attempt) := by
        simp only [move, begun]
      rw [joined]
      refine ⟨_, acted.records ?_ records fun next found => Seat.eq_of_waiting? found⟩
      intro other _ waits
      have taken := orderly.locked.mpr ⟨other, waits⟩
      rw [locked] at taken
      cases taken

omit [Storage σ] in
/-- While somebody waits, nobody else does. -/
theorem Orderly.alone (orderly : crowd.Orderly) {attempt : Attempt}
    (found : crowd.waiting? number = some attempt) :
    ∀ other, other ≠ number → ¬ crowd.Waits other := by
  intro other different waits
  have here : crowd.Waits number := by rw [Waits, found]; rfl
  exact different (orderly.single other number waits here)

theorem proceed_records (orderly : crowd.Orderly) (fits : crowd.Fits) (number : Nat)
    (reply : Reply) : ∃ jobs, crowd.Records (crowd.move (.proceed number reply)) jobs := by
  cases found : crowd.waiting? number with
  | none =>
      simp only [move, found]
      exact ⟨[], records_of_same fits⟩
  | some attempt =>
      have known := (List.getElem?_eq_some_iff.mp (seat_of_waiting found).1).1
      simp only [move, found]
      refine ⟨_, (settle_acted known _ _ _).records (orderly.alone found)
        (Desk.step_records (fits number attempt found) reply) ?_⟩
      exact fun next found => Seat.eq_of_waiting? found

theorem callOff_records (orderly : crowd.Orderly) (fits : crowd.Fits) (number : Nat) :
    ∃ jobs, crowd.Records (crowd.move (.callOff number)) jobs := by
  cases found : crowd.waiting? number with
  | none =>
      simp only [move, found]
      exact ⟨[], records_of_same fits⟩
  | some attempt =>
      rcases seat_of_waiting found with ⟨sits, waiting⟩
      have known := (List.getElem?_eq_some_iff.mp sits).1
      have cancelled : crowd.desk.cancel attempt = crowd.desk.unlock := by
        simp [Desk.cancel, waiting]
      have silent : crowd.desk.Records (crowd.desk.unlock.1, crowd.desk.unlock.2, .crashed) :=
        Desk.records_of_silent rfl rfl trivial
      simp only [move, found, cancelled]
      refine ⟨_, (settle_acted known _ _ _).records (orderly.alone found) silent ?_⟩
      intro next waits
      cases waits

/-- Nobody is disturbed by what changes outside, as long as the history stays. -/
theorem outside_records (fits : crowd.Fits) (login : Login σ)
    (tool : login.tool = crowd.desk.tool) (storage : login.storage = crowd.desk.storage)
    (mode : CredentialMode) (manual : ManualCredential) (layout : CredentialLayout) :
    crowd.Records (crowd.move (.outside login mode manual layout)) [] where
  tool := tool
  sent := by simp [move, sent, calls]
  storage := storage
  full := by simp
  fits := by
    intro number attempt found
    have same : (crowd.move (.outside login mode manual layout)).desk.history =
        crowd.desk.history := by
      simp only [move, Desk.history, Desk.storage, Desk.tool] at tool storage ⊢
      rw [tool, storage]
    rw [same]
    exact fits number attempt found

end Crowd

end PromptClient
